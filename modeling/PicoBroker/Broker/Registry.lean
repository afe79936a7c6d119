import PicoBroker.Broker.Session
import PicoBroker.Shared.Slots

set_option autoImplicit false

namespace PicoBroker

inductive RegistryError where
  | full
  | lwtQueueFull
  | publishStoreFull
  | publishTopicTooLong
  | publishPayloadTooLarge
  | publishRefcountOverflow
  | publishHandleInvalid
deriving DecidableEq

structure StoredPublish where
  topic : Text 128
  payload : Text 512
  retain : Bool
  generation : Nat
  refcount : Nat
deriving DecidableEq

structure SessionRegistry (maxSessions maxSubs maxInflight : Nat) where
  slots : Slots (SessionState maxSubs maxInflight) maxSessions
  publishedLwts : Bounded LwtMessage maxSessions
  storedPublishes : Slots StoredPublish maxInflight
  nextPublishGeneration : Nat
deriving DecidableEq

namespace SessionRegistry

variable {maxSessions maxSubs maxInflight : Nat}

def new : SessionRegistry maxSessions maxSubs maxInflight := ⟨.empty, .empty, .empty, 1⟩

def get (registry : SessionRegistry maxSessions maxSubs maxInflight) (id : SessionId) :
    Option (SessionState maxSubs maxInflight) :=
  registry.slots.get id

-- What a write through `get_mut` leaves behind.
def put (registry : SessionRegistry maxSessions maxSubs maxInflight) (id : SessionId)
    (session : SessionState maxSubs maxInflight) : SessionRegistry maxSessions maxSubs maxInflight :=
  { registry with slots := registry.slots.set id (some session) }

def insert (registry : SessionRegistry maxSessions maxSubs maxInflight)
    (state : SessionState maxSubs maxInflight) :
    Except RegistryError (SessionId × SessionRegistry maxSessions maxSubs maxInflight) :=
  match registry.slots.firstFree with
  | some id => .ok (id, { registry with slots := registry.slots.set id (some state) })
  | none => .error .full

def storedPublish (registry : SessionRegistry maxSessions maxSubs maxInflight)
    (handle : StoredPublishHandle) : Option StoredPublish :=
  (registry.storedPublishes.get handle.slot).filter fun stored =>
    stored.generation = handle.generation

def putStored (registry : SessionRegistry maxSessions maxSubs maxInflight) (slot : Nat)
    (stored : Option StoredPublish) : SessionRegistry maxSessions maxSubs maxInflight :=
  { registry with storedPublishes := registry.storedPublishes.set slot stored }

def succGeneration (generation : Nat) : Nat :=
  if (generation + 1) % 2 ^ 32 = 0 then 1 else (generation + 1) % 2 ^ 32

-- The generation is consumed before the topic and the payload are checked.
def storePublishRef (registry : SessionRegistry maxSessions maxSubs maxInflight) (topic payload : Bytes)
    (retain : Bool) :
    SessionRegistry maxSessions maxSubs maxInflight × Except RegistryError StoredPublishHandle :=
  match registry.storedPublishes.firstFree with
  | none => (registry, .error .publishStoreFull)
  | some slot =>
      let generation := registry.nextPublishGeneration
      let registry := { registry with nextPublishGeneration := succGeneration generation }
      match Bounded.ofList? topic with
      | none => (registry, .error .publishTopicTooLong)
      | some topic =>
          match Bounded.ofList? payload with
          | none => (registry, .error .publishPayloadTooLarge)
          | some payload =>
              (registry.putStored slot (some ⟨topic, payload, retain, generation, 1⟩),
                .ok ⟨slot, generation⟩)

def acquireStoredPublish (registry : SessionRegistry maxSessions maxSubs maxInflight)
    (handle : StoredPublishHandle) :
    Except RegistryError (SessionRegistry maxSessions maxSubs maxInflight) :=
  match registry.storedPublish handle with
  | none => .error .publishHandleInvalid
  | some stored =>
      if stored.refcount + 1 < 65536 then
        .ok (registry.putStored handle.slot (some { stored with refcount := stored.refcount + 1 }))
      else .error .publishRefcountOverflow

def releaseStoredPublish (registry : SessionRegistry maxSessions maxSubs maxInflight)
    (handle : StoredPublishHandle) : SessionRegistry maxSessions maxSubs maxInflight :=
  match registry.storedPublish handle with
  | none => registry
  | some stored =>
      if stored.refcount - 1 = 0 then registry.putStored handle.slot none
      else registry.putStored handle.slot (some { stored with refcount := stored.refcount - 1 })

def releaseAll (registry : SessionRegistry maxSessions maxSubs maxInflight)
    (entries : List InflightEntry) : SessionRegistry maxSessions maxSubs maxInflight :=
  entries.foldl (fun registry entry => registry.releaseStoredPublish entry.publish) registry

def remove (registry : SessionRegistry maxSessions maxSubs maxInflight) (id : SessionId) :
    Option (SessionState maxSubs maxInflight) × SessionRegistry maxSessions maxSubs maxInflight :=
  match registry.get id with
  | none => (none, registry)
  | some removed =>
      (some removed,
        { registry with slots := registry.slots.set id none }.releaseAll removed.inflight.items)

def findByClientId (registry : SessionRegistry maxSessions maxSubs maxInflight) (clientId : Bytes) :
    Option SessionId :=
  registry.slots.find? fun state => state.clientId.items = clientId

def iter (registry : SessionRegistry maxSessions maxSubs maxInflight) :
    List (SessionId × SessionState maxSubs maxInflight) :=
  registry.slots.occupied

def isFull (registry : SessionRegistry maxSessions maxSubs maxInflight) : Bool :=
  registry.slots.count = maxSessions

def recordPublishedLwt (registry : SessionRegistry maxSessions maxSubs maxInflight) (lwt : LwtMessage) :
    Except RegistryError (SessionRegistry maxSessions maxSubs maxInflight) :=
  match registry.publishedLwts.push lwt with
  | none => .error .lwtQueueFull
  | some publishedLwts => .ok { registry with publishedLwts := publishedLwts }

variable {registry : SessionRegistry maxSessions maxSubs maxInflight}

theorem ext_get {left right : SessionRegistry maxSessions maxSubs maxInflight}
    (slots : ∀ id, left.get id = right.get id) (publishedLwts : left.publishedLwts = right.publishedLwts)
    (storedPublishes : left.storedPublishes = right.storedPublishes)
    (generation : left.nextPublishGeneration = right.nextPublishGeneration) : left = right := by
  have sameSlots : left.slots = right.slots := Slots.ext_get slots
  cases left
  cases right
  simp_all

@[simp] theorem get_new (id : SessionId) :
    (new : SessionRegistry maxSessions maxSubs maxInflight).get id = none :=
  Slots.get_empty id

theorem get_put {id : SessionId} {old : SessionState maxSubs maxInflight}
    (present : registry.get id = some old) (session : SessionState maxSubs maxInflight)
    (other : SessionId) :
    (registry.put id session).get other = if other = id then some session else registry.get other := by
  simp only [put, get, Slots.get_set, Slots.lt_of_get present, and_true, eq_comm]

theorem get_put_self {id : SessionId} {old : SessionState maxSubs maxInflight}
    (present : registry.get id = some old) (session : SessionState maxSubs maxInflight) :
    (registry.put id session).get id = some session := by
  simp [get_put present]

theorem get_put_ne {id other : SessionId} (session : SessionState maxSubs maxInflight)
    (different : other ≠ id) : (registry.put id session).get other = registry.get other :=
  Slots.get_set_ne _ _ different

theorem put_put {id : SessionId} (first second : SessionState maxSubs maxInflight) :
    (registry.put id first).put id second = registry.put id second := by
  simp [put, Slots.set_set]

theorem put_same {id : SessionId} {session : SessionState maxSubs maxInflight}
    (present : registry.get id = some session) : registry.put id session = registry := by
  refine ext_get ?_ rfl rfl rfl
  intro other
  rw [get_put present]
  split
  · next here => rw [here, present]
  · rfl

@[simp] theorem put_publishedLwts (id : SessionId) (session : SessionState maxSubs maxInflight) :
    (registry.put id session).publishedLwts = registry.publishedLwts := rfl

@[simp] theorem put_storedPublishes (id : SessionId) (session : SessionState maxSubs maxInflight) :
    (registry.put id session).storedPublishes = registry.storedPublishes := rfl

@[simp] theorem get_putStored (slot : Nat) (stored : Option StoredPublish) (id : SessionId) :
    (registry.putStored slot stored).get id = registry.get id := rfl

@[simp] theorem putStored_publishedLwts (slot : Nat) (stored : Option StoredPublish) :
    (registry.putStored slot stored).publishedLwts = registry.publishedLwts := rfl

theorem storedPublish_eq_some {handle : StoredPublishHandle} {stored : StoredPublish} :
    registry.storedPublish handle = some stored ↔
      registry.storedPublishes.get handle.slot = some stored ∧
        stored.generation = handle.generation := by
  simp [storedPublish, Option.filter_eq_some_iff]

structure SameSessions (before after : SessionRegistry maxSessions maxSubs maxInflight) : Prop where
  slots : after.slots = before.slots
  publishedLwts : after.publishedLwts = before.publishedLwts

theorem SameSessions.get {before after : SessionRegistry maxSessions maxSubs maxInflight}
    (same : SameSessions before after) (id : SessionId) : after.get id = before.get id := by
  simp [SessionRegistry.get, same.slots]

theorem SameSessions.trans {first second third : SessionRegistry maxSessions maxSubs maxInflight}
    (left : SameSessions first second) (right : SameSessions second third) :
    SameSessions first third :=
  ⟨right.slots.trans left.slots, right.publishedLwts.trans left.publishedLwts⟩

theorem releaseStoredPublish_same (handle : StoredPublishHandle) :
    SameSessions registry (registry.releaseStoredPublish handle) := by
  unfold releaseStoredPublish
  split
  · exact ⟨rfl, rfl⟩
  · split <;> exact ⟨rfl, rfl⟩

theorem releaseAll_same (entries : List InflightEntry) :
    SameSessions registry (registry.releaseAll entries) := by
  induction entries generalizing registry with
  | nil => exact ⟨rfl, rfl⟩
  | cons entry rest ih => exact (releaseStoredPublish_same entry.publish).trans ih

theorem remove_fst (id : SessionId) : (registry.remove id).1 = registry.get id := by
  unfold remove
  split <;> simp_all

theorem get_remove (id other : SessionId) :
    (registry.remove id).2.get other = if other = id then none else registry.get other := by
  unfold remove
  split
  · next absent =>
    by_cases same : other = id
    · simp [same, absent]
    · simp [same]
  · next removed present =>
    rw [(releaseAll_same _).get]
    simp only [get, Slots.get_set, Slots.lt_of_get present, and_true, eq_comm]

theorem remove_publishedLwts (id : SessionId) :
    (registry.remove id).2.publishedLwts = registry.publishedLwts := by
  unfold remove
  split
  · rfl
  · exact (releaseAll_same _).publishedLwts

theorem insert_ok {state : SessionState maxSubs maxInflight} {id : SessionId}
    {inserted : SessionRegistry maxSessions maxSubs maxInflight}
    (ok : registry.insert state = .ok (id, inserted)) :
    registry.slots.firstFree = some id ∧
      inserted = { registry with slots := registry.slots.set id (some state) } := by
  unfold insert at ok
  split at ok
  · next free => cases ok; exact ⟨free, rfl⟩
  · cases ok

theorem firstFree_eq_some {id : SessionId} :
    registry.slots.firstFree = some id ↔
      id < maxSessions ∧ registry.get id = none ∧ ∀ lower < id, registry.get lower ≠ none :=
  Slots.firstFree_eq_some

theorem isFull_iff : registry.isFull = true ↔ registry.slots.firstFree = none := by
  simp [isFull, Slots.count_eq_size_iff]

theorem insert_of_not_full (notFull : registry.isFull = false) (state : SessionState maxSubs maxInflight) :
    ∃ id inserted, registry.insert state = .ok (id, inserted) := by
  cases free : registry.slots.firstFree with
  | none =>
    rw [isFull_iff.mpr free] at notFull
    cases notFull
  | some id =>
    refine ⟨id, { registry with slots := registry.slots.set id (some state) }, ?_⟩
    simp [insert, free]

theorem findByClientId_eq_some {clientId : Bytes} {id : SessionId}
    (found : registry.findByClientId clientId = some id) :
    ∃ session, registry.get id = some session ∧ session.clientId.items = clientId := by
  obtain ⟨⟨session, present, same⟩, _⟩ := Slots.find?_eq_some.mp found
  exact ⟨session, present, by simpa using same⟩

theorem findByClientId_eq_none {clientId : Bytes} :
    registry.findByClientId clientId = none ↔
      ∀ id session, registry.get id = some session → session.clientId.items ≠ clientId := by
  simp [findByClientId, Slots.find?_eq_none, get]

end SessionRegistry

end PicoBroker
