import PicoBroker.Broker.Topics

set_option autoImplicit false

namespace PicoBroker

structure RetainedEntry where
  topic : Text 128
  payload : Text 512
  qos : QoS
deriving DecidableEq

inductive RetainedError where
  | topicTooLong
  | payloadTooLarge
  | full
deriving DecidableEq

-- The entries are private and only `set` writes them.
structure RetainedStore (maxRetained : Nat) where
  entries : Bounded RetainedEntry maxRetained
  distinct : (entries.items.map RetainedEntry.topic).Nodup
deriving DecidableEq

namespace RetainedStore

variable {maxRetained : Nat}

def new : RetainedStore maxRetained := ⟨.empty, by simp⟩

def find (store : RetainedStore maxRetained) (topic : Text 128) : Option Nat :=
  store.entries.items.findIdx? fun entry => entry.topic.items == topic.items

theorem distinct_eraseIdx (store : RetainedStore maxRetained) (index : Nat) :
    ((store.entries.eraseIdx index).items.map RetainedEntry.topic).Nodup :=
  store.distinct.sublist ((List.eraseIdx_sublist _ _).map _)

theorem distinct_modify (store : RetainedStore maxRetained) (index : Nat)
    {f : RetainedEntry → RetainedEntry} (keeps : ∀ entry, (f entry).topic = entry.topic) :
    ((store.entries.modify index f).items.map RetainedEntry.topic).Nodup := by
  have same : (store.entries.modify index f).items.map RetainedEntry.topic =
      store.entries.items.map RetainedEntry.topic := by
    apply List.ext_getElem?
    intro position
    rw [Bounded.modify_items, List.getElem?_map, List.getElem?_map, List.getElem?_modify]
    cases store.entries.items[position]? with
    | none => rfl
    | some entry => by_cases here : index = position <;> simp [here, keeps]
  rw [same]
  exact store.distinct

theorem distinct_push {store : RetainedStore maxRetained} {entry : RetainedEntry}
    {entries : Bounded RetainedEntry maxRetained} (missing : store.find entry.topic = none)
    (pushed : store.entries.push entry = some entries) :
    (entries.items.map RetainedEntry.topic).Nodup := by
  rw [(Bounded.push_eq_some.mp pushed).2, List.map_append, List.nodup_append]
  refine ⟨store.distinct, by simp, ?_⟩
  rintro topic member other single rfl
  obtain ⟨old, stored, rfl⟩ := List.mem_map.mp member
  have different := List.findIdx?_eq_none_iff.mp missing old stored
  have same : old.topic = entry.topic := by simpa using single
  simp [same] at different

def setInPlace (store : RetainedStore maxRetained) (topic payload : Bytes) (qos : QoS) :
    RetainedStore maxRetained × Except RetainedError Unit :=
  match Bounded.ofList? topic with
  | none => (store, .error .topicTooLong)
  | some topic =>
      match found : store.find topic with
      | some index =>
          if payload.isEmpty then (⟨store.entries.eraseIdx index, store.distinct_eraseIdx index⟩, .ok ())
          else
            match Bounded.ofList? payload with
            | none => (store, .error .payloadTooLarge)
            | some payload =>
                let paid : RetainedStore maxRetained :=
                  ⟨store.entries.modify index fun entry => { entry with payload := payload },
                    store.distinct_modify index fun _ => rfl⟩
                (⟨paid.entries.modify index fun entry => { entry with qos := qos },
                  paid.distinct_modify index fun _ => rfl⟩, .ok ())
      | none =>
          if payload.isEmpty then (store, .ok ())
          else
            match Bounded.ofList? payload with
            | none => (store, .error .payloadTooLarge)
            | some payload =>
                match pushed : store.entries.push ⟨topic, payload, qos⟩ with
                | none => (store, .error .full)
                | some entries => (⟨entries, distinct_push found pushed⟩, .ok ())

def set (store : RetainedStore maxRetained) (topic payload : Bytes) (qos : QoS) :
    Except RetainedError (RetainedStore maxRetained) :=
  match store.setInPlace topic payload qos with
  | (after, .ok ()) => .ok after
  | (_, .error error) => .error error

def matching (store : RetainedStore maxRetained) (filter : Bytes) : List RetainedEntry :=
  store.entries.items.filter fun entry => topicMatches filter entry.topic.items

def Reflects (store : RetainedStore maxRetained) (topic payload : Bytes) (qos : QoS) : Prop :=
  if payload = [] then ∀ entry ∈ store.entries.items, entry.topic.items ≠ topic
  else ∃ entry ∈ store.entries.items,
    entry.topic.items = topic ∧ entry.payload.items = payload ∧ entry.qos = qos

def Storable (store : RetainedStore maxRetained) (topic payload : Bytes) : Prop :=
  topic.length ≤ 128 ∧ (payload = [] ∨ payload.length ≤ 512 ∧
    ((∃ entry ∈ store.entries.items, entry.topic.items = topic) ∨ store.entries.items.length < maxRetained))

variable {store : RetainedStore maxRetained}

theorem find_eq_some {topic : Text 128} {index : Nat} (found : store.find topic = some index) :
    ∃ entry, store.entries.items[index]? = some entry ∧ entry.topic.items = topic.items := by
  obtain ⟨inside, matched, _⟩ := List.findIdx?_eq_some_iff_getElem.mp found
  exact ⟨_, List.getElem?_eq_getElem inside, by simpa using matched⟩

theorem find_eq_none {topic : Text 128} :
    store.find topic = none ↔ ∀ entry ∈ store.entries.items, entry.topic.items ≠ topic.items := by
  simp [find, List.findIdx?_eq_none_iff]

theorem mem_eraseIdx_ne {topic : Text 128} {index : Nat} (found : store.find topic = some index)
    {entry : RetainedEntry} (member : entry ∈ store.entries.items.eraseIdx index) :
    entry.topic.items ≠ topic.items := by
  obtain ⟨erased, stored, sameTopic⟩ := find_eq_some found
  obtain ⟨position, different, present⟩ := List.mem_eraseIdx_iff_getElem?.mp member
  intro same
  have sameNames : entry.topic = erased.topic := Bounded.ext (same.trans sameTopic.symm)
  have inside : position < (store.entries.items.map RetainedEntry.topic).length := by
    rw [List.length_map]
    exact (List.getElem?_eq_some_iff.mp present).1
  apply different
  rw [← List.getElem?_inj inside store.distinct, List.getElem?_map, List.getElem?_map, present, stored]
  simp [sameNames]

-- The two writes to an entry together are one change.
theorem modify_twice (entries : Bounded RetainedEntry maxRetained) (index : Nat) (payload : Text 512) (qos : QoS) :
    (entries.modify index fun entry => { entry with payload := payload }).modify index
        (fun entry => { entry with qos := qos }) =
      entries.modify index fun entry => { entry with payload := payload, qos := qos } := by
  refine Bounded.ext (List.ext_getElem? fun position => ?_)
  simp only [Bounded.modify_items, List.getElem?_modify]
  by_cases here : index = position <;> cases entries.items[position]? <;> simp [here]

inductive Setting (store : RetainedStore maxRetained) (topic payload : Bytes) (qos : QoS) :
    RetainedStore maxRetained × Except RetainedError Unit → Prop
  | topicTooLong (long : 128 < topic.length) : Setting store topic payload qos (store, .error .topicTooLong)
  | payloadTooLarge {name : Text 128} (sameTopic : name.items = topic) (large : 512 < payload.length) :
      Setting store topic payload qos (store, .error .payloadTooLarge)
  | full {name : Text 128} {bytes : Text 512} (sameTopic : name.items = topic) (samePayload : bytes.items = payload)
      (nonempty : payload ≠ []) (missing : store.find name = none)
      (size : store.entries.items.length = maxRetained) :
      Setting store topic payload qos (store, .error .full)
  | cleared {name : Text 128} {index : Nat} {after : RetainedStore maxRetained} (sameTopic : name.items = topic)
      (empty : payload = []) (found : store.find name = some index)
      (erased : after.entries = store.entries.eraseIdx index) : Setting store topic payload qos (after, .ok ())
  | absent {name : Text 128} (sameTopic : name.items = topic) (empty : payload = [])
      (missing : store.find name = none) : Setting store topic payload qos (store, .ok ())
  | replaced {name : Text 128} {bytes : Text 512} {index : Nat} {after : RetainedStore maxRetained}
      (sameTopic : name.items = topic) (samePayload : bytes.items = payload) (nonempty : payload ≠ [])
      (found : store.find name = some index)
      (modified : after.entries =
        store.entries.modify index fun entry => { entry with payload := bytes, qos := qos }) :
      Setting store topic payload qos (after, .ok ())
  | added {name : Text 128} {bytes : Text 512} {after : RetainedStore maxRetained}
      (sameTopic : name.items = topic) (samePayload : bytes.items = payload) (nonempty : payload ≠ [])
      (pushed : store.entries.push ⟨name, bytes, qos⟩ = some after.entries) :
      Setting store topic payload qos (after, .ok ())

theorem setInPlace_spec (store : RetainedStore maxRetained) (topic payload : Bytes) (qos : QoS) :
    Setting store topic payload qos (store.setInPlace topic payload qos) := by
  unfold setInPlace
  split
  · next long => exact .topicTooLong (Bounded.ofList?_eq_none.mp long)
  · next name converted =>
    have sameTopic := Bounded.ofList?_eq_some.mp converted
    split
    · next index found =>
      split
      · next empty => exact .cleared sameTopic (List.isEmpty_iff.mp empty) found rfl
      · next nonempty =>
        split
        · next large => exact .payloadTooLarge sameTopic (Bounded.ofList?_eq_none.mp large)
        · next bytes fits =>
          exact .replaced sameTopic (Bounded.ofList?_eq_some.mp fits) (by simpa using nonempty) found
            (modify_twice _ _ _ _)
    · next missing =>
      split
      · next empty => exact .absent sameTopic (List.isEmpty_iff.mp empty) missing
      · next nonempty =>
        split
        · next large => exact .payloadTooLarge sameTopic (Bounded.ofList?_eq_none.mp large)
        · next bytes fits =>
          have samePayload := Bounded.ofList?_eq_some.mp fits
          split
          · next stuck =>
            exact .full sameTopic samePayload (by simpa using nonempty) missing (Bounded.push_eq_none.mp stuck)
          · next entries pushed => exact .added sameTopic samePayload (by simpa using nonempty) pushed

theorem set_eq_ok {topic payload : Bytes} {qos : QoS} {after : RetainedStore maxRetained} :
    store.set topic payload qos = .ok after ↔ store.setInPlace topic payload qos = (after, .ok ()) := by
  unfold set
  split <;> simp_all

theorem set_eq_error {topic payload : Bytes} {qos : QoS} {error : RetainedError} :
    store.set topic payload qos = .error error ↔ (store.setInPlace topic payload qos).2 = .error error := by
  unfold set
  split <;> simp_all

theorem set_ok_reflects {topic payload : Bytes} {qos : QoS} {after : RetainedStore maxRetained}
    (ok : store.set topic payload qos = .ok after) : after.Reflects topic payload qos := by
  have setting := store.setInPlace_spec topic payload qos
  rw [set_eq_ok.mp ok] at setting
  unfold Reflects
  cases setting with
  | cleared sameTopic empty found erased =>
    rw [if_pos empty, ← sameTopic, erased]
    exact fun entry member => mem_eraseIdx_ne found member
  | absent sameTopic empty missing =>
    rw [if_pos empty, ← sameTopic]
    exact find_eq_none.mp missing
  | @replaced name bytes index _ sameTopic samePayload nonempty found modified =>
    obtain ⟨entry, stored, sameName⟩ := find_eq_some found
    rw [if_neg nonempty, modified]
    refine ⟨{ entry with payload := bytes, qos := qos }, ?_, sameName.trans sameTopic, samePayload, rfl⟩
    apply List.mem_of_getElem? (i := index)
    simp [stored]
  | @added name bytes _ sameTopic samePayload nonempty pushed =>
    rw [if_neg nonempty]
    refine ⟨⟨name, bytes, qos⟩, ?_, sameTopic, samePayload, rfl⟩
    simp [(Bounded.push_eq_some.mp pushed).2]

theorem set_ok_iff {topic payload : Bytes} {qos : QoS} :
    (∃ after, store.set topic payload qos = .ok after) ↔ store.Storable topic payload := by
  have setting := store.setInPlace_spec topic payload qos
  simp only [set_eq_ok]
  generalize store.setInPlace topic payload qos = reply at setting
  have short {name : Text 128} (sameTopic : name.items = topic) : topic.length ≤ 128 := sameTopic ▸ name.fits
  have fits {bytes : Text 512} (samePayload : bytes.items = payload) : payload.length ≤ 512 :=
    samePayload ▸ bytes.fits
  cases setting with
  | topicTooLong long => exact iff_of_false (by simp) fun storable => Nat.not_le_of_lt long storable.1
  | payloadTooLarge _ large =>
    refine iff_of_false (by simp) ?_
    rintro ⟨_, rfl | ⟨small, _⟩⟩
    · cases large
    · exact Nat.not_le_of_lt large small
  | full sameTopic _ nonempty missing size =>
    refine iff_of_false (by simp) ?_
    rintro ⟨_, empty | ⟨_, ⟨entry, stored, sameName⟩ | room⟩⟩
    · exact nonempty empty
    · exact find_eq_none.mp missing entry stored (sameName.trans sameTopic.symm)
    · omega
  | cleared sameTopic empty | absent sameTopic empty =>
    exact iff_of_true ⟨_, rfl⟩ ⟨short sameTopic, .inl empty⟩
  | replaced sameTopic samePayload _ found =>
    obtain ⟨entry, stored, sameName⟩ := find_eq_some found
    exact iff_of_true ⟨_, rfl⟩ ⟨short sameTopic, .inr ⟨fits samePayload,
      .inl ⟨entry, List.mem_of_getElem? stored, sameName.trans sameTopic⟩⟩⟩
  | added sameTopic samePayload _ pushed =>
    exact iff_of_true ⟨_, rfl⟩ ⟨short sameTopic, .inr ⟨fits samePayload, .inr (Bounded.push_eq_some.mp pushed).1⟩⟩

end RetainedStore

end PicoBroker
