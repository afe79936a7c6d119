import PicoBroker.Broker.Disconnect
import PicoBroker.Broker.Fanout

set_option autoImplicit false

namespace PicoBroker

variable {maxSessions maxSubs maxInflight : Nat}

def hasMatch (session : SessionState maxSubs maxInflight) (topic : Bytes) : Bool :=
  session.subscriptions.items.any fun subscription => topicMatches subscription.filter.items topic

-- `collect_subscribers` of `router/subscriptions.rs` looks for an id before it adds it.
def Router.collect {maxMatches : Nat} (topic : Bytes) (subscribers : Bounded SessionId maxMatches)
    (entry : SessionId × SessionState maxSubs maxInflight) : Bounded SessionId maxMatches :=
  if hasMatch entry.2 topic && !(subscribers.items.any fun existing => existing == entry.1) then
    subscribers.pushAll [entry.1]
  else subscribers

def Router.collectSubscribers (maxMatches : Nat) (registry : SessionRegistry maxSessions maxSubs maxInflight)
    (topic : Bytes) : Bounded SessionId maxMatches :=
  registry.iter.foldl (Router.collect topic) .empty

section

variable {registry : SessionRegistry maxSessions maxSubs maxInflight} {topic : Bytes}

theorem hasMatch_eq (session : SessionState maxSubs maxInflight) (topic : Bytes) :
    hasMatch session topic = (matchedQos session.subscriptions.items topic).isSome := by
  rw [Bool.eq_iff_iff, ← Option.ne_none_iff_isSome, ne_eq, matchedQos_eq_none]
  simp [hasMatch]

-- The sessions that a search leaves out are the only difference between two searches.
theorem collectSubscribers_eq_filter (skipped : SessionId → SessionState maxSubs maxInflight → Bool) :
    (collectSubscribers registry topic skipped).items =
      (findAllSubscribers registry topic).items.filter fun subscriber =>
        !((registry.get subscriber.1).any fun session => skipped subscriber.1 session) := by
  rw [findAllSubscribers, collectSubscribers_items, collectSubscribers_items, List.filter_filterMap]
  refine List.filterMap_congr fun entry listed => ?_
  have found : registry.get entry.1 = some entry.2 := Slots.mem_occupied.mp listed
  cases matched : matchedQos entry.2.subscriptions.items topic with
  | none => simp
  | some granted => by_cases left : skipped entry.1 entry.2 = true <;> simp [Option.filter, found, left]

theorem collect_loop {maxMatches : Nat} (entries : List (SessionId × SessionState maxSubs maxInflight))
    (subscribers : Bounded SessionId maxMatches)
    (increasing : entries.Pairwise fun left right => left.1 < right.1)
    (below : ∀ id ∈ subscribers.items, ∀ entry ∈ entries, id < entry.1)
    (room : subscribers.items.length + entries.length ≤ maxMatches) :
    (entries.foldl (Router.collect topic) subscribers).items =
      subscribers.items ++ (entries.filter fun entry => hasMatch entry.2 topic).map Prod.fst := by
  induction entries generalizing subscribers with
  | nil => simp
  | cons entry entries ih =>
    rw [List.pairwise_cons] at increasing
    rw [List.length_cons] at room
    have later : ∀ id ∈ subscribers.items, ∀ other ∈ entries, id < other.1 :=
      fun id member other listed => below id member other (List.mem_cons_of_mem _ listed)
    by_cases matched : hasMatch entry.2 topic = true
    · have new : ∀ id ∈ subscribers.items, id ≠ entry.1 :=
        fun id member => Nat.ne_of_lt (below id member entry (List.mem_cons_self ..))
      have step : (Router.collect topic subscribers entry).items = subscribers.items ++ [entry.1] := by
        rw [Router.collect, if_pos (by simpa [matched] using new)]
        exact Bounded.pushAll_items _ _ (by simp; omega)
      rw [List.foldl_cons, ih _ increasing.2, step]
      · simp [matched]
      · rw [step, List.forall_mem_append]
        exact ⟨later, by simpa using increasing.1⟩
      · rw [step, List.length_append, List.length_singleton]
        omega
    · have step : Router.collect topic subscribers entry = subscribers := by simp [Router.collect, matched]
      rw [List.foldl_cons, step, ih _ increasing.2 later (by omega)]
      simp [matched]

theorem router_collectSubscribers {maxMatches : Nat} (room : maxSessions ≤ maxMatches) :
    (Router.collectSubscribers maxMatches registry topic).items = (findAllSubscribers registry topic).items.map Prod.fst := by
  have bounded : registry.iter.length ≤ maxSessions := registry.slots.count_le
  rw [Router.collectSubscribers, collect_loop registry.iter .empty registry.slots.occupied_increasing (by simp)
    (by simp; omega), findAllSubscribers, collectSubscribers_items, Bounded.empty_items, List.nil_append,
    List.map_filterMap, ← List.filterMap_eq_map, ← List.filterMap_eq_filter, List.filterMap_filterMap]
  refine List.filterMap_congr fun entry _ => ?_
  cases matched : matchedQos entry.2.subscriptions.items topic <;> simp [Option.guard, hasMatch_eq, matched]

end

structure SearchesAgree (registry : SessionRegistry maxSessions maxSubs maxInflight) (topic : Bytes) : Prop where
  increasing : (findAllSubscribers registry topic).items.Pairwise fun left right => left.1 < right.1
  sessions : ∀ id, id ∈ (findAllSubscribers registry topic).items.map Prod.fst ↔
    ∃ session, registry.get id = some session ∧
      ∃ subscription ∈ session.subscriptions.items, topicMatches subscription.filter.items topic = true
  highest : ∀ id granted, (id, granted) ∈ (findAllSubscribers registry topic).items ↔
    ∃ session, registry.get id = some session ∧ Granted session.subscriptions.items topic granted
  sender : ∀ senderId, (findSubscribers registry topic senderId).items =
    (findAllSubscribers registry topic).items.filter fun subscriber => subscriber.1 ≠ senderId
  ids : ∀ maxMatches, maxSessions ≤ maxMatches → (Router.collectSubscribers maxMatches registry topic).items =
    (findAllSubscribers registry topic).items.map Prod.fst
  will : ∀ (clientId : Bytes) (lwt : LwtMessage), lwt.topic.items = topic →
    (findLwtSubscribers registry clientId lwt).items =
      (findAllSubscribers registry topic).items.filter fun subscriber =>
        !((registry.get subscriber.1).any fun session => session.clientId.items == clientId)

theorem searches_agree (registry : SessionRegistry maxSessions maxSubs maxInflight) (topic : Bytes) :
    SearchesAgree registry topic := by
  have highest (id : SessionId) (granted : QoS) : (id, granted) ∈ (findAllSubscribers registry topic).items ↔
      ∃ session, registry.get id = some session ∧ Granted session.subscriptions.items topic granted := by
    rw [findAllSubscribers, mem_collectSubscribers]
    simp [Subscribed, matchedQos_eq_some]
  refine ⟨collectSubscribers_increasing .., fun id => ?_, highest, fun senderId => ?_,
    fun _ room => router_collectSubscribers room, fun clientId lwt same => ?_⟩
  · constructor
    · intro listed
      obtain ⟨⟨_, granted⟩, member, rfl⟩ := List.mem_map.mp listed
      obtain ⟨session, found, best⟩ := (highest _ granted).mp member
      obtain ⟨subscription, held, matched, _⟩ := best.attained
      exact ⟨session, found, subscription, held, matched⟩
    · rintro ⟨session, found, subscription, held, matched⟩
      have some : hasMatch session topic = true := List.any_eq_true.mpr ⟨subscription, held, matched⟩
      rw [hasMatch_eq, Option.isSome_iff_exists] at some
      obtain ⟨granted, best⟩ := some
      exact List.mem_map.mpr ⟨(id, granted), (highest id granted).mpr ⟨session, found, matchedQos_eq_some.mp best⟩, rfl⟩
  · rw [findSubscribers, collectSubscribers_eq_filter]
    refine List.filter_congr fun subscriber listed => ?_
    obtain ⟨session, found, _⟩ := (highest _ _).mp listed
    rw [found]
    by_cases same : subscriber.1 = senderId <;> simp [same]
  · subst same
    rw [findLwtSubscribers, collectSubscribers_eq_filter]

end PicoBroker
