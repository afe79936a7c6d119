import PicoBroker.Contracts.RetainedReplay
import PicoBroker.Shared.Keyed

set_option autoImplicit false

namespace PicoBroker

variable {maxSubs maxInflight maxRetained : Nat}

def filterOf (subscription : Subscription) : Bytes := subscription.filter.items

def qosOf (subscriptions : Bounded Subscription maxSubs) (filter : Bytes) : Option QoS :=
  (Keyed.lookup filterOf subscriptions.items filter).map Subscription.qos

structure SubscriptionMap (subscriptions : Bounded Subscription maxSubs) : Prop where
  distinct : (filtersOf subscriptions).Nodup
  valid : ∀ filter ∈ filtersOf subscriptions, isValidFilter filter = true

theorem subscriptionMap_empty : SubscriptionMap (.empty : Bounded Subscription maxSubs) :=
  ⟨by simp [filtersOf], by simp [filtersOf]⟩

section

variable (subscriptions : Bounded Subscription maxSubs) (filter : Bytes) (qos : QoS)

theorem qosOf_ne_none {subscriptions : Bounded Subscription maxSubs} {filter : Bytes} :
    qosOf subscriptions filter ≠ none ↔ filter ∈ filtersOf subscriptions := by
  rw [qosOf, ne_eq, Option.map_eq_none_iff, Keyed.lookup_eq_none, not_not]
  rfl

theorem upsertSubscription_others {other : Bytes} (different : other ≠ filter) :
    qosOf (upsertSubscription subscriptions filter qos).1 other = qosOf subscriptions other := by
  unfold upsertSubscription
  split
  · rfl
  · split
    · next index found =>
      exact congrArg (Option.map Subscription.qos)
        (Keyed.lookup_modify_of_ne found (fun _ => rfl) different)
    · split
      · rfl
      · next name converted =>
        cases pushed : subscriptions.push ⟨name, qos⟩ with
        | none => rfl
        | some after =>
          have last : filterOf ⟨name, qos⟩ ≠ other := fun same =>
            different (same.symm.trans (Bounded.ofList?_eq_some.mp converted))
          simp [qosOf, (Bounded.push_eq_some.mp pushed).2, Keyed.lookup, last]

theorem findIdx?_eq_none {subscriptions : Bounded Subscription maxSubs} {filter : Bytes}
    (missing : (subscriptions.items.findIdx? fun subscription => subscription.filter.items == filter) = none) :
    filter ∉ filtersOf subscriptions := by
  intro listed
  obtain ⟨subscription, member, same⟩ := List.mem_map.mp listed
  simpa [same] using List.findIdx?_eq_none_iff.mp missing subscription member

theorem upsertSubscription_named (valid : isValidFilter filter = true)
    (listed : filter ∈ filtersOf (upsertSubscription subscriptions filter qos).1) :
    qosOf (upsertSubscription subscriptions filter qos).1 filter = some qos := by
  unfold upsertSubscription at listed ⊢
  simp only [valid, Bool.not_true, Bool.false_eq_true, if_false] at listed ⊢
  cases found : subscriptions.items.findIdx? fun subscription => subscription.filter.items == filter with
  | some index =>
    simp only [found] at listed ⊢
    have changed : Keyed.lookup filterOf (subscriptions.items.modify index fun existing => { existing with qos := qos })
        filter = (Keyed.lookup filterOf subscriptions.items filter).map fun existing => { existing with qos := qos } :=
      Keyed.lookup_modify_self found fun _ => rfl
    rw [← qosOf_ne_none] at listed
    simp only [qosOf, Bounded.modify_items, changed, Option.map_map] at listed ⊢
    cases old : Keyed.lookup filterOf subscriptions.items filter with
    | none => simp [old] at listed
    | some existing => simp
  | none =>
    have unknown := findIdx?_eq_none found
    have fits : (Bounded.ofList? filter : Option (Text 128)) = some ⟨filter, isValidFilter_length valid⟩ :=
      Bounded.ofList?_eq_some.mpr rfl
    simp only [found, fits] at listed ⊢
    cases pushed : subscriptions.push ⟨⟨filter, isValidFilter_length valid⟩, qos⟩ with
    | none => exact absurd (by simpa [pushed] using listed) unknown
    | some after =>
      have missing : Keyed.lookup filterOf subscriptions.items filter = none := Keyed.lookup_eq_none.mpr unknown
      simp [qosOf, (Bounded.push_eq_some.mp pushed).2, Keyed.lookup_append, missing, Keyed.lookup_cons, filterOf]

end

def subscribeAll (subscriptions : Bounded Subscription maxSubs) (topics : List SubscribeTopic) :
    Bounded Subscription maxSubs :=
  topics.foldl (fun subscriptions topic => (upsertSubscription subscriptions topic.topicPath.items topic.qos).1)
    subscriptions

theorem prepareSubscribe_subscriptions (session : SessionState maxSubs maxInflight) (packet : Subscribe)
    (retained : RetainedStore maxRetained) :
    (prepareSubscribe session packet retained).1.subscriptions =
      subscribeAll session.subscriptions packet.topics.items :=
  (List.foldl_hom SubscribeLoop.subscriptions fun _ _ => rfl).symm

theorem subscribeAll_others {topics : List SubscribeTopic} {filter : Bytes}
    (unnamed : ∀ topic ∈ topics, topic.topicPath.items ≠ filter) (subscriptions : Bounded Subscription maxSubs) :
    qosOf (subscribeAll subscriptions topics) filter = qosOf subscriptions filter := by
  induction topics generalizing subscriptions with
  | nil => rfl
  | cons topic topics ih =>
    rw [List.forall_mem_cons] at unnamed
    have step := ih unnamed.2 (upsertSubscription subscriptions topic.topicPath.items topic.qos).1
    exact step.trans (upsertSubscription_others subscriptions _ _ (Ne.symm unnamed.1))

theorem subscribeAll_last {earlier later : List SubscribeTopic} {topic : SubscribeTopic}
    (last : ∀ other ∈ later, other.topicPath.items ≠ topic.topicPath.items)
    (valid : isValidFilter topic.topicPath.items = true) (subscriptions : Bounded Subscription maxSubs)
    (listed : topic.topicPath.items ∈ filtersOf (subscribeAll subscriptions (earlier ++ topic :: later))) :
    qosOf (subscribeAll subscriptions (earlier ++ topic :: later)) topic.topicPath.items = some topic.qos := by
  have split : subscribeAll subscriptions (earlier ++ topic :: later) =
      subscribeAll (upsertSubscription (subscribeAll subscriptions earlier) topic.topicPath.items topic.qos).1 later := by
    simp [subscribeAll]
  have kept := subscribeAll_others last
    (upsertSubscription (subscribeAll subscriptions earlier) topic.topicPath.items topic.qos).1
  -- The later topics name other filters, so it is listed as soon as its last occurrence is done.
  rw [split, ← qosOf_ne_none, kept, qosOf_ne_none] at listed
  rw [split, kept]
  exact upsertSubscription_named _ _ _ valid listed

theorem isValidFilter?_eq (filter : Bytes) : isValidFilter? filter = some (isValidFilter filter) := by
  unfold isValidFilter?
  split
  · rfl
  · next position found =>
    have inside := (List.findIdx?_eq_some_iff_getElem.mp found).1
    exact if_neg (by omega)

theorem subscribeTopic?_eq (loop : SubscribeLoop maxSubs) (topic : SubscribeTopic) :
    subscribeTopic? loop topic = some (subscribeTopic loop topic) := by
  have upserted := upsertSubscription_upserted loop.subscriptions topic.topicPath.items topic.qos
  unfold subscribeTopic?
  rw [isValidFilter?_eq, Option.bind_some]
  generalize upsertSubscription loop.subscriptions topic.topicPath.items topic.qos = result at upserted ⊢
  cases upserted with
  | invalid | updated | full => rfl
  | added valid =>
    have fits : (Bounded.ofList? topic.topicPath.items : Option (Text 128)) =
        some ⟨topic.topicPath.items, isValidFilter_length valid⟩ :=
      Bounded.ofList?_eq_some.mpr rfl
    simp [fits]

theorem prepareSubscribe?_eq (session : SessionState maxSubs maxInflight) (packet : Subscribe)
    (retained : RetainedStore maxRetained) :
    prepareSubscribe? session packet retained = some (prepareSubscribe session packet retained) := by
  have steps : subscribeTopic? = fun (loop : SubscribeLoop maxSubs) topic => pure (subscribeTopic loop topic) :=
    funext fun loop => funext fun topic => subscribeTopic?_eq loop topic
  rw [prepareSubscribe?, steps, List.foldlM_pure]
  rfl

theorem SubscriptionMap.subscribe {session : SessionState maxSubs maxInflight}
    (ordered : SubscriptionMap session.subscriptions) (packet : Subscribe) (retained : RetainedStore maxRetained) :
    SubscriptionMap (prepareSubscribe session packet retained).1.subscriptions := by
  have filters := (prepareSubscribe_prepared session packet retained).filters
  constructor
  · rw [filters]
    exact Additions.nodup_append_additions maxSubs ordered.distinct _
  · intro filter listed
    rw [filters, List.mem_append] at listed
    rcases listed with known | added
    · exact ordered.valid filter known
    · exact (List.mem_filter.mp (Additions.mem_of_mem_additions added).1).2

theorem unsubscribeFilter_items {subscriptions : Bounded Subscription maxSubs}
    (ordered : SubscriptionMap subscriptions) (filter : Text 256) :
    (unsubscribeFilter subscriptions filter).items = Keyed.others filterOf subscriptions.items filter.items := by
  unfold unsubscribeFilter
  split
  · next index found => exact Keyed.eraseIdx_eq_others ordered.distinct found
  · next missing => exact (Keyed.others_eq_self (findIdx?_eq_none missing)).symm

theorem SubscriptionMap.sublist {before after : Bounded Subscription maxSubs} (ordered : SubscriptionMap before)
    (kept : after.items.Sublist before.items) : SubscriptionMap after :=
  ⟨ordered.distinct.sublist (kept.map _), fun filter listed => ordered.valid filter ((kept.map _).mem listed)⟩

theorem unsubscribeAll_items (filters : List (Text 256)) {subscriptions : Bounded Subscription maxSubs}
    (ordered : SubscriptionMap subscriptions) :
    (filters.foldl unsubscribeFilter subscriptions).items =
      subscriptions.items.filter fun subscription => filterOf subscription ∉ filters.map Bounded.items := by
  induction filters generalizing subscriptions with
  | nil => simp
  | cons filter filters ih =>
    have first := unsubscribeFilter_items ordered filter
    have smaller : SubscriptionMap (unsubscribeFilter subscriptions filter) :=
      ordered.sublist (first ▸ List.filter_sublist)
    rw [List.foldl_cons, ih smaller, first, Keyed.others, List.filter_filter]
    refine List.filter_congr fun subscription _ => ?_
    by_cases here : filterOf subscription = filter.items <;> simp [here]

inductive SubscriptionPacket (maxRetained : Nat) where
  | subscribe (packet : Subscribe) (retained : RetainedStore maxRetained)
  | unsubscribe (packet : Unsubscribe)

def SubscriptionPacket.apply (session : SessionState maxSubs maxInflight) :
    SubscriptionPacket maxRetained → SessionState maxSubs maxInflight
  | .subscribe packet retained => (prepareSubscribe session packet retained).1
  | .unsubscribe packet => applyUnsubscribe session packet

theorem SubscriptionMap.apply {session : SessionState maxSubs maxInflight}
    (ordered : SubscriptionMap session.subscriptions) (packet : SubscriptionPacket maxRetained) :
    SubscriptionMap (packet.apply session).subscriptions := by
  cases packet with
  | subscribe packet retained => exact ordered.subscribe packet retained
  | unsubscribe packet =>
    exact ordered.sublist (unsubscribeAll_items packet.topics.items ordered ▸ List.filter_sublist)

theorem subscriptionMap_run (session : SessionState maxSubs maxInflight)
    (ordered : SubscriptionMap session.subscriptions) (packets : List (SubscriptionPacket maxRetained)) :
    SubscriptionMap (packets.foldl SubscriptionPacket.apply session).subscriptions := by
  induction packets generalizing session with
  | nil => exact ordered
  | cons packet packets ih => exact ih _ (ordered.apply packet)

structure SubackTruthful (session : SessionState maxSubs maxInflight) (packet : Subscribe)
    (retained : RetainedStore maxRetained) : Prop where
  returns : prepareSubscribe? session packet retained = some (prepareSubscribe session packet retained)
  codes : (prepareSubscribe session packet retained).2.returnCodes.items = packet.topics.items.map fun topic =>
    if topic.topicPath.items ∈ filtersOf (prepareSubscribe session packet retained).1.subscriptions then
      .success topic.qos
    else .failure
  last : ∀ earlier topic later, packet.topics.items = earlier ++ topic :: later →
    (∀ other ∈ later, other.topicPath.items ≠ topic.topicPath.items) →
    topic.topicPath.items ∈ filtersOf (prepareSubscribe session packet retained).1.subscriptions →
    qosOf (prepareSubscribe session packet retained).1.subscriptions topic.topicPath.items = some topic.qos
  others : ∀ filter, (∀ topic ∈ packet.topics.items, topic.topicPath.items ≠ filter) →
    qosOf (prepareSubscribe session packet retained).1.subscriptions filter = qosOf session.subscriptions filter

theorem SubscriptionMap.suback {session : SessionState maxSubs maxInflight}
    (ordered : SubscriptionMap session.subscriptions) (packet : Subscribe) (retained : RetainedStore maxRetained) :
    SubackTruthful session packet retained := by
  have prepared := prepareSubscribe_prepared session packet retained
  have after := ordered.subscribe packet retained
  have same := prepareSubscribe_subscriptions session packet retained
  refine ⟨prepareSubscribe?_eq session packet retained, ?_, ?_, ?_⟩
  · rw [prepared.codes]
    refine List.map_congr_left fun topic _ => ?_
    unfold answerTo
    rw [← prepared.filters]
    by_cases listed : topic.topicPath.items ∈ filtersOf (prepareSubscribe session packet retained).1.subscriptions
    · rw [if_pos ⟨after.valid _ listed, listed⟩, if_pos listed]
    · rw [if_neg fun accepted => listed accepted.2, if_neg listed]
  · intro earlier topic later split last listed
    have valid := after.valid _ listed
    rw [same, split] at listed ⊢
    exact subscribeAll_last last valid _ listed
  · intro filter unnamed
    rw [same]
    exact subscribeAll_others unnamed _

structure SubscriptionsKept (session : SessionState maxSubs maxInflight) : Prop where
  ordered : SubscriptionMap session.subscriptions
  suback : ∀ (maxRetained : Nat) (packet : Subscribe) (retained : RetainedStore maxRetained),
    SubackTruthful session packet retained
  unsubscribed : ∀ packet : Unsubscribe, (applyUnsubscribe session packet).subscriptions.items =
    session.subscriptions.items.filter fun subscription => filterOf subscription ∉ packet.topics.items.map Bounded.items

theorem subscriptions_kept (clientId : ClientId) (keepaliveSecs : Nat)
    (packets : List (SubscriptionPacket maxRetained)) :
    SubscriptionsKept (packets.foldl SubscriptionPacket.apply
      (SessionState.new clientId keepaliveSecs : SessionState maxSubs maxInflight)) := by
  have ordered := subscriptionMap_run (SessionState.new clientId keepaliveSecs : SessionState maxSubs maxInflight)
    subscriptionMap_empty packets
  exact ⟨ordered, fun _ packet retained => ordered.suback packet retained,
    fun packet => unsubscribeAll_items packet.topics.items ordered⟩

end PicoBroker
