import PicoBroker.Broker.Routing

set_option autoImplicit false

namespace PicoBroker

variable {maxSessions maxSubs maxInflight maxRetained : Nat}

inductive Received (codec : Codec) (message : Message) (now : Instant) (maxOutboxDrops : Nat)
    (old : SessionState maxSubs maxInflight) (qos : QoS) : SessionState maxSubs maxInflight → Prop
  | failed {error : PublishError} (encoded : frameFor codec message qos old = .error error) :
      Received codec message now maxOutboxDrops old qos (numbered old qos)
  | dropped {bytes : Text maxOutboundFrameSize} (encoded : frameFor codec message qos old = .ok bytes)
      (full : old.outbox.items.length = maxOutboxDepth) :
      Received codec message now maxOutboxDrops old qos (droppedSession old qos maxOutboxDrops)
  | queued {bytes : Text maxOutboundFrameSize} {outbox : Bounded OutboundPacket maxOutboxDepth}
      (encoded : frameFor codec message qos old = .ok bytes)
      (pushed : old.outbox.push ⟨bytes⟩ = some outbox) :
      Received codec message now maxOutboxDrops old qos (queuedSession old qos outbox)
  | tracked {bytes : Text maxOutboundFrameSize} {outbox : Bounded OutboundPacket maxOutboxDepth}
      {inflight : Bounded InflightEntry maxInflight} {handle : StoredPublishHandle}
      (qos1 : qos = .atLeastOnce) (encoded : frameFor codec message qos old = .ok bytes)
      (pushed : old.outbox.push ⟨bytes⟩ = some outbox)
      (added : old.inflight.push ⟨assignedId old qos, handle, .atLeastOnce, now, 0⟩ = some inflight) :
      Received codec message now maxOutboxDrops old qos
        { queuedSession old qos outbox with inflight := inflight }

section

variable {codec : Codec} {message : Message} {now : Instant} {maxOutboxDrops : Nat}

theorem Delivery.get_ne {before after : Fanout maxSessions maxSubs maxInflight} {id other : SessionId}
    {qos : QoS} {error : Option PublishError}
    (delivery : Delivery codec message now maxOutboxDrops before id qos after error)
    (different : other ≠ id) : after.registry.get other = before.registry.get other := by
  cases delivery with
  | absent => rfl
  | failed => exact SessionRegistry.get_put_ne _ different
  | dropped => exact SessionRegistry.get_put_ne _ different
  | queued => exact SessionRegistry.get_put_ne _ different
  | tracked _ _ _ _ acquired =>
    exact (SessionRegistry.get_put_ne _ different).trans
      ((acquired.same.get other).trans (SessionRegistry.get_put_ne _ different))

theorem Delivery.received {before after : Fanout maxSessions maxSubs maxInflight} {id : SessionId}
    {qos : QoS} {error : Option PublishError} {old : SessionState maxSubs maxInflight}
    (delivery : Delivery codec message now maxOutboxDrops before id qos after error)
    (found : before.registry.get id = some old) :
    ∃ new, after.registry.get id = some new ∧ Received codec message now maxOutboxDrops old qos new := by
  cases delivery with
  | absent missing =>
    rw [found] at missing
    cases missing
  | failed present encoded =>
    rw [found] at present
    cases present
    exact ⟨_, SessionRegistry.get_put_self found _, .failed encoded⟩
  | dropped present encoded full =>
    rw [found] at present
    cases present
    exact ⟨_, SessionRegistry.get_put_self found _, .dropped encoded full⟩
  | queued present encoded pushed generation =>
    rw [found] at present
    cases present
    exact ⟨_, SessionRegistry.get_put_self found _, .queued encoded pushed⟩
  | tracked present qos1 encoded pushed acquired added =>
    rw [found] at present
    cases present
    subst qos1
    have acquiredPresent := (acquired.same.get id).trans (SessionRegistry.get_put_self found _)
    exact ⟨_, SessionRegistry.get_put_self acquiredPresent _, .tracked rfl encoded pushed added⟩

theorem Delivery.offered_mono {before after : Fanout maxSessions maxSubs maxInflight} {id other : SessionId}
    {qos : QoS} {error : Option PublishError}
    (delivery : Delivery codec message now maxOutboxDrops before id qos after error)
    (offered : other ∈ before.offered) : other ∈ after.offered := by
  cases delivery with
  | absent => exact offered
  | failed => exact offered
  | dropped => exact List.mem_append_left _ offered
  | queued => exact List.mem_append_left _ offered
  | tracked => exact List.mem_append_left _ offered

theorem Delivery.offered {before after : Fanout maxSessions maxSubs maxInflight} {id : SessionId}
    {qos : QoS} (delivery : Delivery codec message now maxOutboxDrops before id qos after none)
    (found : before.registry.get id ≠ none) : id ∈ after.offered := by
  cases delivery with
  | absent missing => exact absurd missing found
  | dropped => exact List.mem_append_right _ (List.mem_singleton_self id)
  | queued => exact List.mem_append_right _ (List.mem_singleton_self id)
  | tracked => exact List.mem_append_right _ (List.mem_singleton_self id)

theorem Delivery.publishedLwts {before after : Fanout maxSessions maxSubs maxInflight} {id : SessionId}
    {qos : QoS} {error : Option PublishError}
    (delivery : Delivery codec message now maxOutboxDrops before id qos after error) :
    after.registry.publishedLwts = before.registry.publishedLwts := by
  cases delivery with
  | absent => rfl
  | failed => rfl
  | dropped => rfl
  | queued => rfl
  | tracked _ _ _ _ acquired => exact acquired.same.publishedLwts

end

def refusal (codec : Codec) (message : Message)
    (registry : SessionRegistry maxSessions maxSubs maxInflight) (subscriber : SessionId × QoS) :
    Option PublishError :=
  (registry.get subscriber.1).bind fun session =>
    match frameFor codec message (minQos message.qos subscriber.2) session with
    | .error error => some error
    | .ok _ => none

variable (codec : Codec) (message : Message) (now : Instant) (maxOutboxDrops : Nat)

theorem deliver_refusal (fanout : Fanout maxSessions maxSubs maxInflight)
    (subscriber : SessionId × QoS) :
    (deliver codec message now maxOutboxDrops fanout subscriber).2 =
      refusal codec message fanout.registry subscriber := by
  have delivery := deliver_spec codec message now maxOutboxDrops fanout subscriber
  generalize deliver codec message now maxOutboxDrops fanout subscriber = result at delivery ⊢
  rcases result with ⟨after, error⟩
  rcases subscriber with ⟨id, granted⟩
  dsimp only at delivery ⊢
  cases delivery with
  | absent missing => simp [refusal, missing]
  | failed present encoded => simp [refusal, present, encoded]
  | dropped present encoded => simp [refusal, present, encoded]
  | queued present encoded => simp [refusal, present, encoded]
  | tracked present qos1 encoded => simp [refusal, present, qos1, encoded]

-- A delivery to one session changes no refusal of the others.
theorem Delivery.refusals {codec : Codec} {message : Message} {now : Instant} {maxOutboxDrops : Nat}
    {before after : Fanout maxSessions maxSubs maxInflight} {id : SessionId} {qos : QoS}
    {error : Option PublishError}
    (delivery : Delivery codec message now maxOutboxDrops before id qos after error)
    {others : List (SessionId × QoS)} (absent : id ∉ others.map Prod.fst) :
    others.findSome? (refusal codec message after.registry) =
      others.findSome? (refusal codec message before.registry) := by
  induction others with
  | nil => rfl
  | cons other rest ih =>
    simp only [List.map_cons, List.mem_cons, not_or] at absent
    have same : refusal codec message after.registry other = refusal codec message before.registry other := by
      simp [refusal, delivery.get_ne (Ne.symm absent.1)]
    rw [List.findSome?_cons, List.findSome?_cons, same, ih absent.2]

theorem fanOut_get_of_notMem (fanout : Fanout maxSessions maxSubs maxInflight) {id : SessionId}
    {subscribers : List (SessionId × QoS)} (absent : id ∉ subscribers.map Prod.fst) :
    (fanOut codec message now maxOutboxDrops fanout subscribers).1.registry.get id =
      fanout.registry.get id := by
  induction subscribers generalizing fanout with
  | nil => rfl
  | cons subscriber rest ih =>
    simp only [List.map_cons, List.mem_cons, not_or] at absent
    have kept := (deliver_spec codec message now maxOutboxDrops fanout subscriber).get_ne absent.1
    simp only [fanOut]
    generalize deliver codec message now maxOutboxDrops fanout subscriber = result at kept ⊢
    rcases result with ⟨next, _ | error⟩
    · exact (ih next absent.2).trans kept
    · exact kept

theorem fanOut_offered (fanout : Fanout maxSessions maxSubs maxInflight)
    {subscribers : List (SessionId × QoS)}
    (completed : (fanOut codec message now maxOutboxDrops fanout subscribers).2 = none)
    (present : ∀ subscriber ∈ subscribers, fanout.registry.get subscriber.1 ≠ none)
    (distinct : (subscribers.map Prod.fst).Nodup) {id : SessionId} (listed : id ∈ subscribers.map Prod.fst) :
    id ∈ (fanOut codec message now maxOutboxDrops fanout subscribers).1.offered := by
  induction subscribers generalizing fanout with
  | nil => simp at listed
  | cons subscriber rest ih =>
    simp only [List.map_cons, List.nodup_cons] at distinct
    have delivery := deliver_spec codec message now maxOutboxDrops fanout subscriber
    simp only [fanOut] at completed ⊢
    generalize deliver codec message now maxOutboxDrops fanout subscriber = result
      at delivery completed ⊢
    rcases result with ⟨next, _ | error⟩
    · rcases List.mem_cons.mp listed with rfl | later
      · exact fanOut_induction (P := fun fanout => subscriber.1 ∈ fanout.offered)
          (fun _ _ _ _ _ offered delivery => delivery.offered_mono offered)
          (delivery.offered (present subscriber List.mem_cons_self)) rest
      · refine ih next completed ?_ distinct.2 later
        intro other member
        have different : other.1 ≠ subscriber.1 := by
          intro same
          exact distinct.1 (same ▸ List.mem_map_of_mem member)
        rw [delivery.get_ne different]
        exact present other (List.mem_cons_of_mem _ member)
    · cases completed

-- Every refusal can be read off the registry the loop started with.
theorem fanOut_failure (fanout : Fanout maxSessions maxSubs maxInflight)
    {subscribers : List (SessionId × QoS)} (distinct : (subscribers.map Prod.fst).Nodup) :
    (fanOut codec message now maxOutboxDrops fanout subscribers).2 =
      subscribers.findSome? (refusal codec message fanout.registry) := by
  induction subscribers generalizing fanout with
  | nil => rfl
  | cons subscriber rest ih =>
    simp only [List.map_cons, List.nodup_cons] at distinct
    have refused := deliver_refusal codec message now maxOutboxDrops fanout subscriber
    have delivery := deliver_spec codec message now maxOutboxDrops fanout subscriber
    simp only [fanOut, List.findSome?_cons, ← refused]
    generalize deliver codec message now maxOutboxDrops fanout subscriber = result at delivery ⊢
    rcases result with ⟨next, _ | error⟩
    · exact (ih next distinct.2).trans (delivery.refusals distinct.1)
    · rfl

theorem fanOut_get (fanout : Fanout maxSessions maxSubs maxInflight) {front back : List (SessionId × QoS)}
    {id : SessionId} {granted : QoS} {old : SessionState maxSubs maxInflight}
    (distinct : ((front ++ (id, granted) :: back).map Prod.fst).Nodup)
    (found : fanout.registry.get id = some old) :
    ∃ new,
      (fanOut codec message now maxOutboxDrops fanout (front ++ (id, granted) :: back)).1.registry.get id =
        some new ∧
      match front.findSome? (refusal codec message fanout.registry) with
      | some _ => new = old
      | none => Received codec message now maxOutboxDrops old (minQos message.qos granted) new := by
  induction front generalizing fanout with
  | nil =>
    simp only [List.nil_append, List.map_cons, List.nodup_cons] at distinct
    obtain ⟨new, present, received⟩ :=
      (deliver_spec codec message now maxOutboxDrops fanout (id, granted)).received found
    refine ⟨new, ?_, received⟩
    simp only [List.nil_append, fanOut]
    generalize deliver codec message now maxOutboxDrops fanout (id, granted) = result at present ⊢
    rcases result with ⟨next, _ | error⟩
    · exact (fanOut_get_of_notMem codec message now maxOutboxDrops next distinct.1).trans present
    · exact present
  | cons subscriber rest ih =>
    simp only [List.cons_append, List.map_cons, List.nodup_cons] at distinct
    have different : id ≠ subscriber.1 := by
      rintro rfl
      exact distinct.1 (by simp)
    have refused := deliver_refusal codec message now maxOutboxDrops fanout subscriber
    have delivery := deliver_spec codec message now maxOutboxDrops fanout subscriber
    have kept := (delivery.get_ne different).trans found
    simp only [List.cons_append, fanOut, List.findSome?_cons, ← refused]
    generalize deliver codec message now maxOutboxDrops fanout subscriber = result at delivery kept ⊢
    rcases result with ⟨next, _ | error⟩
    · obtain ⟨new, present, outcome⟩ := ih next distinct.2 kept
      have notInRest : subscriber.1 ∉ rest.map Prod.fst := fun member =>
        distinct.1 (by rw [List.map_append]; exact List.mem_append_left _ member)
      rw [delivery.refusals notInRest] at outcome
      exact ⟨new, present, outcome⟩
    · exact ⟨old, kept, rfl⟩

structure Granted (subscriptions : List Subscription) (topic : Bytes) (granted : QoS) : Prop where
  attained : ∃ subscription ∈ subscriptions,
    topicMatches subscription.filter.items topic = true ∧ subscription.qos = granted
  bound : ∀ subscription ∈ subscriptions, topicMatches subscription.filter.items topic = true →
    qosRank subscription.qos ≤ qosRank granted

section

theorem qosRank_injective : Function.Injective qosRank := by
  intro left right same
  cases left <;> cases right <;> first | rfl | cases same

theorem qosRank_maxQos (left right : QoS) : qosRank (maxQos left right) = max (qosRank left) (qosRank right) := by
  unfold maxQos
  split <;> omega

theorem maxQos_eq_or (left right : QoS) : maxQos left right = left ∨ maxQos left right = right := by
  unfold maxQos
  split
  · exact .inl rfl
  · exact .inr rfl

variable {subscriptions front : List Subscription} {last : Subscription} {topic : Bytes} {granted : QoS}

theorem matchedQos_append :
    matchedQos (front ++ [last]) topic =
      if topicMatches last.filter.items topic then
        some ((matchedQos front topic).elim last.qos fun current => maxQos current last.qos)
      else matchedQos front topic := by
  simp only [matchedQos, List.foldl_append, List.foldl_cons, List.foldl_nil]
  generalize List.foldl _ none front = earlier
  cases earlier <;> rfl

theorem matchedQos_eq_none :
    matchedQos subscriptions topic = none ↔
      ∀ subscription ∈ subscriptions, topicMatches subscription.filter.items topic = false := by
  induction subscriptions using List.reverseRecOn with
  | nil => simp [matchedQos]
  | append_singleton front last ih =>
    rw [matchedQos_append]
    split <;> simp_all [or_imp, forall_and]

theorem Granted.skip (highest : Granted front topic granted)
    (unmatched : topicMatches last.filter.items topic ≠ true) : Granted (front ++ [last]) topic granted := by
  refine ⟨?_, ?_⟩
  · obtain ⟨subscription, member, attains⟩ := highest.attained
    exact ⟨subscription, List.mem_append_left _ member, attains⟩
  · intro subscription member matching
    cases List.mem_append.mp member with
    | inl earlier => exact highest.bound subscription earlier matching
    | inr here =>
      rw [List.mem_singleton.mp here] at matching
      exact absurd matching unmatched

theorem Granted.raise (highest : Granted front topic granted)
    (matching : topicMatches last.filter.items topic = true) :
    Granted (front ++ [last]) topic (maxQos granted last.qos) := by
  refine ⟨?_, ?_⟩
  · cases maxQos_eq_or granted last.qos with
    | inl kept =>
      obtain ⟨subscription, member, attains⟩ := highest.attained
      rw [kept]
      exact ⟨subscription, List.mem_append_left _ member, attains⟩
    | inr raised => exact ⟨last, by simp, matching, raised.symm⟩
  · intro subscription member hit
    rw [qosRank_maxQos]
    cases List.mem_append.mp member with
    | inl earlier => exact Nat.le_trans (highest.bound subscription earlier hit) (Nat.le_max_left ..)
    | inr here =>
      rw [List.mem_singleton.mp here]
      exact Nat.le_max_right ..

theorem granted_of_matchedQos (matched : matchedQos subscriptions topic = some granted) :
    Granted subscriptions topic granted := by
  induction subscriptions using List.reverseRecOn generalizing granted with
  | nil => cases matched
  | append_singleton front last ih =>
    rw [matchedQos_append] at matched
    split at matched
    · next matching =>
      cases matched
      cases earlier : matchedQos front topic with
      | none =>
        have unmatched := matchedQos_eq_none.mp earlier
        refine ⟨⟨last, by simp, matching, rfl⟩, ?_⟩
        grind
      | some current => exact (ih earlier).raise matching
    · next unmatched => exact (ih matched).skip unmatched

theorem Granted.unique {left right : QoS} (first : Granted subscriptions topic left)
    (second : Granted subscriptions topic right) : left = right := by
  obtain ⟨_, member, matching, rfl⟩ := first.attained
  obtain ⟨_, member', matching', rfl⟩ := second.attained
  exact qosRank_injective (Nat.le_antisymm (second.bound _ member matching) (first.bound _ member' matching'))

theorem matchedQos_eq_some : matchedQos subscriptions topic = some granted ↔ Granted subscriptions topic granted := by
  refine ⟨granted_of_matchedQos, fun highest => ?_⟩
  cases matched : matchedQos subscriptions topic with
  | none =>
    obtain ⟨subscription, member, matching, _⟩ := highest.attained
    rw [matchedQos_eq_none.mp matched subscription member] at matching
    cases matching
  | some current => rw [(granted_of_matchedQos matched).unique highest]

end

variable {codec message now maxOutboxDrops}

def Subscribed (skipped : SessionId → SessionState maxSubs maxInflight → Bool) (topic : Bytes)
    (id : SessionId) (session : SessionState maxSubs maxInflight) (granted : QoS) : Prop :=
  skipped id session = false ∧ matchedQos session.subscriptions.items topic = some granted

section

variable {registry : SessionRegistry maxSessions maxSubs maxInflight} {topic : Bytes}
  {skipped : SessionId → SessionState maxSubs maxInflight → Bool}

-- There are no more subscribers than slots, so none is dropped.
theorem collectSubscribers_items :
    (collectSubscribers registry topic skipped).items = registry.iter.filterMap fun entry =>
      if skipped entry.1 entry.2 then none
      else (matchedQos entry.2.subscriptions.items topic).map fun qos => (entry.1, qos) := by
  rw [collectSubscribers, Bounded.pushAll_items]
  · rfl
  · have bounded : registry.iter.length ≤ maxSessions := registry.slots.count_le
    have filtered := List.length_filterMap_le (fun entry : SessionId × SessionState maxSubs maxInflight =>
      if skipped entry.1 entry.2 then none
      else (matchedQos entry.2.subscriptions.items topic).map fun qos => (entry.1, qos)) registry.iter
    simp only [Bounded.empty_items, List.length_nil]
    omega

theorem mem_collectSubscribers {id : SessionId} {granted : QoS} :
    (id, granted) ∈ (collectSubscribers registry topic skipped).items ↔
      ∃ session, registry.get id = some session ∧ Subscribed skipped topic id session granted := by
  rw [collectSubscribers_items, List.mem_filterMap]
  constructor
  · rintro ⟨⟨other, session⟩, member, found⟩
    split at found
    · cases found
    · next wanted =>
      obtain ⟨qos, matched, same⟩ := Option.map_eq_some_iff.mp found
      obtain ⟨rfl, rfl⟩ := Prod.mk.inj same
      exact ⟨session, Slots.mem_occupied.mp member, by simpa using wanted, matched⟩
  · rintro ⟨session, present, wanted, matched⟩
    exact ⟨(id, session), Slots.mem_occupied.mpr present, by simp [wanted, matched]⟩

variable (registry topic skipped) in
theorem collectSubscribers_increasing :
    (collectSubscribers registry topic skipped).items.Pairwise fun left right => left.1 < right.1 := by
  rw [collectSubscribers_items, List.pairwise_filterMap]
  apply registry.slots.occupied_increasing.imp
  rintro ⟨_, _⟩ ⟨_, _⟩ below left leftFound right rightFound
  split at leftFound
  · cases leftFound
  · split at rightFound
    · cases rightFound
    · obtain ⟨_, _, rfl⟩ := Option.map_eq_some_iff.mp leftFound
      obtain ⟨_, _, rfl⟩ := Option.map_eq_some_iff.mp rightFound
      exact below

variable (registry topic skipped) in
theorem collectSubscribers_nodup :
    ((collectSubscribers registry topic skipped).items.map Prod.fst).Nodup := by
  rw [List.Nodup, List.pairwise_map]
  exact (collectSubscribers_increasing registry topic skipped).imp Nat.ne_of_lt

end

-- A subscriber in a lower slot whose frame does not encode.
def Blocked (codec : Codec) (message : Message) (registry : SessionRegistry maxSessions maxSubs maxInflight)
    (skipped : SessionId → SessionState maxSubs maxInflight → Bool) (id : SessionId) : Prop :=
  ∃ lower < id, ∃ session granted error, registry.get lower = some session ∧
    Subscribed skipped message.topic lower session granted ∧
    frameFor codec message (minQos message.qos granted) session = .error error

def broadcast (codec : Codec) (message : Message) (now : Instant) (maxOutboxDrops : Nat)
    (skipped : SessionId → SessionState maxSubs maxInflight → Bool)
    (fanout : Fanout maxSessions maxSubs maxInflight) :
    Fanout maxSessions maxSubs maxInflight × Option PublishError :=
  fanOut codec message now maxOutboxDrops fanout
    (collectSubscribers fanout.registry message.topic skipped).items

theorem refusal_eq_some {registry : SessionRegistry maxSessions maxSubs maxInflight} {id : SessionId}
    {granted : QoS} {error : PublishError} :
    refusal codec message registry (id, granted) = some error ↔
      ∃ session, registry.get id = some session ∧
        frameFor codec message (minQos message.qos granted) session = .error error := by
  rw [refusal, Option.bind_eq_some_iff]
  apply exists_congr
  intro session
  apply and_congr_right
  intro _
  split <;> simp_all

variable {fanout : Fanout maxSessions maxSubs maxInflight}
  {skipped : SessionId → SessionState maxSubs maxInflight → Bool}

theorem findSome?_front_iff {id : SessionId} {granted : QoS} {front back : List (SessionId × QoS)}
    (split : (collectSubscribers fanout.registry message.topic skipped).items =
      front ++ (id, granted) :: back) :
    (∃ error, front.findSome? (refusal codec message fanout.registry) = some error) ↔
      Blocked codec message fanout.registry skipped id := by
  have ordered := collectSubscribers_increasing fanout.registry message.topic skipped
  rw [split, List.pairwise_append, List.pairwise_cons] at ordered
  obtain ⟨_, ⟨after, _⟩, before⟩ := ordered
  constructor
  · rintro ⟨error, found⟩
    obtain ⟨⟨lower, other⟩, member, refused⟩ := List.exists_of_findSome?_eq_some found
    obtain ⟨session, present, failed⟩ := refusal_eq_some.mp refused
    have listed : (lower, other) ∈ (collectSubscribers fanout.registry message.topic skipped).items := by
      rw [split]
      exact List.mem_append_left _ member
    obtain ⟨same, found, subscribed⟩ := mem_collectSubscribers.mp listed
    rw [present] at found
    cases found
    exact ⟨lower, before _ member _ List.mem_cons_self, session, other, error, present, subscribed, failed⟩
  · rintro ⟨lower, below, session, other, error, present, subscribed, failed⟩
    have listed := mem_collectSubscribers.mpr ⟨session, present, subscribed⟩
    rw [split] at listed
    have member : (lower, other) ∈ front := by
      rcases List.mem_append.mp listed with inFront | inBack
      · exact inFront
      · rcases List.mem_cons.mp inBack with same | later
        · cases same
          exact absurd below (Nat.lt_irrefl _)
        · exact absurd below (Nat.lt_asymm (after _ later))
    cases found : front.findSome? (refusal codec message fanout.registry) with
    | some error => exact ⟨error, rfl⟩
    | none =>
      have accepted := List.findSome?_eq_none_iff.mp found _ member
      rw [refusal_eq_some.mpr ⟨session, present, failed⟩] at accepted
      cases accepted

theorem broadcast_received {id : SessionId} {old : SessionState maxSubs maxInflight} {granted : QoS}
    (found : fanout.registry.get id = some old) (subscribed : Subscribed skipped message.topic id old granted)
    (reached : ¬ Blocked codec message fanout.registry skipped id) :
    ∃ new, (broadcast codec message now maxOutboxDrops skipped fanout).1.registry.get id = some new ∧
      Received codec message now maxOutboxDrops old (minQos message.qos granted) new := by
  obtain ⟨front, back, split⟩ := List.append_of_mem (mem_collectSubscribers.mpr ⟨old, found, subscribed⟩)
  have distinct := collectSubscribers_nodup fanout.registry message.topic skipped
  rw [split] at distinct
  obtain ⟨new, present, outcome⟩ := fanOut_get codec message now maxOutboxDrops fanout distinct found
  cases refused : front.findSome? (refusal codec message fanout.registry) with
  | some error => exact absurd ((findSome?_front_iff split).mp ⟨error, refused⟩) reached
  | none =>
    rw [refused] at outcome
    exact ⟨new, by rw [broadcast, split]; exact present, outcome⟩

theorem broadcast_offered (completed : (broadcast codec message now maxOutboxDrops skipped fanout).2 = none)
    {id : SessionId} {session : SessionState maxSubs maxInflight} {granted : QoS}
    (found : fanout.registry.get id = some session)
    (subscribed : Subscribed skipped message.topic id session granted) :
    id ∈ (broadcast codec message now maxOutboxDrops skipped fanout).1.offered := by
  refine fanOut_offered _ _ _ _ _ completed ?_ (collectSubscribers_nodup ..) ?_
  · rintro ⟨other, qos⟩ member
    obtain ⟨state, present, _⟩ := mem_collectSubscribers.mp member
    simp [present]
  · exact List.mem_map.mpr ⟨(id, granted), mem_collectSubscribers.mpr ⟨session, found, subscribed⟩, rfl⟩

theorem broadcast_blocked {id : SessionId} (blocked : Blocked codec message fanout.registry skipped id) :
    (broadcast codec message now maxOutboxDrops skipped fanout).1.registry.get id =
      fanout.registry.get id := by
  by_cases listed : ∃ granted, (id, granted) ∈ (collectSubscribers fanout.registry message.topic skipped).items
  · obtain ⟨granted, member⟩ := listed
    obtain ⟨old, found, _⟩ := mem_collectSubscribers.mp member
    obtain ⟨front, back, split⟩ := List.append_of_mem member
    have distinct := collectSubscribers_nodup fanout.registry message.topic skipped
    rw [split] at distinct
    obtain ⟨new, present, outcome⟩ := fanOut_get codec message now maxOutboxDrops fanout distinct found
    obtain ⟨error, refused⟩ := (findSome?_front_iff split).mpr blocked
    rw [refused] at outcome
    rw [broadcast, split, present, found, outcome]
  · apply fanOut_get_of_notMem
    rintro member
    obtain ⟨⟨_, granted⟩, listedHere, rfl⟩ := List.mem_map.mp member
    exact listed ⟨granted, listedHere⟩

theorem broadcast_unsubscribed {id : SessionId}
    (unsubscribed : ∀ session granted, fanout.registry.get id = some session →
      ¬ Subscribed skipped message.topic id session granted) :
    (broadcast codec message now maxOutboxDrops skipped fanout).1.registry.get id =
      fanout.registry.get id := by
  apply fanOut_get_of_notMem
  rintro member
  obtain ⟨⟨_, granted⟩, listed, rfl⟩ := List.mem_map.mp member
  obtain ⟨session, present, subscribed⟩ := mem_collectSubscribers.mp listed
  exact unsubscribed session granted present subscribed

theorem broadcast_failure_eq_none :
    (broadcast codec message now maxOutboxDrops skipped fanout).2 = none ↔
      ∀ id session granted, fanout.registry.get id = some session →
        Subscribed skipped message.topic id session granted →
        ∃ bytes, frameFor codec message (minQos message.qos granted) session = .ok bytes := by
  rw [broadcast, fanOut_failure _ _ _ _ _ (collectSubscribers_nodup ..), List.findSome?_eq_none_iff]
  constructor
  · intro accepted id session granted present subscribed
    cases encoded : frameFor codec message (minQos message.qos granted) session with
    | ok bytes => exact ⟨bytes, rfl⟩
    | error error =>
      have h := accepted _ (mem_collectSubscribers.mpr ⟨session, present, subscribed⟩)
      rw [refusal_eq_some.mpr ⟨session, present, encoded⟩] at h
      cases h
  · rintro encodes ⟨id, granted⟩ member
    obtain ⟨session, present, subscribed⟩ := mem_collectSubscribers.mp member
    cases refused : refusal codec message fanout.registry (id, granted) with
    | none => rfl
    | some error =>
      obtain ⟨other, found, failed⟩ := refusal_eq_some.mp refused
      rw [present] at found
      cases found
      obtain ⟨bytes, ok⟩ := encodes id session granted present subscribed
      rw [ok] at failed
      cases failed

theorem broadcast_failure_eq_some {error : PublishError}
    (failed : (broadcast codec message now maxOutboxDrops skipped fanout).2 = some error) :
    ∃ id session granted, fanout.registry.get id = some session ∧
      Subscribed skipped message.topic id session granted ∧
      frameFor codec message (minQos message.qos granted) session = .error error := by
  rw [broadcast, fanOut_failure _ _ _ _ _ (collectSubscribers_nodup ..)] at failed
  obtain ⟨⟨id, granted⟩, member, refused⟩ := List.exists_of_findSome?_eq_some failed
  obtain ⟨session, present, subscribed⟩ := mem_collectSubscribers.mp member
  obtain ⟨other, found, unencoded⟩ := refusal_eq_some.mp refused
  rw [present] at found
  cases found
  exact ⟨id, session, granted, present, subscribed, unencoded⟩

def isSender (senderId : SessionId) (id : SessionId) (_ : SessionState maxSubs maxInflight) : Bool :=
  id == senderId

theorem Blocked.congr {codec : Codec} {message : Message}
    {left right : SessionRegistry maxSessions maxSubs maxInflight} {senderId id : SessionId}
    (same : ∀ other, other ≠ senderId → left.get other = right.get other)
    (blocked : Blocked codec message left (isSender senderId) id) :
    Blocked codec message right (isSender senderId) id := by
  obtain ⟨lower, below, session, granted, error, present, subscribed, failed⟩ := blocked
  have different : lower ≠ senderId := by simpa [isSender] using subscribed.1
  exact ⟨lower, below, session, granted, error, (same lower different).symm.trans present, subscribed, failed⟩

section

variable {senderId id : SessionId} {broker : Broker maxSessions maxSubs maxInflight maxRetained}
  {sender : SessionState maxSubs maxInflight}

theorem charged_get_ne {other : SessionId} (different : other ≠ senderId) :
    (charged broker senderId sender now).get other = broker.registry.get other :=
  SessionRegistry.get_put_ne _ different

theorem blocked_charged_iff :
    Blocked codec message (charged broker senderId sender now) (isSender senderId) id ↔
      Blocked codec message broker.registry (isSender senderId) id :=
  ⟨.congr fun _ different => charged_get_ne different,
    .congr fun _ different => (charged_get_ne different).symm⟩

theorem routed_eq_broadcast :
    routed codec broker senderId sender message now maxOutboxDrops =
      broadcast codec message now maxOutboxDrops (isSender senderId)
        ⟨charged broker senderId sender now, broker.signals, none, []⟩ := rfl

theorem routed_failure_iff :
    (routed codec broker senderId sender message now maxOutboxDrops).2 = none ↔
      ∀ id session granted, broker.registry.get id = some session →
        Subscribed (isSender senderId) message.topic id session granted →
        ∃ frame, frameFor codec message (minQos message.qos granted) session = .ok frame := by
  rw [routed_eq_broadcast, broadcast_failure_eq_none]
  have same (id : SessionId) (session : SessionState maxSubs maxInflight) (granted : QoS)
      (subscribed : Subscribed (isSender senderId) message.topic id session granted) :
      (charged broker senderId sender now).get id = broker.registry.get id :=
    charged_get_ne (by simpa [isSender] using subscribed.1)
  constructor
  · intro encodes id session granted present subscribed
    exact encodes id session granted ((same id session granted subscribed).trans present) subscribed
  · intro encodes id session granted present subscribed
    exact encodes id session granted ((same id session granted subscribed).symm.trans present) subscribed

end

end PicoBroker
