import Mathlib.Algebra.GroupWithZero.Nat
import PicoBroker.Broker.Subscribe
import PicoBroker.Shared.Additions

set_option autoImplicit false

namespace PicoBroker

variable {maxSubs maxInflight maxRetained : Nat}

def filtersOf (subscriptions : Bounded Subscription maxSubs) : List Bytes :=
  subscriptions.items.map fun subscription => subscription.filter.items

def offeredFilters (topics : List SubscribeTopic) : List Bytes :=
  (topics.map fun topic => topic.topicPath.items).filter isValidFilter

def addedFilters (subscriptions : Bounded Subscription maxSubs) (topics : List SubscribeTopic) : List Bytes :=
  Additions.additions maxSubs (filtersOf subscriptions) (offeredFilters topics)

def answerTo (subscriptions : Bounded Subscription maxSubs) (topics : List SubscribeTopic) (topic : SubscribeTopic) :
    SubscribeReturnCodes :=
  if isValidFilter topic.topicPath.items = true ∧
      topic.topicPath.items ∈ filtersOf subscriptions ++ addedFilters subscriptions topics then
    .success topic.qos
  else .failure

inductive Upserted (subscriptions : Bounded Subscription maxSubs) (filter : Bytes) (qos : QoS) :
    Bounded Subscription maxSubs × SubscribeReturnCodes × Bool → Prop
  | invalid (malformed : isValidFilter filter = false) :
      Upserted subscriptions filter qos (subscriptions, .failure, false)
  | updated {after : Bounded Subscription maxSubs} (valid : isValidFilter filter = true)
      (known : filter ∈ filtersOf subscriptions) (same : filtersOf after = filtersOf subscriptions) :
      Upserted subscriptions filter qos (after, .success qos, false)
  | full (valid : isValidFilter filter = true) (unknown : filter ∉ filtersOf subscriptions)
      (full : (filtersOf subscriptions).length = maxSubs) :
      Upserted subscriptions filter qos (subscriptions, .failure, false)
  | added {after : Bounded Subscription maxSubs} (valid : isValidFilter filter = true)
      (unknown : filter ∉ filtersOf subscriptions) (room : (filtersOf subscriptions).length < maxSubs)
      (extended : filtersOf after = filtersOf subscriptions ++ [filter]) :
      Upserted subscriptions filter qos (after, .success qos, true)

theorem isValidFilter_length {filter : Bytes} (valid : isValidFilter filter = true) : filter.length ≤ 128 := by
  unfold isValidFilter at valid
  split at valid
  · cases valid
  · next short =>
    simp only [Bool.or_eq_true, decide_eq_true_eq] at short
    omega

theorem filtersOf_modify (subscriptions : Bounded Subscription maxSubs) (index : Nat) (qos : QoS) :
    filtersOf (subscriptions.modify index fun existing => { existing with qos := qos }) = filtersOf subscriptions := by
  apply List.ext_getElem?
  intro position
  simp only [filtersOf, Bounded.modify_items, List.getElem?_map, List.getElem?_modify]
  cases subscriptions.items[position]? with
  | none => rfl
  | some subscription => by_cases here : index = position <;> simp [here]

theorem upsertSubscription_upserted (subscriptions : Bounded Subscription maxSubs) (filter : Bytes) (qos : QoS) :
    Upserted subscriptions filter qos (upsertSubscription subscriptions filter qos) := by
  unfold upsertSubscription
  by_cases valid : isValidFilter filter = true
  · simp only [valid, Bool.not_true, Bool.false_eq_true, if_false]
    cases found : subscriptions.items.findIdx? fun subscription => subscription.filter.items == filter with
    | some index =>
      obtain ⟨inside, here, _⟩ := List.findIdx?_eq_some_iff_getElem.mp found
      have known : filter ∈ filtersOf subscriptions :=
        List.mem_map.mpr ⟨_, List.getElem_mem inside, by simpa using here⟩
      exact .updated valid known (filtersOf_modify subscriptions index qos)
    | none =>
      have unknown : filter ∉ filtersOf subscriptions := by
        intro known
        obtain ⟨subscription, member, same⟩ := List.mem_map.mp known
        simpa [same] using List.findIdx?_eq_none_iff.mp found subscription member
      have fits : (Bounded.ofList? filter : Option (Text 128)) = some ⟨filter, isValidFilter_length valid⟩ :=
        Bounded.ofList?_eq_some.mpr rfl
      simp only [fits]
      cases pushed : subscriptions.push ⟨⟨filter, isValidFilter_length valid⟩, qos⟩ with
      | none => exact .full valid unknown (by simpa [filtersOf] using Bounded.push_eq_none.mp pushed)
      | some after =>
        obtain ⟨room, items⟩ := Bounded.push_eq_some.mp pushed
        exact .added valid unknown (by simpa [filtersOf] using room) (by simp [filtersOf, items])
  · have malformed : isValidFilter filter = false := by simpa using valid
    simp only [malformed]
    exact .invalid malformed

structure Answered (start : Bounded Subscription maxSubs) (topics : List SubscribeTopic)
    (loop : SubscribeLoop maxSubs) : Prop where
  filters : filtersOf loop.subscriptions = filtersOf start ++ addedFilters start topics
  added : loop.newFilters.items.map Bounded.items = addedFilters start topics
  codes : loop.returnCodes.items = topics.map (answerTo start topics)

section

variable {start : Bounded Subscription maxSubs} {topics : List SubscribeTopic} {topic : SubscribeTopic}
  {loop : SubscribeLoop maxSubs}

theorem offeredFilters_concat_valid (valid : isValidFilter topic.topicPath.items = true) :
    offeredFilters (topics ++ [topic]) = offeredFilters topics ++ [topic.topicPath.items] := by
  simp [offeredFilters, valid]

theorem addedFilters_concat_invalid (start : Bounded Subscription maxSubs) (topics : List SubscribeTopic)
    (malformed : isValidFilter topic.topicPath.items = false) :
    addedFilters start (topics ++ [topic]) = addedFilters start topics := by
  simp [addedFilters, offeredFilters, malformed]

-- A later topic does not change the answer to an earlier one.
theorem answerTo_concat {earlier : SubscribeTopic} (member : earlier ∈ topics) :
    answerTo start (topics ++ [topic]) earlier = answerTo start topics earlier := by
  by_cases malformed : isValidFilter topic.topicPath.items = false
  · simp only [answerTo, addedFilters_concat_invalid start topics malformed]
  · have valid : isValidFilter topic.topicPath.items = true := by simpa using malformed
    by_cases wellFormed : isValidFilter earlier.topicPath.items = true
    · have offered : earlier.topicPath.items ∈ offeredFilters topics :=
        List.mem_filter.mpr ⟨List.mem_map.mpr ⟨earlier, member, rfl⟩, wellFormed⟩
      simp only [answerTo, addedFilters, offeredFilters_concat_valid valid, List.mem_append,
        Additions.mem_additions_concat offered]
    · simp [answerTo, wellFormed]

theorem codes_concat (topic : SubscribeTopic) (codes : loop.returnCodes.items = topics.map (answerTo start topics))
    (short : topics.length < maxSubscribeTopics) :
    (loop.returnCodes.pushAll [answerTo start (topics ++ [topic]) topic]).items =
      (topics ++ [topic]).map (answerTo start (topics ++ [topic])) := by
  have kept : topics.map (answerTo start topics) = topics.map (answerTo start (topics ++ [topic])) :=
    List.map_congr_left fun earlier member => (answerTo_concat member).symm
  rw [Bounded.pushAll_items _ _ (by simpa [codes] using Nat.succ_le_of_lt short), codes, kept]
  simp

theorem addedFilters_length_le (start : Bounded Subscription maxSubs) (topics : List SubscribeTopic) :
    (addedFilters start topics).length ≤ topics.length :=
  Nat.le_trans Additions.additions_length_le
    (Nat.le_trans (List.length_filter_le _ _) (Nat.le_of_eq (List.length_map _)))

theorem subscribeTopic_answered (topic : SubscribeTopic) (answered : Answered start topics loop) (short : topics.length < maxSubscribeTopics) :
    Answered start (topics ++ [topic]) (subscribeTopic loop topic) := by
  have upserted := upsertSubscription_upserted loop.subscriptions topic.topicPath.items topic.qos
  unfold subscribeTopic
  generalize upsertSubscription loop.subscriptions topic.topicPath.items topic.qos = result at upserted ⊢
  have codes := codes_concat topic answered.codes short
  cases upserted with
  | invalid malformed =>
    have same := addedFilters_concat_invalid start topics malformed
    refine ⟨by rw [same]; exact answered.filters, by rw [same]; exact answered.added, ?_⟩
    rw [← codes]
    simp [answerTo, malformed]
  | updated valid known unchanged =>
    rw [answered.filters] at known
    have same : addedFilters start (topics ++ [topic]) = addedFilters start topics := by
      rw [addedFilters, offeredFilters_concat_valid valid]
      exact Additions.additions_concat_of_mem known
    refine ⟨by rw [same]; exact unchanged.trans answered.filters, by rw [same]; exact answered.added, ?_⟩
    rw [← codes, answerTo, same, if_pos ⟨valid, known⟩]
  | full valid unknown full =>
    rw [answered.filters] at unknown full
    have same : addedFilters start (topics ++ [topic]) = addedFilters start topics := by
      rw [addedFilters, offeredFilters_concat_valid valid]
      exact Additions.additions_concat_of_full (Nat.le_of_eq full.symm)
    refine ⟨by rw [same]; exact answered.filters, by rw [same]; exact answered.added, ?_⟩
    rw [← codes, answerTo, same, if_neg fun accepted => unknown accepted.2]
  | added valid unknown room extended =>
    rw [answered.filters] at unknown room extended
    have longer : addedFilters start (topics ++ [topic]) = addedFilters start topics ++ [topic.topicPath.items] := by
      rw [addedFilters, offeredFilters_concat_valid valid]
      exact Additions.additions_concat_of_fresh unknown room
    have fits : (Bounded.ofList? topic.topicPath.items : Option (Text 128)) =
        some ⟨topic.topicPath.items, isValidFilter_length valid⟩ :=
      Bounded.ofList?_eq_some.mpr rfl
    have places : loop.newFilters.items.length + 1 ≤ maxSubscribeTopics := by
      have counted := congrArg List.length answered.added
      have few := addedFilters_length_le start topics
      rw [List.length_map] at counted
      omega
    refine ⟨by rw [longer, ← List.append_assoc]; exact extended, ?_, ?_⟩
    · simp only [fits, if_true]
      rw [Bounded.pushAll_items _ _ places, List.map_append, answered.added, longer]
      rfl
    · rw [← codes, answerTo, longer, if_pos ⟨valid, by simp⟩]

theorem subscribeTopics_answered (rest : List SubscribeTopic) (answered : Answered start topics loop)
    (short : (topics ++ rest).length ≤ maxSubscribeTopics) :
    Answered start (topics ++ rest) (rest.foldl subscribeTopic loop) := by
  induction rest generalizing topics loop with
  | nil => simpa using answered
  | cons topic rest ih =>
    simp only [List.length_append, List.length_cons] at short
    have step := subscribeTopic_answered topic answered (by omega)
    simpa using ih step (by simp only [List.length_append, List.length_cons, List.length_nil]; omega)

end

def replayAttempts (store : RetainedStore maxRetained) (filters : List Bytes) : List (Bytes × RetainedEntry) :=
  filters.flatMap fun filter => (store.matching filter).map fun entry => (filter, entry)

def RetainedEntry.delivery (entry : RetainedEntry) : RetainedDelivery := ⟨entry.topic, entry.payload, entry.qos⟩

structure PreparedReplay (session : SessionState maxSubs maxInflight) (packet : Subscribe) (store : RetainedStore maxRetained)
    (outcome : SessionState maxSubs maxInflight × PreparedSubscribe maxRetained) : Prop where
  filters : filtersOf outcome.1.subscriptions =
    filtersOf session.subscriptions ++ addedFilters session.subscriptions packet.topics.items
  codes : outcome.2.returnCodes.items =
    packet.topics.items.map (answerTo session.subscriptions packet.topics.items)
  deliveries : outcome.2.retainedDeliveries.items =
    ((replayAttempts store (addedFilters session.subscriptions packet.topics.items)).map
      fun attempt => attempt.2.delivery).take maxRetained

theorem prepareSubscribe_prepared (session : SessionState maxSubs maxInflight) (packet : Subscribe)
    (store : RetainedStore maxRetained) :
    PreparedReplay session packet store (prepareSubscribe session packet store) := by
  have started : Answered session.subscriptions [] ⟨session.subscriptions, .empty, .empty⟩ :=
    ⟨by simp [addedFilters, offeredFilters, Additions.additions, Additions.fresh],
      by simp [addedFilters, offeredFilters, Additions.additions, Additions.fresh], rfl⟩
  have answered := subscribeTopics_answered packet.topics.items started packet.topics.fits
  rw [List.nil_append] at answered
  refine ⟨answered.filters, answered.codes, ?_⟩
  simp only [prepareSubscribe, Bounded.pushAll_take, Bounded.empty_items, List.nil_append, ← answered.added,
    replayAttempts, List.map_flatMap, List.flatMap_map, List.map_map]
  rfl

def newFilters (session : SessionState maxSubs maxInflight) (packet : Subscribe) (store : RetainedStore maxRetained) :
    List Bytes :=
  (filtersOf (prepareSubscribe session packet store).1.subscriptions).drop session.subscriptions.items.length

theorem newFilters_eq (session : SessionState maxSubs maxInflight) (packet : Subscribe)
    (store : RetainedStore maxRetained) :
    newFilters session packet store = addedFilters session.subscriptions packet.topics.items := by
  have length : session.subscriptions.items.length = (filtersOf session.subscriptions).length := by
    simp [filtersOf]
  rw [newFilters, (prepareSubscribe_prepared session packet store).filters, length, List.drop_left]

-- Every retained message that a new filter matches is among the deliveries.
def ReplayComplete (session : SessionState maxSubs maxInflight) (packet : Subscribe)
    (store : RetainedStore maxRetained) : Prop :=
  ∀ entry ∈ store.entries.items, ∀ filter ∈ newFilters session packet store,
    topicMatches filter entry.topic.items = true →
      ∃ delivery ∈ (prepareSubscribe session packet store).2.retainedDeliveries.items,
        delivery.topic = entry.topic ∧ delivery.payload = entry.payload

def LeavesRoom (session : SessionState maxSubs maxInflight) (packet : Subscribe)
    (store : RetainedStore maxRetained) : Prop :=
  ∀ earlier filter later,
    addedFilters session.subscriptions packet.topics.items = earlier ++ filter :: later →
    ∀ before entry after, store.entries.items = before ++ entry :: after →
      topicMatches filter entry.topic.items = true →
      (∀ other ∈ earlier, topicMatches other entry.topic.items = false) →
      (earlier.map fun other => (store.matching other).length).sum +
        (before.countP fun stored => topicMatches filter stored.topic.items) < maxRetained

section

variable {store : RetainedStore maxRetained} {earlier later : List Bytes} {filter : Bytes}
  {before after : List RetainedEntry} {entry other : RetainedEntry}

theorem RetainedStore.entry_unique (stored : entry ∈ store.entries.items) (another : other ∈ store.entries.items)
    (same : entry.topic = other.topic) : entry = other :=
  List.inj_on_of_nodup_map store.distinct stored another same

theorem mem_replayAttempts {filters : List Bytes} :
    (filter, entry) ∈ replayAttempts store filters ↔
      filter ∈ filters ∧ entry ∈ store.entries.items ∧ topicMatches filter entry.topic.items = true := by
  simp [replayAttempts, RetainedStore.matching]

theorem replayAttempts_entries (store : RetainedStore maxRetained) (filters : List Bytes) :
    (replayAttempts store filters).map Prod.snd = filters.flatMap fun filter => store.matching filter := by
  simp [replayAttempts, List.map_flatMap]

theorem RetainedStore.notMem_before (split : store.entries.items = before ++ entry :: after) : entry ∉ before := by
  have nodup := List.Nodup.of_map _ store.distinct
  rw [split, List.nodup_append] at nodup
  intro twice
  exact nodup.2.2 entry twice entry (List.mem_cons_self ..) rfl

-- The first attempt for an entry comes after those of the earlier filters and of the entries before it.
theorem idxOf_attempt (later : List Bytes) (split : store.entries.items = before ++ entry :: after)
    (matched : topicMatches filter entry.topic.items = true)
    (unmatched : ∀ other ∈ earlier, topicMatches other entry.topic.items = false) :
    ((replayAttempts store (earlier ++ filter :: later)).map Prod.snd).idxOf entry =
      (earlier.map fun other => (store.matching other).length).sum +
        (before.countP fun stored => topicMatches filter stored.topic.items) := by
  have absent : entry ∉ earlier.flatMap fun other => store.matching other := by
    intro attempted
    obtain ⟨other, member, listed⟩ := List.mem_flatMap.mp attempted
    have contrary := (List.mem_filter.mp listed).2
    rw [unmatched other member] at contrary
    cases contrary
  have behind : entry ∉ before.filter fun stored => topicMatches filter stored.topic.items :=
    fun listed => store.notMem_before split (List.mem_filter.mp listed).1
  have matching : store.matching filter = (before.filter fun stored => topicMatches filter stored.topic.items) ++
      entry :: after.filter fun stored => topicMatches filter stored.topic.items := by
    simp [RetainedStore.matching, split, matched]
  rw [replayAttempts_entries, List.flatMap_append, List.flatMap_cons, matching, List.append_assoc,
    List.idxOf_append_of_notMem absent, List.idxOf_append_of_notMem behind, List.cons_append, List.idxOf_cons_self,
    List.length_flatMap, List.countP_eq_length_filter, Nat.add_zero]

end

theorem delivered_iff (session : SessionState maxSubs maxInflight) (packet : Subscribe)
    {store : RetainedStore maxRetained} {entry : RetainedEntry} (stored : entry ∈ store.entries.items) :
    (∃ delivery ∈ (prepareSubscribe session packet store).2.retainedDeliveries.items,
        delivery.topic = entry.topic ∧ delivery.payload = entry.payload) ↔
      entry ∈ ((replayAttempts store (addedFilters session.subscriptions packet.topics.items)).map
        Prod.snd).take maxRetained := by
  rw [(prepareSubscribe_prepared session packet store).deliveries]
  constructor
  · rintro ⟨delivery, delivered, topic, _⟩
    rw [← List.map_take] at delivered ⊢
    obtain ⟨⟨filter, other⟩, attempted, rfl⟩ := List.mem_map.mp delivered
    have another := (mem_replayAttempts.mp (List.mem_of_mem_take attempted)).2.1
    have same := store.entry_unique another stored topic
    exact List.mem_map.mpr ⟨_, attempted, same⟩
  · intro attempted
    rw [← List.map_take] at attempted ⊢
    obtain ⟨attempt, early, rfl⟩ := List.mem_map.mp attempted
    exact ⟨attempt.2.delivery, List.mem_map.mpr ⟨attempt, early, rfl⟩, rfl, rfl⟩

theorem replayComplete_iff (session : SessionState maxSubs maxInflight) (packet : Subscribe)
    (store : RetainedStore maxRetained) :
    ReplayComplete session packet store ↔ LeavesRoom session packet store := by
  unfold ReplayComplete LeavesRoom
  rw [newFilters_eq]
  constructor
  · intro complete earlier filter later added before entry after split matched unmatched
    have stored : entry ∈ store.entries.items := by simp [split]
    have delivered := complete entry stored filter (by simp [added]) matched
    rw [delivered_iff session packet stored, added] at delivered
    rw [← idxOf_attempt later split matched unmatched]
    exact (List.mem_take_iff_idxOf_lt (List.mem_of_mem_take delivered)).mp delivered
  · intro room entry stored filter member matched
    -- The first of the added filters that matches the entry.
    obtain ⟨first, found⟩ : ∃ first, (addedFilters session.subscriptions packet.topics.items).find?
        (fun other => topicMatches other entry.topic.items) = some first :=
      Option.isSome_iff_exists.mp (List.find?_isSome.mpr ⟨filter, member, matched⟩)
    obtain ⟨hit, earlier, later, added, missed⟩ := List.find?_eq_some_iff_append.mp found
    have unmatched : ∀ other ∈ earlier, topicMatches other entry.topic.items = false := by simpa using missed
    obtain ⟨before, after, split⟩ := List.append_of_mem stored
    have place := room earlier first later added before entry after split hit unmatched
    have attempted : entry ∈ (replayAttempts store (addedFilters session.subscriptions packet.topics.items)).map
        Prod.snd :=
      List.mem_map.mpr ⟨(filter, entry), mem_replayAttempts.mpr ⟨member, stored, matched⟩, rfl⟩
    rw [← idxOf_attempt later split hit unmatched, ← added] at place
    rw [delivered_iff session packet stored]
    exact (List.mem_take_iff_idxOf_lt attempted).mpr place

-- Two messages in a store for two. The first is replayed for the filter `a` and again for `+`.
def fullStore : RetainedStore 2 :=
  ⟨.truncate [⟨.truncate [97], .truncate [1], .atMostOnce⟩, ⟨.truncate [98], .truncate [2], .atMostOnce⟩],
    by decide⟩

def overlappingFilters : Subscribe :=
  ⟨.new, .truncate [⟨.truncate [97], .atMostOnce⟩, ⟨.truncate [plus], .atMostOnce⟩]⟩

theorem replay_incomplete :
    ¬ ReplayComplete (SessionState.new .empty 0 : SessionState 2 1) overlappingFilters fullStore := by
  intro complete
  have delivered := complete ⟨.truncate [98], .truncate [2], .atMostOnce⟩ (by decide) [plus] (by decide +kernel)
    (by decide)
  revert delivered
  decide +kernel

def GrantsRespected (session : SessionState maxSubs maxInflight) (packet : Subscribe)
    (store : RetainedStore maxRetained) : Prop :=
  ∀ index publish,
    (subscribePackets (prepareSubscribe session packet store).2)[index + 1]? = some (.publish publish) →
    ∃ filter entry, (replayAttempts store (newFilters session packet store))[index]? = some (filter, entry) ∧
      publish.topicName = entry.topic.items ∧ publish.payload = entry.payload.items ∧
      ∀ (suback : Suback) (position : Nat) (topic : SubscribeTopic) (granted : QoS),
        (subscribePackets (prepareSubscribe session packet store).2)[0]? = some (.suback suback) →
        packet.topics.items[position]? = some topic → topic.topicPath.items = filter →
        suback.returnCodes.items[position]? = some (.success granted) →
        qosRank publish.qospid.qos ≤ qosRank granted ∧ publish.qospid.qos = minQos granted entry.qos

-- What is replayed was stored with at most the quality of service requested.
def StoredWithinRequest (session : SessionState maxSubs maxInflight) (packet : Subscribe)
    (store : RetainedStore maxRetained) : Prop :=
  ∀ index filter entry, index < maxRetained →
    (replayAttempts store (addedFilters session.subscriptions packet.topics.items))[index]? = some (filter, entry) →
    ∀ topic ∈ packet.topics.items, topic.topicPath.items = filter → qosRank entry.qos ≤ qosRank topic.qos

theorem replayPackets_getElem? (pid : Pid) (deliveries : List RetainedDelivery) (index : Nat) :
    ((replayPackets pid deliveries)[index]?).map (fun publish =>
        (publish.topicName, publish.payload, publish.qospid.qos)) =
      deliveries[index]?.map fun delivery => (delivery.topic.items, delivery.payload.items, delivery.qos) := by
  induction deliveries generalizing pid index with
  | nil => simp [replayPackets]
  | cons delivery rest ih =>
    cases index with
    | zero => cases level : delivery.qos <;> simp [replayPackets, level, QosPid.qos]
    | succ index => cases level : delivery.qos <;> simp [replayPackets, level, ih]

section

variable {session : SessionState maxSubs maxInflight} {packet : Subscribe} {store : RetainedStore maxRetained}
  {index : Nat} {publish : Publish} {filter : Bytes} {entry : RetainedEntry}

theorem subscribePackets_publish {prepared : PreparedSubscribe maxRetained} :
    (subscribePackets prepared)[index + 1]? = some (.publish publish) ↔
      (replayPackets .new prepared.retainedDeliveries.items)[index]? = some publish := by
  simp [subscribePackets]

theorem replayed_getElem? (session : SessionState maxSubs maxInflight) (packet : Subscribe)
    (store : RetainedStore maxRetained) (index : Nat) :
    ((replayPackets .new (prepareSubscribe session packet store).2.retainedDeliveries.items)[index]?).map
        (fun publish => (publish.topicName, publish.payload, publish.qospid.qos)) =
      if index < maxRetained then
        (replayAttempts store (newFilters session packet store))[index]?.map fun attempt =>
          (attempt.2.topic.items, attempt.2.payload.items, attempt.2.qos)
      else none := by
  rw [replayPackets_getElem?, (prepareSubscribe_prepared session packet store).deliveries, newFilters_eq,
    List.getElem?_take]
  split
  · simp [Function.comp_def, RetainedEntry.delivery]
  · rfl

theorem attempt_of_sent
    (sent : (subscribePackets (prepareSubscribe session packet store).2)[index + 1]? = some (.publish publish)) :
    ∃ filter entry, index < maxRetained ∧
      (replayAttempts store (newFilters session packet store))[index]? = some (filter, entry) ∧
      publish.topicName = entry.topic.items ∧ publish.payload = entry.payload.items ∧
      publish.qospid.qos = entry.qos := by
  have replayed := replayed_getElem? session packet store index
  rw [subscribePackets_publish.mp sent] at replayed
  split at replayed
  · next early =>
    obtain ⟨⟨filter, entry⟩, attempted, same⟩ := Option.map_eq_some_iff.mp replayed.symm
    simp only [Prod.mk.injEq] at same
    exact ⟨filter, entry, early, attempted, same.1.symm, same.2.1.symm, same.2.2.symm⟩
  · cases replayed

theorem sent_of_attempt (early : index < maxRetained)
    (attempted : (replayAttempts store (newFilters session packet store))[index]? = some (filter, entry)) :
    ∃ publish, (subscribePackets (prepareSubscribe session packet store).2)[index + 1]? = some (.publish publish) ∧
      publish.qospid.qos = entry.qos := by
  have replayed := replayed_getElem? session packet store index
  rw [if_pos early, attempted] at replayed
  obtain ⟨publish, sent, same⟩ := Option.map_eq_some_iff.mp replayed
  simp only [Prod.mk.injEq] at same
  exact ⟨publish, subscribePackets_publish.mpr sent, same.2.2⟩

theorem answerTo_added {subscriptions : Bounded Subscription maxSubs} {topics : List SubscribeTopic}
    {topic : SubscribeTopic} (added : topic.topicPath.items ∈ addedFilters subscriptions topics) :
    answerTo subscriptions topics topic = .success topic.qos := by
  have valid := (List.mem_filter.mp (Additions.mem_of_mem_additions added).1).2
  exact if_pos ⟨valid, List.mem_append_right _ added⟩

theorem answerTo_success {subscriptions : Bounded Subscription maxSubs} {topics : List SubscribeTopic}
    {topic : SubscribeTopic} {granted : QoS} (success : answerTo subscriptions topics topic = .success granted) :
    granted = topic.qos := by
  unfold answerTo at success
  split at success
  · cases success
    rfl
  · cases success

theorem eq_minQos_iff (granted stored : QoS) : stored = minQos granted stored ↔ qosRank stored ≤ qosRank granted := by
  cases granted <;> cases stored <;> decide

end

theorem grantsRespected_iff (session : SessionState maxSubs maxInflight) (packet : Subscribe)
    (store : RetainedStore maxRetained) :
    GrantsRespected session packet store ↔ StoredWithinRequest session packet store := by
  have prepared := prepareSubscribe_prepared session packet store
  unfold StoredWithinRequest
  rw [← newFilters_eq session packet store]
  constructor
  · intro respected index filter entry early attempted topic requested named
    obtain ⟨publish, sent, level⟩ := sent_of_attempt early attempted
    obtain ⟨_, _, again, _, _, grants⟩ := respected index publish sent
    cases attempted.symm.trans again
    obtain ⟨position, located⟩ := List.getElem?_of_mem requested
    have added : topic.topicPath.items ∈ addedFilters session.subscriptions packet.topics.items := by
      rw [named, ← newFilters_eq session packet store]
      exact (mem_replayAttempts.mp (List.mem_of_getElem? attempted)).1
    have code : (prepareSubscribe session packet store).2.returnCodes.items[position]? = some (.success topic.qos) := by
      rw [prepared.codes, List.getElem?_map, located, Option.map_some, answerTo_added added]
    have lower := (grants _ position topic topic.qos rfl located named code).2
    rw [level] at lower
    exact (eq_minQos_iff _ _).mp lower
  · intro within index publish sent
    obtain ⟨filter, entry, early, attempted, topicName, payload, level⟩ := attempt_of_sent sent
    refine ⟨filter, entry, attempted, topicName, payload, ?_⟩
    intro suback position topic granted answered located named code
    cases answered
    rw [prepared.codes, List.getElem?_map, located, Option.map_some, Option.some.injEq] at code
    cases answerTo_success code
    have low := within index filter entry early attempted topic (List.mem_of_getElem? located) named
    rw [level]
    exact ⟨low, (eq_minQos_iff _ _).mpr low⟩

def storedAtQos1 : RetainedStore 1 := ⟨.truncate [⟨.truncate [116], .truncate [1], .atLeastOnce⟩], by decide⟩

def requestAtQos0 : Subscribe := ⟨.new, .truncate [⟨.truncate [116], .atMostOnce⟩]⟩

theorem grant_exceeded :
    ¬ GrantsRespected (SessionState.new .empty 0 : SessionState 1 1) requestAtQos0 storedAtQos1 := by
  intro respected
  have sent : (subscribePackets (prepareSubscribe (SessionState.new .empty 0 : SessionState 1 1) requestAtQos0
      storedAtQos1).2)[1]? = some (.publish ⟨false, .atLeastOnce .new, true, [116], [1]⟩) := by decide +kernel
  have attempted : (replayAttempts storedAtQos1 (newFilters (SessionState.new .empty 0 : SessionState 1 1)
      requestAtQos0 storedAtQos1))[0]? =
        some ([116], ⟨.truncate [116], .truncate [1], .atLeastOnce⟩) := by decide +kernel
  obtain ⟨filter, entry, again, _, _, grants⟩ := respected 0 _ sent
  cases attempted.symm.trans again
  have exceeded := (grants _ 0 ⟨.truncate [116], .atMostOnce⟩ .atMostOnce rfl rfl rfl (by decide +kernel)).1
  revert exceeded
  decide

end PicoBroker
