import PicoBroker.Broker.Retained
import PicoBroker.Shared.Keyed

set_option autoImplicit false

namespace PicoBroker.RetainedStore

variable {maxRetained : Nat} {store after : RetainedStore maxRetained} {topic payload : Bytes} {qos : QoS}

def topicOf (entry : RetainedEntry) : Bytes := entry.topic.items

def message (store : RetainedStore maxRetained) (topic : Bytes) : Option (Bytes × QoS) :=
  (Keyed.lookup topicOf store.entries.items topic).map fun entry => (entry.payload.items, entry.qos)

def otherEntries (store : RetainedStore maxRetained) (topic : Bytes) : List RetainedEntry :=
  Keyed.others topicOf store.entries.items topic

-- When `set` fails, and with which error.
def RefusedWith (store : RetainedStore maxRetained) (topic payload : Bytes) : RetainedError → Prop
  | .topicTooLong => 128 < topic.length
  | .payloadTooLarge => topic.length ≤ 128 ∧ 512 < payload.length
  | .full => topic.length ≤ 128 ∧ payload.length ≤ 512 ∧ payload ≠ [] ∧ topic ∉ store.entries.items.map topicOf ∧
      store.entries.items.length = maxRetained

theorem setInPlace_eq (store : RetainedStore maxRetained) (topic payload : Bytes) (qos : QoS) :
    store.setInPlace topic payload qos =
      ((store.set topic payload qos).toOption.getD store, (store.set topic payload qos).map fun _ => ()) := by
  have setting := store.setInPlace_spec topic payload qos
  unfold set
  generalize store.setInPlace topic payload qos = reply at setting
  cases setting <;> rfl

theorem set_refused {error : RetainedError} (failed : store.set topic payload qos = .error error) :
    store.RefusedWith topic payload error := by
  have setting := store.setInPlace_spec topic payload qos
  rw [set_eq_error] at failed
  generalize store.setInPlace topic payload qos = reply at setting failed
  have short {name : Text 128} (sameTopic : name.items = topic) : topic.length ≤ 128 := sameTopic ▸ name.fits
  cases setting with
  | topicTooLong long =>
    cases failed
    exact long
  | payloadTooLarge sameTopic large =>
    cases failed
    exact ⟨short sameTopic, large⟩
  | @full name bytes sameTopic samePayload nonempty missing size =>
    cases failed
    refine ⟨short sameTopic, samePayload ▸ bytes.fits, nonempty, ?_, size⟩
    rw [← sameTopic]
    simpa [topicOf] using find_eq_none.mp missing
  | cleared | absent | replaced | added => cases failed

theorem RefusedWith.unique {error other : RetainedError} (first : store.RefusedWith topic payload error)
    (second : store.RefusedWith topic payload other) : error = other := by
  cases error <;> cases other <;> simp only [RefusedWith] at first second <;> first | rfl | omega

theorem RefusedWith.not_storable {error : RetainedError} (refused : store.RefusedWith topic payload error) :
    ¬ store.Storable topic payload := by
  rintro ⟨short, fits⟩
  cases error with
  | topicTooLong => exact Nat.not_le_of_lt refused short
  | payloadTooLarge =>
    rcases fits with rfl | ⟨small, _⟩
    · simpa using refused.2
    · exact Nat.not_le_of_lt refused.2 small
  | full =>
    obtain ⟨_, _, nonempty, new, size⟩ := refused
    rcases fits with empty | ⟨_, ⟨entry, stored, same⟩ | room⟩
    · exact nonempty empty
    · exact new (List.mem_map.mpr ⟨entry, stored, same⟩)
    · omega

theorem set_eq_error_iff {error : RetainedError} :
    store.set topic payload qos = .error error ↔ store.RefusedWith topic payload error := by
  constructor
  · exact set_refused
  · intro refused
    cases result : store.set topic payload qos with
    | ok after => exact absurd (set_ok_iff.mp ⟨after, result⟩) refused.not_storable
    | error other => rw [refused.unique (set_refused result)]

theorem find_eq_findIdx? (name : Text 128) :
    store.find name = store.entries.items.findIdx? fun entry => topicOf entry == name.items := rfl

theorem distinct_topics (store : RetainedStore maxRetained) : (store.entries.items.map topicOf).Nodup := by
  have names : store.entries.items.map topicOf = (store.entries.items.map RetainedEntry.topic).map Bounded.items := by
    simp [topicOf, Function.comp_def]
  rw [names]
  exact store.distinct.map fun _ _ => Bounded.ext

theorem message_eq_none : store.message topic = none ↔ topic ∉ store.entries.items.map topicOf := by
  rw [message, Option.map_eq_none_iff, Keyed.lookup_eq_none]

theorem set_others (done : store.set topic payload qos = .ok after) :
    after.otherEntries topic = store.otherEntries topic := by
  have setting := store.setInPlace_spec topic payload qos
  rw [set_eq_ok.mp done] at setting
  unfold otherEntries
  cases setting with
  | cleared sameTopic empty found erased =>
    rw [find_eq_findIdx?, sameTopic] at found
    rw [erased, Bounded.eraseIdx_items, Keyed.eraseIdx_eq_others store.distinct_topics found]
    exact Keyed.others_eq_self (Keyed.lookup_eq_none.mp Keyed.lookup_others_self)
  | absent => rfl
  | replaced sameTopic samePayload nonempty found modified =>
    rw [find_eq_findIdx?, sameTopic] at found
    rw [modified, Bounded.modify_items]
    exact Keyed.others_modify found fun _ => rfl
  | @added name bytes _ sameTopic samePayload nonempty pushed =>
    have last : Keyed.others topicOf [⟨name, bytes, qos⟩] topic = [] := Keyed.others_cons_of_eq sameTopic
    rw [(Bounded.push_eq_some.mp pushed).2, Keyed.others_append, last, List.append_nil]

theorem set_message_of_ne {other : Bytes} (done : store.set topic payload qos = .ok after) (different : other ≠ topic) :
    after.message other = store.message other := by
  have same := congrArg (Keyed.lookup topicOf · other) (set_others done)
  simp only [otherEntries, Keyed.lookup_others_of_ne different] at same
  rw [message, message, same]

theorem set_message_self (done : store.set topic payload qos = .ok after) :
    after.message topic = if payload = [] then none else some (payload, qos) := by
  have shown := set_ok_reflects done
  unfold Reflects at shown
  split at shown
  · next empty =>
    rw [if_pos empty, message_eq_none]
    rintro listed
    obtain ⟨entry, stored, same⟩ := List.mem_map.mp listed
    exact shown entry stored same
  · next nonempty =>
    obtain ⟨entry, stored, sameTopic, samePayload, sameQos⟩ := shown
    have found : Keyed.lookup topicOf after.entries.items (topicOf entry) = some entry :=
      Keyed.lookup_of_mem after.distinct_topics stored
    rw [topicOf, sameTopic] at found
    simp [message, found, nonempty, samePayload, sameQos]

theorem set_nonempty (nonempty : ∀ entry ∈ store.entries.items, entry.payload.items ≠ [])
    (done : store.set topic payload qos = .ok after) : ∀ entry ∈ after.entries.items, entry.payload.items ≠ [] := by
  intro entry stored
  have found : Keyed.lookup topicOf after.entries.items (topicOf entry) = some entry :=
    Keyed.lookup_of_mem after.distinct_topics stored
  have shown : after.message (topicOf entry) = some (entry.payload.items, entry.qos) := by simp [message, found]
  by_cases here : topicOf entry = topic
  · rw [here, set_message_self done] at shown
    split at shown
    · cases shown
    · next written =>
      cases shown
      exact written
  · rw [set_message_of_ne done here] at shown
    obtain ⟨old, kept, same⟩ := Option.map_eq_some_iff.mp shown
    rw [← (Prod.mk.inj same).1]
    exact nonempty old (List.mem_of_find?_eq_some kept)

structure Publication where
  topic : Bytes
  payload : Bytes
  qos : QoS

def afterSets (store : RetainedStore maxRetained) (publications : List Publication) : RetainedStore maxRetained :=
  publications.foldl (fun store publication =>
    (store.setInPlace publication.topic publication.payload publication.qos).1) store

theorem setInPlace_nonempty (nonempty : ∀ entry ∈ store.entries.items, entry.payload.items ≠ [])
    (topic payload : Bytes) (qos : QoS) :
    ∀ entry ∈ (store.setInPlace topic payload qos).1.entries.items, entry.payload.items ≠ [] := by
  rw [setInPlace_eq]
  cases result : store.set topic payload qos with
  | ok after => exact set_nonempty nonempty result
  | error error => exact nonempty

theorem afterSets_nonempty (publications : List Publication)
    (nonempty : ∀ entry ∈ store.entries.items, entry.payload.items ≠ []) :
    ∀ entry ∈ (store.afterSets publications).entries.items, entry.payload.items ≠ [] := by
  induction publications generalizing store with
  | nil => exact nonempty
  | cons publication publications ih => exact ih (setInPlace_nonempty nonempty _ _ _)

structure SetsMap (store : RetainedStore maxRetained) (topic payload : Bytes) (qos : QoS) : Prop where
  self : (store.setInPlace topic payload qos).2 = .ok () →
    (store.setInPlace topic payload qos).1.message topic = if payload = [] then none else some (payload, qos)
  others : (store.setInPlace topic payload qos).2 = .ok () →
    ∀ other, other ≠ topic → (store.setInPlace topic payload qos).1.message other = store.message other
  order : (store.setInPlace topic payload qos).1.otherEntries topic = store.otherEntries topic
  refused : ∀ error, (store.setInPlace topic payload qos).2 = .error error ↔ store.RefusedWith topic payload error
  failed : (∃ error, (store.setInPlace topic payload qos).2 = .error error) ↔ 128 < topic.length ∨
    payload ≠ [] ∧ 512 < payload.length ∨
    payload ≠ [] ∧ store.message topic = none ∧ store.entries.items.length = maxRetained
  unchanged : ∀ error, (store.setInPlace topic payload qos).2 = .error error →
    (store.setInPlace topic payload qos).1 = store

theorem exists_refusedWith : (∃ error, store.RefusedWith topic payload error) ↔ 128 < topic.length ∨
    payload ≠ [] ∧ 512 < payload.length ∨
    payload ≠ [] ∧ store.message topic = none ∧ store.entries.items.length = maxRetained := by
  rw [message_eq_none]
  constructor
  · rintro ⟨_ | _ | _, refused⟩
    · exact .inl refused
    · refine .inr (.inl ⟨?_, refused.2⟩)
      rintro rfl
      simpa using refused.2
    · obtain ⟨_, _, nonempty, new, size⟩ := refused
      exact .inr (.inr ⟨nonempty, new, size⟩)
  · intro condition
    by_cases long : 128 < topic.length
    · exact ⟨.topicTooLong, long⟩
    · by_cases large : 512 < payload.length
      · exact ⟨.payloadTooLarge, Nat.le_of_not_lt long, large⟩
      · obtain ⟨nonempty, new, size⟩ := (condition.resolve_left long).resolve_left fun other => large other.2
        exact ⟨.full, Nat.le_of_not_lt long, Nat.le_of_not_lt large, nonempty, new, size⟩

theorem setInPlace_setsMap (store : RetainedStore maxRetained) (topic payload : Bytes) (qos : QoS) :
    SetsMap store topic payload qos := by
  have refused (error : RetainedError) :
      (store.setInPlace topic payload qos).2 = .error error ↔ store.RefusedWith topic payload error := by
    rw [setInPlace_eq]
    refine Iff.trans ?_ (set_eq_error_iff : store.set topic payload qos = .error error ↔ _)
    cases store.set topic payload qos <;> simp [Except.map]
  have failed : (∃ error, (store.setInPlace topic payload qos).2 = .error error) ↔
      ∃ error, store.RefusedWith topic payload error := exists_congr refused
  have place := setInPlace_eq store topic payload qos
  cases result : store.set topic payload qos with
  | ok after =>
    rw [result] at place
    refine ⟨?_, ?_, ?_, refused, failed.trans exists_refusedWith, ?_⟩ <;> rw [place]
    · exact fun _ => set_message_self result
    · exact fun _ other different => set_message_of_ne result different
    · exact set_others result
    · rintro error impossible
      cases impossible
  | error error =>
    rw [result] at place
    refine ⟨?_, ?_, ?_, refused, failed.trans exists_refusedWith, ?_⟩ <;> rw [place]
    · rintro impossible
      cases impossible
    · exact fun _ _ _ => rfl
    · rfl
    · exact fun _ _ => rfl

structure IsMap (store : RetainedStore maxRetained) : Prop where
  distinct : (store.entries.items.map topicOf).Nodup
  payloads : ∀ entry ∈ store.entries.items, entry.payload.items ≠ [] ∧ entry.payload.items.length ≤ 512
  bounded : store.entries.items.length ≤ maxRetained
  sets : ∀ topic payload qos, SetsMap store topic payload qos
  matching : ∀ filter entry,
    entry ∈ store.matching filter ↔ entry ∈ store.entries.items ∧ topicMatches filter entry.topic.items = true

theorem afterSets_isMap (publications : List Publication) :
    IsMap ((new : RetainedStore maxRetained).afterSets publications) := by
  have nonempty := @afterSets_nonempty maxRetained new publications (by simp [new])
  refine ⟨distinct_topics _, fun entry stored => ⟨nonempty entry stored, entry.payload.fits⟩, Bounded.fits _,
    fun topic payload qos => setInPlace_setsMap _ topic payload qos, fun filter entry => ?_⟩
  simp [RetainedStore.matching]

end PicoBroker.RetainedStore
