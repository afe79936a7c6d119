import PicoBroker.Broker.Subscribe

set_option autoImplicit false

namespace PicoBroker

def LevelMatches (filterLevel level : Bytes) : Prop :=
  filterLevel = level ∨ filterLevel = [plus] ∧ level ≠ []

def LevelsMatch (filterLevels topicLevels : List Bytes) : Prop :=
  if filterLevels.getLast? = some [hash] then
    ∃ matched, matched <+: topicLevels ∧ List.Forall₂ LevelMatches filterLevels.dropLast matched
  else List.Forall₂ LevelMatches filterLevels topicLevels

-- Topics of the server are outside every wildcard.
def FilterMatches (filter topic : Bytes) : Prop :=
  ¬ (topic.head? = some dollar ∧ (plus ∈ filter ∨ hash ∈ filter)) ∧ LevelsMatch (levels filter) (levels topic)

theorem containsWildcards_iff (filter : Bytes) :
    containsWildcards filter = true ↔ plus ∈ filter ∨ hash ∈ filter := by
  simp only [containsWildcards, List.any_eq_true, Bool.or_eq_true, beq_iff_eq]
  constructor
  · rintro ⟨byte, member, rfl | rfl⟩
    · exact .inl member
    · exact .inr member
  · rintro (member | member)
    · exact ⟨plus, member, .inl rfl⟩
    · exact ⟨hash, member, .inr rfl⟩

theorem levelsMatch_hash (topicLevels : List Bytes) : LevelsMatch [[hash]] topicLevels := by
  simp only [LevelsMatch, List.getLast?_singleton, if_true]
  exact ⟨[], List.nil_prefix, .nil⟩

theorem levelsMatch_cons_nil {filterLevel : Bytes} {filterLevels : List Bytes}
    (hashless : [hash] ∉ (filterLevel :: filterLevels).dropLast) (literal : filterLevel ≠ [hash]) :
    ¬ LevelsMatch (filterLevel :: filterLevels) [] := by
  unfold LevelsMatch
  split
  · cases filterLevels with
    | nil => simp_all
    | cons next rest =>
      rintro ⟨matched, short, paired⟩
      cases List.prefix_nil.mp short
      cases paired
  · intro paired
    cases paired

theorem levelsMatch_cons_cons {filterLevel level : Bytes} {filterLevels topicLevels : List Bytes}
    (literal : filterLevel ≠ [hash]) :
    LevelsMatch (filterLevel :: filterLevels) (level :: topicLevels) ↔
      LevelMatches filterLevel level ∧ LevelsMatch filterLevels topicLevels := by
  cases filterLevels with
  | nil => simp [LevelsMatch, literal]
  | cons next rest =>
    simp only [LevelsMatch, List.getLast?_cons_cons, List.dropLast_cons_cons]
    split
    · constructor
      · rintro ⟨matched, ahead, paired⟩
        cases paired with
        | cons here later =>
          obtain ⟨rfl, short⟩ := List.cons_prefix_cons.mp ahead
          exact ⟨here, _, short, later⟩
      · rintro ⟨here, matched, short, later⟩
        exact ⟨level :: matched, List.cons_prefix_cons.mpr ⟨rfl, short⟩, .cons here later⟩
    · exact List.forall₂_cons

-- The two middle arms of the loop together are one level that matches.
theorem matchLevels_cons_cons {filterLevel level : Bytes} {filterLevels topicLevels : List Bytes}
    (literal : filterLevel ≠ [hash]) :
    matchLevels (filterLevel :: filterLevels) (level :: topicLevels) = true ↔
      LevelMatches filterLevel level ∧ matchLevels filterLevels topicLevels = true := by
  simp only [matchLevels, literal, if_false, LevelMatches]
  by_cases same : filterLevel = level
  · simp [same]
  · by_cases single : filterLevel = [plus] ∧ level ≠ [] <;> simp [same, single]

theorem matchLevels_iff {filterLevels topicLevels : List Bytes} (hashless : [hash] ∉ filterLevels.dropLast) :
    matchLevels filterLevels topicLevels = true ↔ LevelsMatch filterLevels topicLevels := by
  induction filterLevels generalizing topicLevels with
  | nil => cases topicLevels <;> simp [matchLevels, LevelsMatch]
  | cons filterLevel filterLevels ih =>
    by_cases final : filterLevel = [hash]
    · cases filterLevels with
      | nil => simp [matchLevels, final, levelsMatch_hash]
      | cons next rest => simp [final] at hashless
    · have later : [hash] ∉ filterLevels.dropLast := by
        cases filterLevels with
        | nil => simp
        | cons next rest =>
          simp only [List.dropLast_cons_cons, List.mem_cons, not_or] at hashless
          exact hashless.2
      cases topicLevels with
      | nil => simp [matchLevels, final, levelsMatch_cons_nil hashless final]
      | cons level topicLevels => rw [matchLevels_cons_cons final, levelsMatch_cons_cons final, ih later]

theorem levelsMatch_self (filterLevels : List Bytes) : LevelsMatch filterLevels filterLevels := by
  unfold LevelsMatch
  split
  · exact ⟨filterLevels.dropLast, List.dropLast_prefix _, List.forall₂_same.mpr fun level _ => .inl rfl⟩
  · exact List.forall₂_same.mpr fun level _ => .inl rfl

theorem hash_notMem_dropLast {filter : Bytes} (valid : isValidFilter filter = true) : hash ∉ filter.dropLast := by
  intro member
  obtain ⟨position, inside, found⟩ := List.getElem_of_mem member
  simp only [List.length_dropLast] at inside
  rw [List.getElem_dropLast] at found
  have located : filter.findIdx? (fun byte => byte == hash) ≠ none := by
    simp only [ne_eq, List.findIdx?_eq_none_iff, not_forall]
    exact ⟨hash, found ▸ List.getElem_mem _, by simp⟩
  obtain ⟨first, early⟩ := Option.ne_none_iff_exists'.mp located
  have before : first ≤ position := by
    by_contra late
    have skipped := (List.findIdx?_eq_some_iff_getElem.mp early).2.2 position (by omega)
    simp [found] at skipped
  have last : first = filter.length - 1 := by
    unfold isValidFilter at valid
    split at valid
    · cases valid
    · simp only [early, Bool.and_eq_true, decide_eq_true_eq] at valid
      exact valid.1.1
  omega

theorem mem_intercalate {level : Bytes} {rest : List Bytes} (last : Bytes) (member : level ∈ rest) :
    ∃ before after, [slash].intercalate (rest ++ [last]) = before ++ level ++ slash :: after := by
  induction rest with
  | nil => cases member
  | cons head tail ih =>
    have joined : [slash].intercalate (head :: tail ++ [last]) =
        head ++ slash :: [slash].intercalate (tail ++ [last]) := by
      cases tail <;> simp [List.intercalate]
    rw [joined]
    cases member with
    | head => exact ⟨[], _, rfl⟩
    | tail _ member =>
      obtain ⟨before, after, split⟩ := ih member
      exact ⟨head ++ slash :: before, after, by simp [split]⟩

theorem hash_notMem_levels {filter : Bytes} (valid : isValidFilter filter = true) :
    [hash] ∉ (levels filter).dropLast := by
  intro member
  have nonempty : levels filter ≠ [] := by
    intro empty
    simp [empty] at member
  obtain ⟨before, after, split⟩ := mem_intercalate ((levels filter).getLast nonempty) member
  rw [List.dropLast_append_getLast, levels, List.intercalate_splitOn] at split
  apply hash_notMem_dropLast valid
  rw [split, List.dropLast_append_cons]
  simp

theorem topicMatches_iff {filter topic : Bytes} (valid : isValidFilter filter = true)
    (name : plus ∉ topic ∧ hash ∉ topic) : topicMatches filter topic = true ↔ FilterMatches filter topic := by
  unfold topicMatches FilterMatches
  split
  · next same =>
    subst same
    simp [name, levelsMatch_self]
  · simp only [containsWildcards_iff]
    split
    · next hidden => simp [hidden]
    · next visible =>
      rw [matchLevels_iff (hash_notMem_levels valid)]
      simp [visible]

-- "a/+/#" at "a/b"
theorem topicMatches_iff_parent : FilterMatches [97, slash, plus, slash, hash] [97, slash, 98] :=
  (topicMatches_iff (by decide) (by decide)).mp (by decide)

end PicoBroker
