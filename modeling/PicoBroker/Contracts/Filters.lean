import PicoBroker.Broker.PublishFormat
import PicoBroker.Contracts.TopicMatching
import PicoBroker.Shared.Utf8

set_option autoImplicit false

namespace PicoBroker

def WellFormedLevels {α : Type} (single multi : α) (parts : List (List α)) : Prop :=
  ∀ index level, parts[index]? = some level →
    level = [single] ∨ (single ∉ level ∧ multi ∉ level) ∨ (level = [multi] ∧ index + 1 = parts.length)

structure FilterGrammar (filter : String) : Prop where
  nonempty : filter ≠ ""
  short : filter.utf8ByteSize ≤ 128
  wellFormed : WellFormedLevels '+' '#' (filter.toList.splitOn '/')

-- Nothing follows a `#`, and nothing of its level is before it.
def HashLast (filter : Bytes) : Prop :=
  ∀ front back, filter = front ++ hash :: back → back = [] ∧ (front = [] ∨ front.getLast? = some slash)

-- `is_valid_filter` looks at the first `#` only.
def hashCheck (filter : Bytes) : Bool :=
  match filter.findIdx? fun byte => byte == hash with
  | none => true
  | some hashPos =>
      decide (hashPos = filter.length - 1) && (decide (hashPos = 0) || filter[hashPos - 1]? == some slash)

theorem hashCheck_first {front back : Bytes} (absent : hash ∉ front) :
    hashCheck (front ++ hash :: back) = true ↔ back = [] ∧ (front = [] ∨ front.getLast? = some slash) := by
  have early : (front.findIdx? fun byte => byte == hash) = none := by
    rw [List.findIdx?_eq_none_iff]
    intro byte member
    exact beq_false_of_ne fun same => absent (same ▸ member)
  have last : front.length = (front ++ hash :: back).length - 1 ↔ back = [] := by
    rw [← List.length_eq_zero_iff]
    simp only [List.length_append, List.length_cons]
    omega
  simp only [hashCheck, List.findIdx?_append, early, List.findIdx?_cons, beq_self_eq_true, if_true,
    Option.none_or, Option.map_some, Nat.zero_add, Bool.and_eq_true, decide_eq_true_eq, last, Bool.or_eq_true,
    beq_iff_eq, List.length_eq_zero_iff]
  cases front using List.reverseRecOn <;> simp

theorem hashCheck_iff (filter : Bytes) : hashCheck filter = true ↔ HashLast filter := by
  by_cases member : hash ∈ filter
  · obtain ⟨front, back, rfl, absent⟩ := List.eq_append_cons_of_mem member
    rw [hashCheck_first absent]
    constructor
    · rintro ⟨rfl, alone⟩ other more split
      cases more using List.reverseRecOn with
      | nil =>
        rw [(List.append_inj' split rfl).1] at alone
        exact ⟨rfl, alone⟩
      | append_singleton more last =>
        rw [← List.cons_append, ← List.append_assoc] at split
        rw [(List.append_inj' split rfl).1] at absent
        simp at absent
    · intro check
      exact check front back rfl
  · have missing : (filter.findIdx? fun byte => byte == hash) = none := by
      rw [List.findIdx?_eq_none_iff]
      intro byte found
      exact beq_false_of_ne fun same => member (same ▸ found)
    rw [hashCheck, missing]
    refine iff_of_true rfl fun front back split => ?_
    rw [split] at member
    simp at member

theorem isValidFilter_eq (filter : Bytes) :
    isValidFilter filter = true ↔ filter ≠ [] ∧ filter.length ≤ 128 ∧ HashLast filter ∧
      ∀ level ∈ levels filter, plus ∈ level → level = [plus] := by
  rw [← hashCheck_iff]
  have checked : isValidFilter filter = (if filter.isEmpty || decide (filter.length > 128) then false
      else hashCheck filter && (levels filter).all fun level => !(level.contains plus && level != [plus])) := rfl
  rw [checked]
  split
  · next refused =>
    simp only [Bool.or_eq_true, List.isEmpty_iff, decide_eq_true_eq] at refused
    simp only [Bool.false_eq_true, false_iff]
    rintro ⟨nonempty, short, _⟩
    rcases refused with empty | long
    · exact nonempty empty
    · omega
  · next accepted =>
    simp only [Bool.or_eq_true, List.isEmpty_iff, decide_eq_true_eq, not_or, Nat.not_lt] at accepted
    simp [accepted, List.all_eq_true, imp_iff_not_or]

def joined (parts : List Bytes) : Bytes := parts.flatMap fun level => level ++ [slash]

theorem joined_append (rest : List Bytes) (last : Bytes) :
    [slash].intercalate (rest ++ [last]) = joined rest ++ last := by
  induction rest with
  | nil => simp [joined]
  | cons head tail ih =>
    have step : [slash].intercalate (head :: tail ++ [last]) =
        head ++ slash :: [slash].intercalate (tail ++ [last]) := by
      cases tail <;> simp [List.intercalate]
    rw [step, ih]
    simp [joined]

theorem joined_end (rest : List Bytes) : joined rest = [] ∨ (joined rest).getLast? = some slash := by
  cases rest using List.reverseRecOn with
  | nil => exact .inl rfl
  | append_singleton rest level => exact .inr (by simp [joined, List.flatMap_append])

theorem hash_mem_joined {rest : List Bytes} : hash ∈ joined rest ↔ ∃ level ∈ rest, hash ∈ level := by
  have different : hash ≠ slash := by decide
  simp [joined, List.mem_flatMap, different]

theorem slash_notMem {name level : Bytes} (member : level ∈ levels name) : slash ∉ level := by
  unfold levels at member
  induction name generalizing level with
  | nil =>
    rw [List.splitOn_nil, List.mem_singleton] at member
    simp [member]
  | cons byte name ih =>
    rw [List.splitOn_cons_eq_if_modifyHead] at member
    split at member
    · rcases List.mem_cons.mp member with rfl | later
      · simp
      · exact ih later
    · next different =>
      cases split : name.splitOn slash with
      | nil => simp [split] at member
      | cons first rest =>
        rw [split, List.modifyHead_cons] at member
        rcases List.mem_cons.mp member with rfl | later
        · have absent := ih (split ▸ List.mem_cons_self ..)
          simp only [beq_iff_eq] at different
          simp [absent, Ne.symm different]
        · exact ih (split ▸ List.mem_cons_of_mem _ later)

theorem exists_levels (name : Bytes) : ∃ rest last, levels name = rest ++ [last] ∧ name = joined rest ++ last := by
  rcases List.eq_nil_or_concat (levels name) with empty | ⟨rest, last, split⟩
  · exact absurd empty (List.splitOn_ne_nil _ _)
  · rw [List.concat_eq_append] at split
    refine ⟨rest, last, split, ?_⟩
    rw [← joined_append, ← split]
    exact (List.intercalate_splitOn slash).symm

theorem hashLast_iff {rest : List Bytes} {last : Bytes} (closed : slash ∉ last) :
    HashLast (joined rest ++ last) ↔ (∀ level ∈ rest, hash ∉ level) ∧ (hash ∈ last → last = [hash]) := by
  constructor
  · intro check
    refine ⟨fun level member found => ?_, fun found => ?_⟩
    · obtain ⟨front, back, split⟩ := List.append_of_mem (hash_mem_joined.mpr ⟨level, member, found⟩)
      have empty := (check front (back ++ last) (by simp [split])).1
      rw [(List.append_eq_nil_iff.mp empty).1] at split
      -- What is joined ends with a slash and not with the `#`.
      rcases joined_end rest with none | some
      · simp [none] at split
      · rw [split, List.getLast?_concat] at some
        exact absurd some (by decide)
    · obtain ⟨front, back, rfl⟩ := List.append_of_mem found
      obtain ⟨rfl, alone⟩ := check (joined rest ++ front) back (by simp)
      cases front using List.reverseRecOn with
      | nil => rfl
      | append_singleton front byte =>
        rw [← List.append_assoc, List.getLast?_concat] at alone
        have same : byte = slash := by simpa using alone
        simp [same] at closed
  · rintro ⟨hashless, alone⟩ front back split
    have absent : hash ∉ joined rest := by
      rw [hash_mem_joined]
      rintro ⟨level, member, found⟩
      exact hashless level member found
    rcases List.append_eq_append_iff.mp split with ⟨more, rfl, rfl⟩ | ⟨more, start, follows⟩
    · have lengths := congrArg List.length (alone (by simp))
      simp only [List.length_append, List.length_cons, List.length_nil] at lengths
      obtain rfl : more = [] := List.eq_nil_of_length_eq_zero (by omega)
      obtain rfl : back = [] := List.eq_nil_of_length_eq_zero (by omega)
      simpa using joined_end rest
    · cases more with
      | nil =>
        rw [List.nil_append] at follows
        have single := alone (by simp [← follows])
        rw [← follows, List.cons.injEq] at single
        rw [List.append_nil] at start
        exact ⟨single.2, start ▸ joined_end rest⟩
      | cons byte more =>
        obtain ⟨rfl, _⟩ := List.cons.inj follows
        simp [start] at absent

theorem wellFormedLevels_concat {α : Type} {single multi : α} {rest : List (List α)} {last : List α} :
    WellFormedLevels single multi (rest ++ [last]) ↔
      (∀ level ∈ rest, level = [single] ∨ (single ∉ level ∧ multi ∉ level)) ∧
        (last = [single] ∨ (single ∉ last ∧ multi ∉ last) ∨ last = [multi]) := by
  constructor
  · intro wellFormed
    refine ⟨fun level member => ?_, ?_⟩
    · obtain ⟨index, inside, rfl⟩ := List.getElem_of_mem member
      have here := wellFormed index rest[index] (by rw [List.getElem?_append_left inside]; simp)
      simp only [List.length_append, List.length_singleton, Nat.add_right_cancel_iff] at here
      rcases here with alone | literal | ⟨_, final⟩
      · exact .inl alone
      · exact .inr literal
      · omega
    · have here := wellFormed rest.length last (by simp)
      simpa using here
  · rintro ⟨earlier, final⟩ index level found
    rcases Nat.lt_or_ge index rest.length with inside | outside
    · rw [List.getElem?_append_left inside] at found
      rcases earlier level (List.mem_of_getElem? found) with alone | literal
      · exact .inl alone
      · exact .inr (.inl literal)
    · have position : index = rest.length := by
        have bounded := (List.getElem?_eq_some_iff.mp found).1
        simp only [List.length_append, List.length_singleton] at bounded
        omega
      subst position
      obtain rfl : last = level := by simpa using found
      simpa using final

theorem isValidFilter_iff_levels (filter : Bytes) :
    isValidFilter filter = true ↔
      filter ≠ [] ∧ filter.length ≤ 128 ∧ WellFormedLevels plus hash (levels filter) := by
  obtain ⟨rest, last, split, whole⟩ := exists_levels filter
  have closed : slash ∉ last := by
    have listed : last ∈ levels filter := by simp [split]
    exact slash_notMem listed
  have checked : HashLast filter ↔ (∀ level ∈ rest, hash ∉ level) ∧ (hash ∈ last → last = [hash]) := by
    rw [whole, hashLast_iff closed]
  have different : hash ≠ plus := by decide
  rw [isValidFilter_eq, checked, split, wellFormedLevels_concat]
  refine and_congr_right fun _ => and_congr_right fun _ => ?_
  simp only [List.forall_mem_append, List.forall_mem_singleton]
  constructor
  · rintro ⟨⟨hashless, alone⟩, pluses, final⟩
    refine ⟨fun level member => ?_, ?_⟩
    · by_cases found : plus ∈ level
      · exact .inl (pluses level member found)
      · exact .inr ⟨found, hashless level member⟩
    · by_cases found : plus ∈ last
      · exact .inl (final found)
      · by_cases ends : hash ∈ last
        · exact .inr (.inr (alone ends))
        · exact .inr (.inl ⟨found, ends⟩)
  · rintro ⟨earlier, final⟩
    refine ⟨⟨fun level member => ?_, ?_⟩, fun level member => ?_, ?_⟩
    · rcases earlier level member with rfl | literal
      · simp [different]
      · exact literal.2
    · rcases final with rfl | literal | rfl <;> simp_all
    · rcases earlier level member with rfl | literal <;> simp_all
    · rcases final with rfl | literal | rfl <;> simp_all

theorem utf8_eq_encode (text : String) : utf8 text = Utf8.encode text.toList := (Utf8.encode_toList text).symm

theorem length_utf8 (text : String) : (utf8 text).length = text.utf8ByteSize := by
  simp [utf8, String.toUTF8]

theorem levels_utf8 (text : String) : levels (utf8 text) = (text.toList.splitOn '/').map Utf8.encode := by
  rw [utf8_eq_encode]
  exact Utf8.splitOn_encode (show '/'.toNat < 128 by decide) text.toList

theorem wellFormedLevels_encode (parts : List (List Char)) :
    WellFormedLevels plus hash (parts.map Utf8.encode) ↔ WellFormedLevels '+' '#' parts := by
  have single (level : List Char) : Utf8.encode level = [plus] ↔ level = ['+'] :=
    Utf8.encode_eq_singleton (show '+'.toNat < 128 by decide)
  have multi (level : List Char) : Utf8.encode level = [hash] ↔ level = ['#'] :=
    Utf8.encode_eq_singleton (show '#'.toNat < 128 by decide)
  have someSingle (level : List Char) : plus ∈ Utf8.encode level ↔ '+' ∈ level :=
    Utf8.mem_encode (show '+'.toNat < 128 by decide)
  have someMulti (level : List Char) : hash ∈ Utf8.encode level ↔ '#' ∈ level :=
    Utf8.mem_encode (show '#'.toNat < 128 by decide)
  simp only [WellFormedLevels, List.getElem?_map, List.length_map, Option.map_eq_some_iff,
    forall_exists_index, and_imp]
  constructor
  · intro wellFormed index level found
    simpa only [single, multi, someSingle, someMulti] using wellFormed index _ level found rfl
  · rintro wellFormed index _ level found rfl
    simpa only [single, multi, someSingle, someMulti] using wellFormed index level found

theorem isValidFilter_iff (filter : String) : isValidFilter (utf8 filter) = true ↔ FilterGrammar filter := by
  have empty : utf8 filter ≠ [] ↔ filter ≠ "" := by
    rw [utf8_eq_encode, ne_eq, Utf8.encode_eq_nil, String.toList_eq_nil_iff]
  rw [isValidFilter_iff_levels, empty, length_utf8, levels_utf8, wellFormedLevels_encode]
  constructor
  · rintro ⟨nonempty, short, wellFormed⟩
    exact ⟨nonempty, short, wellFormed⟩
  · rintro ⟨nonempty, short, wellFormed⟩
    exact ⟨nonempty, short, wellFormed⟩

example : isValidFilter (utf8 "é/+/#") = true ∧ isValidFilter (utf8 "é#") = false ∧
    isValidFilter (utf8 "+#") = false ∧ isValidFilter (utf8 "a/#/") = false := by decide

-- A level after the first becomes `+`, or all levels from some level after the first on become `#`.
inductive Generalizes : List Bytes → List Bytes → Prop
  | single {before after : List Bytes} {level : Bytes} (later : before ≠ []) (nonempty : level ≠ [])
      (literal : plus ∉ level ∧ hash ∉ level) :
      Generalizes (before ++ level :: after) (before ++ [plus] :: after)
  | multi {before after : List Bytes} (later : before ≠ []) :
      Generalizes (before ++ after) (before ++ [[hash]])

structure ServerTopic (filter topic : Bytes) : Prop where
  valid : isValidFilter filter = true
  literal : ∃ first rest, levels filter = first :: rest ∧ plus ∉ first ∧ hash ∉ first
  name : plus ∉ topic ∧ hash ∉ topic
  dollar : topic.head? = some dollar

structure DecidedByLevels (filter topic : Bytes) : Prop where
  decided : topicMatches filter topic = true ↔ LevelsMatch (levels filter) (levels topic)
  general : topicMatches filter topic = true →
    ∀ wider, Generalizes (levels filter) (levels wider) → topicMatches wider topic = true

-- No filter with a wildcard anywhere matches a topic of the server.
theorem topicMatches_wildcard {filter topic : Bytes} (wild : containsWildcards filter = true)
    (name : plus ∉ topic ∧ hash ∉ topic) (dollar : topic.head? = some dollar) : topicMatches filter topic = false := by
  unfold topicMatches
  split
  · next same =>
    subst same
    rcases (containsWildcards_iff _).mp wild with found | found
    · exact absurd found name.1
    · exact absurd found name.2
  · rw [if_pos ⟨dollar, wild⟩]

theorem topicMatches_levels {filter topic : Bytes} (valid : isValidFilter filter = true)
    (unmatched : ¬ LevelsMatch (levels filter) (levels topic)) : topicMatches filter topic = false := by
  unfold topicMatches
  split
  · next same =>
    subst same
    exact absurd (levelsMatch_self _) unmatched
  · split
    · rfl
    · rw [← matchLevels_iff (hash_notMem_levels valid)] at unmatched
      simpa using unmatched

theorem decidedByLevels_iff {filter topic : Bytes} (server : ServerTopic filter topic) :
    DecidedByLevels filter topic ↔ ¬ LevelsMatch (levels filter) (levels topic) := by
  constructor
  · intro decided matched
    obtain ⟨first, rest, split, _⟩ := server.literal
    -- The widest generalisation keeps only the first level.
    have closed : slash ∉ first := slash_notMem (split ▸ List.mem_cons_self ..)
    have parts : levels (first ++ [slash, hash]) = [first, [hash]] := by
      rw [levels, List.splitOn_append_cons_self_of_not_mem closed]
      rfl
    have general : Generalizes (levels filter) (levels (first ++ [slash, hash])) := by
      rw [split, parts]
      exact @Generalizes.multi [first] rest (by simp)
    have wild : containsWildcards (first ++ [slash, hash]) = true := by simp [containsWildcards]
    have missed := topicMatches_wildcard wild server.name server.dollar
    rw [decided.general (decided.decided.mpr matched) _ general] at missed
    cases missed
  · intro unmatched
    have missed := topicMatches_levels server.valid unmatched
    exact ⟨by simp [missed, unmatched], by simp [missed]⟩

theorem decidedByLevels_unmatched : DecidedByLevels (utf8 "$SYS/up") (utf8 "$SYS/down") := by
  refine (decidedByLevels_iff ⟨by decide, ⟨utf8 "$SYS", [utf8 "up"], by decide⟩, by decide, by decide⟩).mpr ?_
  rw [← matchLevels_iff (by decide)]
  decide

-- "$SYS/up" is the topic itself; with "+" in place of "up" the filter is lost.
theorem decidedByLevels_fails :
    ServerTopic (utf8 "$SYS/up") (utf8 "$SYS/up") ∧ topicMatches (utf8 "$SYS/up") (utf8 "$SYS/up") = true ∧
      Generalizes (levels (utf8 "$SYS/up")) (levels (utf8 "$SYS/+")) ∧
      isValidFilter (utf8 "$SYS/+") = true ∧ topicMatches (utf8 "$SYS/+") (utf8 "$SYS/up") = false ∧
      ¬ DecidedByLevels (utf8 "$SYS/up") (utf8 "$SYS/up") := by
  have general : Generalizes (levels (utf8 "$SYS/up")) (levels (utf8 "$SYS/+")) :=
    @Generalizes.single [utf8 "$SYS"] [] (utf8 "up") (by simp) (by decide) (by decide)
  have lost : topicMatches (utf8 "$SYS/+") (utf8 "$SYS/up") = false := by decide
  refine ⟨⟨by decide, ⟨utf8 "$SYS", [utf8 "up"], by decide⟩, by decide, by decide⟩, by decide, general,
    by decide, lost, fun decided => ?_⟩
  rw [decided.general (by decide) _ general] at lost
  cases lost

end PicoBroker
