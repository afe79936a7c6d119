import Mathlib.Data.List.Basic

set_option autoImplicit false

inductive Ending (τ : Type) where
  | closed
  | failed (error : τ)

-- No items at all mean that the source is closed.
abbrev Answer (τ β : Type) := Except τ (List β)

def Ending.answer {τ β : Type} : Ending τ → Answer τ β
  | .closed => .ok []
  | .failed error => .error error

inductive Resumption (τ β ε α : Type) where
  | done (value : α)
  | fail (error : ε)
  | read (room : Nat) (next : Answer τ β → Resumption τ β ε α)

namespace Resumption

variable {τ β ε α γ : Type}

def bind : Resumption τ β ε α → (α → Resumption τ β ε γ) → Resumption τ β ε γ
  | done value, andThen => andThen value
  | fail error, _ => fail error
  | read room next, andThen => read room fun answer => (next answer).bind andThen

instance : Monad (Resumption τ β ε) where
  pure := done
  bind := bind

def ofExcept : Except ε α → Resumption τ β ε α
  | .ok value => done value
  | .error error => fail error

def exactly (onEnd : Ending τ → ε) (length : Nat) : Resumption τ β ε (List β) :=
  if length = 0 then .done []
  else .read length fun
    | .error error => .fail (onEnd (.failed error))
    | .ok [] => .fail (onEnd .closed)
    | .ok (item :: items) => do
        let rest ← exactly onEnd (length - (items.length + 1))
        return item :: items ++ rest
termination_by length

structure Polled (τ β ε α : Type) where
  reader : Resumption τ β ε α
  taken : List β
  left : List (List β)

def remainder (room : Nat) (chunk : List β) (rest : List (List β)) : List (List β) :=
  if chunk.length ≤ room then rest else chunk.drop room :: rest

def poll (ending : Option (Ending τ)) : Resumption τ β ε α → List (List β) → Polled τ β ε α
  | done value, chunks => ⟨done value, [], chunks⟩
  | fail error, chunks => ⟨fail error, [], chunks⟩
  | read room next, [] =>
      match ending with
      | none => ⟨read room next, [], []⟩
      | some ending' => poll ending (next ending'.answer) []
  | read room next, chunk :: rest =>
      let polled := poll ending (next (.ok (chunk.take room))) (remainder room chunk rest)
      { polled with taken := chunk.take room ++ polled.taken }

section

variable {onEnd : Ending τ → ε}

def Reads (onEnd : Ending τ → ε) : Resumption τ β ε α → List β → Except ε α → Prop
  | done value, frame, result => frame = [] ∧ result = .ok value
  | fail error, frame, result => frame = [] ∧ result = .error error
  | read room next, frame, result =>
      0 < room ∧ room ≤ frame.length ∧ (∀ ending : Ending τ, next ending.answer = fail (onEnd ending)) ∧
        ∀ piece rest, piece ≠ [] → piece.length ≤ room → frame = piece ++ rest →
          Reads onEnd (next (.ok piece)) rest result

theorem Reads.bind {reader : Resumption τ β ε α} {andThen : α → Resumption τ β ε γ} {frame rest : List β}
    {value : α} {result : Except ε γ} (first : Reads onEnd reader frame (.ok value))
    (second : Reads onEnd (andThen value) rest result) :
    Reads onEnd (reader.bind andThen) (frame ++ rest) result := by
  induction reader generalizing frame with
  | done read =>
    obtain ⟨rfl, same⟩ := first
    cases same
    exact second
  | fail error =>
    obtain ⟨_, impossible⟩ := first
    cases impossible
  | read room next ih =>
    obtain ⟨positive, enough, ends, pieces⟩ := first
    refine ⟨positive, by simp only [List.length_append]; omega,
      fun ending => congrArg (Resumption.bind · andThen) (ends ending), ?_⟩
    intro piece later nonempty small split
    -- A piece is not longer than what the first reader still takes.
    rcases List.append_eq_append_iff.mp split with ⟨more, rfl, rfl⟩ | ⟨more, rfl, rfl⟩
    · obtain rfl : more = [] := List.eq_nil_of_length_eq_zero (by
        simp only [List.length_append] at small; omega)
      simpa using ih _ (pieces _ [] (by simpa using nonempty) (by simpa using small) (by simp))
    · exact ih _ (pieces piece more nonempty small rfl)

theorem Reads.bind_last {reader : Resumption τ β ε α} {andThen : α → Resumption τ β ε γ} {frame : List β}
    {value : α} {result : Except ε γ} (first : Reads onEnd reader frame (.ok value))
    (last : Reads onEnd (andThen value) [] result) : Reads onEnd (reader.bind andThen) frame result := by
  simpa using first.bind last

theorem Reads.bind_error {reader : Resumption τ β ε α} {andThen : α → Resumption τ β ε γ} {frame : List β}
    {error : ε} (first : Reads onEnd reader frame (.error error)) :
    Reads onEnd (reader.bind andThen) frame (.error error) := by
  induction reader generalizing frame with
  | done read =>
    obtain ⟨_, impossible⟩ := first
    cases impossible
  | fail failed =>
    obtain ⟨rfl, same⟩ := first
    cases same
    exact ⟨rfl, rfl⟩
  | read room next ih =>
    obtain ⟨positive, enough, ends, pieces⟩ := first
    refine ⟨positive, enough, fun ending => congrArg (Resumption.bind · andThen) (ends ending), ?_⟩
    intro piece later nonempty small split
    exact ih _ (pieces piece later nonempty small split)

theorem exactly_reads (onEnd : Ending τ → ε) (frame : List β) :
    Reads onEnd (exactly onEnd frame.length) frame (.ok frame) := by
  induction length : frame.length using Nat.strongRecOn generalizing frame with
  | _ n ih =>
    unfold exactly
    split
    · next empty =>
      obtain rfl : frame = [] := List.eq_nil_of_length_eq_zero (by omega)
      exact ⟨rfl, rfl⟩
    · refine ⟨by omega, by omega, fun ending => by cases ending <;> rfl, ?_⟩
      rintro (_ | ⟨item, items⟩) rest nonempty _ rfl
      · exact absurd rfl nonempty
      · have left : n - (items.length + 1) = rest.length := by
          simp only [List.length_append, List.length_cons] at length
          omega
        have read : Reads onEnd (exactly onEnd (n - (items.length + 1))) rest (.ok rest) := by
          rw [left]
          exact ih _ (by omega) rest rfl
        exact read.bind_last ⟨rfl, rfl⟩

theorem Reads.ne_nil {room : Nat} {next : Answer τ β → Resumption τ β ε α} {frame : List β}
    {result : Except ε α} (reads : Reads onEnd (read room next) frame result) : frame ≠ [] := by
  obtain ⟨positive, enough, _⟩ := reads
  exact List.length_pos_iff.mp (by omega)

-- A reader knows where its frame ends, so the frames it accepts are prefix-free.
theorem Reads.eq_of_prefix {reader : Resumption τ β ε α} {short long : List β} {result other : Except ε α}
    (first : Reads onEnd reader short result) (second : Reads onEnd reader long other)
    (front : short <+: long) : short = long := by
  induction reader generalizing short long with
  | done | fail => rw [first.1, second.1]
  | read room next ih =>
    obtain ⟨positive, enough, _, pieces⟩ := first
    obtain ⟨_, _, _, others⟩ := second
    obtain ⟨more, rfl⟩ := front
    have nonempty : short.take room ≠ [] := by
      rw [ne_eq, List.take_eq_nil_iff]
      rintro (rfl | rfl)
      · omega
      · simp at enough
        omega
    have rest := ih _ (pieces _ _ nonempty (List.length_take_le ..) (List.take_append_drop room short).symm)
      (others (short.take room) (short.drop room ++ more) nonempty (List.length_take_le ..)
        (by rw [← List.append_assoc, List.take_append_drop]))
      (List.prefix_append ..)
    simpa using rest

inductive Outcome (onEnd : Ending τ → ε) (ending : Option (Ending τ)) (frame : List β)
    (result : Except ε α) (chunks : List (List β)) : Polled τ β ε α → Prop
  | finished {left : List (List β)} (whole : chunks.flatten = frame ++ left.flatten)
      (nonempty : [] ∉ left) : Outcome onEnd ending frame result chunks ⟨ofExcept result, frame, left⟩
  | waiting {room : Nat} {next : Answer τ β → Resumption τ β ε α} {missing : List β}
      (cut : frame = chunks.flatten ++ missing) (reads : Reads onEnd (read room next) missing result)
      (still : ending = none) :
      Outcome onEnd ending frame result chunks ⟨read room next, chunks.flatten, []⟩
  | ended {reason : Ending τ} {missing : List β} (cut : frame = chunks.flatten ++ missing)
      (short : missing ≠ []) (done : ending = some reason) :
      Outcome onEnd ending frame result chunks ⟨fail (onEnd reason), chunks.flatten, []⟩

theorem flatten_remainder (room : Nat) (chunk : List β) (rest : List (List β)) :
    chunk.take room ++ (remainder room chunk rest).flatten = (chunk :: rest).flatten := by
  unfold remainder
  split
  · next fits => simp [List.take_of_length_le fits]
  · simp [← List.append_assoc]

theorem nil_not_mem_remainder {room : Nat} {chunk : List β} {rest : List (List β)} (nonempty : [] ∉ rest) :
    [] ∉ remainder room chunk rest := by
  unfold remainder
  split
  · exact nonempty
  · next long => simp [nonempty]; omega

theorem Outcome.prepend {ending : Option (Ending τ)} {piece frame : List β} {result : Except ε α}
    {chunks rest : List (List β)} {polled : Polled τ β ε α} (front : piece ++ rest.flatten = chunks.flatten)
    (outcome : Outcome onEnd ending frame result rest polled) :
    Outcome onEnd ending (piece ++ frame) result chunks
      { polled with taken := piece ++ polled.taken } := by
  cases outcome with
  | finished whole nonempty => exact .finished (by rw [← front, whole, List.append_assoc]) nonempty
  | waiting cut reads still =>
    rw [front]
    exact .waiting (by rw [cut, ← front, List.append_assoc]) reads still
  | ended cut short done =>
    rw [front]
    exact .ended (by rw [cut, ← front, List.append_assoc]) short done

-- Polling does not depend on how the items are split: only on whether the whole frame is there.
theorem Reads.poll {reader : Resumption τ β ε α} {frame : List β} {result : Except ε α}
    (reads : Reads onEnd reader frame result) (ending : Option (Ending τ)) {chunks : List (List β)}
    (nonempty : [] ∉ chunks) (agree : frame <+: chunks.flatten ∨ chunks.flatten <+: frame) :
    Outcome onEnd ending frame result chunks (reader.poll ending chunks) := by
  induction reader generalizing frame chunks with
  | done value =>
    obtain ⟨rfl, rfl⟩ := reads
    exact .finished rfl nonempty
  | fail error =>
    obtain ⟨rfl, rfl⟩ := reads
    exact .finished rfl nonempty
  | read room next ih =>
    have awaited := reads
    obtain ⟨positive, enough, ends, pieces⟩ := reads
    cases chunks with
    | nil =>
      cases ending with
      | none => exact .waiting rfl awaited rfl
      | some reason =>
        simpa [Resumption.poll, ends] using
          (Outcome.ended rfl awaited.ne_nil rfl : Outcome onEnd (some reason) frame result [] _)
    | cons chunk rest =>
      have split := flatten_remainder room chunk rest
      have small : (chunk.take room).length ≤ room := List.length_take_le ..
      have some : chunk.take room ≠ [] := by
        rw [ne_eq, List.take_eq_nil_iff]
        rintro (rfl | rfl)
        · omega
        · simp at nonempty
      obtain ⟨missing, rfl⟩ : chunk.take room <+: frame := by
        have front : chunk.take room <+: (chunk :: rest).flatten := ⟨_, split⟩
        rcases agree with whole | cut
        · exact List.prefix_of_prefix_length_le front whole (by omega)
        · exact front.trans cut
      rw [← split, List.prefix_append_right_inj, List.prefix_append_right_inj] at agree
      have later : [] ∉ remainder room chunk rest :=
        nil_not_mem_remainder fun member => nonempty (List.mem_cons_of_mem _ member)
      exact (ih _ (pieces _ missing some small rfl) later agree).prepend split

-- The two ways a source that ends is read: the frame was there, or the source ended before.
theorem Reads.poll_whole {reader : Resumption τ β ε α} {frame rest : List β} {result : Except ε α}
    (reads : Reads onEnd reader frame result) (ending : Option (Ending τ)) {chunks : List (List β)}
    (nonempty : [] ∉ chunks) (whole : chunks.flatten = frame ++ rest) :
    ∃ left, reader.poll ending chunks = ⟨ofExcept result, frame, left⟩ ∧ left.flatten = rest ∧ [] ∉ left := by
  have outcome := reads.poll ending nonempty (.inl (whole ▸ List.prefix_append ..))
  generalize reader.poll ending chunks = polled at outcome ⊢
  cases outcome with
  | @finished left split later => exact ⟨left, rfl, List.append_cancel_left (split.symm.trans whole), later⟩
  | waiting cut reads =>
    have lengths := congrArg List.length cut
    rw [whole] at lengths
    have missing := List.length_pos_iff.mpr reads.ne_nil
    simp only [List.length_append] at lengths
    omega
  | ended cut short =>
    have lengths := congrArg List.length cut
    rw [whole] at lengths
    have missing := List.length_pos_iff.mpr short
    simp only [List.length_append] at lengths
    omega

theorem Reads.poll_cut {reader : Resumption τ β ε α} {frame missing : List β} {result : Except ε α}
    (reads : Reads onEnd reader frame result) (ending : Ending τ) {chunks : List (List β)}
    (nonempty : [] ∉ chunks) (cut : frame = chunks.flatten ++ missing) (short : missing ≠ []) :
    reader.poll (some ending) chunks = ⟨fail (onEnd ending), chunks.flatten, []⟩ := by
  have outcome := reads.poll (some ending) nonempty (.inr (cut ▸ List.prefix_append ..))
  generalize reader.poll (some ending) chunks = polled at outcome ⊢
  cases outcome with
  | finished split later =>
    have lengths := congrArg List.length split
    rw [cut] at lengths
    have some := List.length_pos_iff.mpr short
    simp only [List.length_append] at lengths
    omega
  | waiting _ _ still => cases still
  | ended _ _ done =>
    cases done
    rfl

end

def Answer.items (answer : Answer τ β) : List β := answer.toOption.getD []

def Delivers (P : List β → α → Prop) : Resumption τ β ε α → List β → Prop
  | done value, taken => P taken value
  | fail _, _ => True
  | read room next, taken =>
      ∀ answer : Answer τ β, (Answer.items answer).length ≤ room →
        Delivers P (next answer) (taken ++ Answer.items answer)

section

variable {P : List β → α → Prop}

theorem Delivers.mono {Q : List β → α → Prop} {reader : Resumption τ β ε α} {taken : List β}
    (delivers : Delivers P reader taken) (weaken : ∀ taken value, P taken value → Q taken value) :
    Delivers Q reader taken := by
  induction reader generalizing taken with
  | done value => exact weaken taken value delivers
  | fail error => trivial
  | read room next ih => exact fun answer small => ih answer (delivers answer small)

theorem Delivers.bind {Q : List β → γ → Prop} {reader : Resumption τ β ε α}
    {andThen : α → Resumption τ β ε γ} {taken : List β} (delivers : Delivers P reader taken)
    (continues : ∀ taken value, P taken value → Delivers Q (andThen value) taken) :
    Delivers Q (reader.bind andThen) taken := by
  induction reader generalizing taken with
  | done value => exact continues taken value delivers
  | fail error => trivial
  | read room next ih => exact fun answer small => ih answer (delivers answer small)

theorem poll_flatten (reader : Resumption τ β ε α) (ending : Option (Ending τ)) (chunks : List (List β)) :
    (reader.poll ending chunks).taken ++ (reader.poll ending chunks).left.flatten = chunks.flatten := by
  induction reader generalizing chunks with
  | done | fail => rfl
  | read room next ih =>
    cases chunks with
    | nil =>
      cases ending with
      | none => rfl
      | some reason => exact ih _ []
    | cons chunk rest =>
      simp only [poll]
      rw [List.append_assoc, ih, flatten_remainder]

theorem Delivers.poll {reader : Resumption τ β ε α} {taken : List β} (delivers : Delivers P reader taken)
    (ending : Option (Ending τ)) (chunks : List (List β)) :
    Delivers P (reader.poll ending chunks).reader (taken ++ (reader.poll ending chunks).taken) := by
  induction reader generalizing taken chunks with
  | done | fail => simpa [Resumption.poll] using delivers
  | read room next ih =>
    cases chunks with
    | nil =>
      cases ending with
      | none => simpa [Resumption.poll] using delivers
      | some reason =>
        have nothing : Answer.items (reason.answer : Answer τ β) = [] := by cases reason <;> rfl
        have later := delivers reason.answer (by simp [nothing])
        rw [nothing, List.append_nil] at later
        exact ih _ later []
    | cons chunk rest =>
      have later := ih _ (delivers (.ok (chunk.take room)) (List.length_take_le ..)) (remainder room chunk rest)
      simpa [Resumption.poll, Answer.items, Except.toOption, List.append_assoc] using later

theorem exactly_delivers (onEnd : Ending τ → ε) (length : Nat) (before : List β) :
    Delivers (fun taken value => taken = before ++ value ∧ value.length = length)
      (exactly onEnd length) before := by
  induction length using Nat.strongRecOn generalizing before with
  | _ length ih =>
    unfold exactly
    split
    · next zero => exact ⟨by simp, zero.symm⟩
    · rintro (error | (_ | ⟨item, items⟩)) small
      · trivial
      · trivial
      · have fits : items.length + 1 ≤ length := small
        refine (ih (length - (items.length + 1)) (by omega) (before ++ item :: items)).bind ?_
        rintro taken rest ⟨rfl, exact⟩
        refine ⟨by simp, ?_⟩
        simp only [List.length_append, List.length_cons, exact]
        omega

end

end Resumption
