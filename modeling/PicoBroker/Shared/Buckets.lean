import Mathlib.Algebra.Order.Floor.Div
import Mathlib.Data.Nat.ModEq
import PicoBroker.Shared.Mealy

set_option autoImplicit false

namespace Buckets

open Mealy

structure Limits where
  capacity : Nat
  rate : Nat
  period : Nat
  positive : 0 < period

structure Bucket where
  tokens : Nat
  last : Nat

variable (limits : Limits)

def refill (bucket : Bucket) (now : Nat) : Bucket :=
  if limits.period ≤ now - bucket.last then
    ⟨min (bucket.tokens + (now - bucket.last) / limits.period * limits.rate) limits.capacity, now⟩
  else bucket

def take (bucket : Bucket) (now : Nat) : Bool × Bucket :=
  (decide (0 < (refill limits bucket now).tokens),
    { refill limits bucket now with tokens := (refill limits bucket now).tokens - 1 })

variable {limits} {bucket : Bucket} {now : Nat}

theorem refill_tokens_le (holds : bucket.tokens ≤ limits.capacity) :
    (refill limits bucket now).tokens ≤ limits.capacity := by
  unfold refill
  split
  · exact min_le_right _ _
  · exact holds

theorem refill_last_le (limits : Limits) (past : bucket.last ≤ now) :
    bucket.last ≤ (refill limits bucket now).last ∧ (refill limits bucket now).last ≤ now := by
  unfold refill
  split
  · exact ⟨past, le_rfl⟩
  · exact ⟨le_rfl, past⟩

-- What is forgotten at a refill is less than a period.
theorem sub_refill_last_lt (limits : Limits) (bucket : Bucket) (now : Nat) :
    now - (refill limits bucket now).last < limits.period := by
  unfold refill
  split
  · simpa using limits.positive
  · next short => exact Nat.lt_of_not_le short

theorem refill_gain (limits : Limits) (bucket : Bucket) (now : Nat) :
    (refill limits bucket now).tokens ≤
      bucket.tokens + ((refill limits bucket now).last - bucket.last) / limits.period * limits.rate := by
  unfold refill
  split
  · exact min_le_left _ _
  · simp

theorem refill_refill : refill limits (refill limits bucket now) now = refill limits bucket now := by
  have short : ¬ limits.period ≤ now - (refill limits bucket now).last := Nat.not_le_of_lt (sub_refill_last_lt _ _ _)
  rw [refill, if_neg short]

theorem take_refill : take limits (refill limits bucket now) now = take limits bucket now := by
  simp [take, refill_refill]

theorem take_tokens_le (holds : bucket.tokens ≤ limits.capacity) :
    (take limits bucket now).2.tokens ≤ limits.capacity :=
  (Nat.sub_le _ _).trans (refill_tokens_le holds)

theorem ordered_take (limits : Limits) {rest : List Nat}
    (ordered : (bucket.last :: now :: rest).Pairwise (· ≤ ·)) :
    bucket.last ≤ (take limits bucket now).2.last ∧ (take limits bucket now).2.last ≤ now ∧
      ((take limits bucket now).2.last :: rest).Pairwise (· ≤ ·) := by
  simp only [List.pairwise_cons, List.forall_mem_cons] at ordered ⊢
  have moved := refill_last_le limits ordered.1.1
  exact ⟨moved.1, moved.2, fun time member => moved.2.trans (ordered.2.1 time member), ordered.2.2⟩

theorem le_final_last (limits : Limits) {times : List Nat} (ordered : (bucket.last :: times).Pairwise (· ≤ ·)) :
    bucket.last ≤ (final (take limits) bucket times).last := by
  induction times generalizing bucket with
  | nil => exact le_rfl
  | cons now rest ih =>
    have moved := ordered_take limits ordered
    exact moved.1.trans (ih moved.2.2)

theorem final_last_le (limits : Limits) {bound : Nat} {times : List Nat} (ordered : (bucket.last :: times).Pairwise (· ≤ ·))
    (past : bucket.last ≤ bound) (before : ∀ time ∈ times, time ≤ bound) :
    (final (take limits) bucket times).last ≤ bound := by
  induction times generalizing bucket with
  | nil => exact past
  | cons now rest ih =>
    simp only [List.forall_mem_cons] at before
    have moved := ordered_take limits ordered
    exact ih moved.2.2 (moved.2.1.trans before.1) before.2

theorem take_spent (limits : Limits) (bucket : Bucket) (now : Nat) :
    [(take limits bucket now).1].count true + (take limits bucket now).2.tokens =
      (refill limits bucket now).tokens := by
  simp only [take]
  by_cases some : 0 < (refill limits bucket now).tokens
  · simp only [some, decide_true, List.count_cons_self, List.count_nil]
    omega
  · have empty : (refill limits bucket now).tokens = 0 := Nat.eq_zero_of_not_pos some
    simp [empty]

-- The parts of two stretches that are forgotten may make up a period; the whole periods never exceed it.
theorem periods_add_le (limits : Limits) {first middle last : Nat} (early : first ≤ middle) (late : middle ≤ last) :
    (middle - first) / limits.period * limits.rate + (last - middle) / limits.period * limits.rate ≤
      (last - first) / limits.period * limits.rate := by
  have joined : middle - first + (last - middle) = last - first := by omega
  rw [← Nat.add_mul, ← joined]
  exact Nat.mul_le_mul_right _ (Nat.div_add_div_le_add_div)

theorem spent_le (limits : Limits) {times : List Nat} (ordered : (bucket.last :: times).Pairwise (· ≤ ·)) :
    (replies (take limits) bucket times).count true + (final (take limits) bucket times).tokens ≤
      bucket.tokens +
        ((final (take limits) bucket times).last - bucket.last) / limits.period * limits.rate := by
  induction times generalizing bucket with
  | nil => simp [replies, final]
  | cons now rest ih =>
    have moved := ordered_take limits ordered
    have rested := ih moved.2.2
    have spent := take_spent limits bucket now
    have gain : (refill limits bucket now).tokens ≤ bucket.tokens +
        ((take limits bucket now).2.last - bucket.last) / limits.period * limits.rate :=
      refill_gain limits bucket now
    have periods := periods_add_le limits moved.1 (le_final_last limits moved.2.2)
    have counted : (replies (take limits) bucket (now :: rest)).count true =
        [(take limits bucket now).1].count true +
          (replies (take limits) (take limits bucket now).2 rest).count true := by
      rw [replies, ← List.singleton_append, List.count_append]
    rw [counted, final]
    omega

theorem periods_le_ceilDiv (limits : Limits) {start first last stop : Nat} (early : start ≤ first)
    (close : first - start < limits.period) (late : stop ≤ last) :
    (stop - start) / limits.period ≤ (last - first) ⌈/⌉ limits.period := by
  rw [Nat.ceilDiv_eq_add_pred_div]
  apply Nat.div_le_div_right
  omega

theorem burst_le (limits : Limits) {segment : List Nat} {first last : Nat}
    (ordered : (bucket.last :: segment).Pairwise (· ≤ ·)) (holds : bucket.tokens ≤ limits.capacity)
    (opening : segment.head? = some first) (closing : segment.getLast? = some last) :
    (replies (take limits) bucket segment).count true ≤
      limits.capacity + limits.rate * ((last - first) ⌈/⌉ limits.period) := by
  obtain ⟨rest, rfl⟩ := List.head?_eq_some_iff.mp opening
  have tail := (List.pairwise_cons.mp ordered).2
  have moved := refill_last_le limits (List.rel_of_pairwise_cons ordered List.mem_cons_self)
  -- the refill at the first call is not charged to the window
  have filled : replies (take limits) bucket (first :: rest) =
      replies (take limits) (refill limits bucket first) (first :: rest) := by
    simp only [replies, take_refill]
  have onward : ((refill limits bucket first).last :: first :: rest).Pairwise (· ≤ ·) := by
    simp only [List.pairwise_cons, List.forall_mem_cons] at tail ⊢
    exact ⟨⟨moved.2, fun time member => moved.2.trans (tail.1 time member)⟩, tail⟩
  have bounded : ∀ time ∈ first :: rest, time ≤ last := by
    obtain ⟨front, split⟩ := List.getLast?_eq_some_iff.mp closing
    rw [split] at tail ⊢
    intro time member
    rcases List.mem_append.mp member with earlier | here
    · exact (List.pairwise_append.mp tail).2.2 time earlier last (by simp)
    · exact (List.mem_singleton.mp here).le
  have stopped := final_last_le limits onward (moved.2.trans (bounded first List.mem_cons_self)) bounded
  have periods := periods_le_ceilDiv limits moved.2 (sub_refill_last_lt _ _ _) stopped
  have spent := spent_le limits onward
  rw [filled]
  calc (replies (take limits) (refill limits bucket first) (first :: rest)).count true
      ≤ (refill limits bucket first).tokens +
          ((final (take limits) (refill limits bucket first) (first :: rest)).last -
            (refill limits bucket first).last) / limits.period * limits.rate :=
        (Nat.le_add_right _ _).trans spent
    _ ≤ limits.capacity + (last - first) ⌈/⌉ limits.period * limits.rate :=
        Nat.add_le_add (refill_tokens_le holds) (Nat.mul_le_mul_right _ periods)
    _ = limits.capacity + limits.rate * ((last - first) ⌈/⌉ limits.period) := by rw [Nat.mul_comm]

theorem ordered_final (limits : Limits) {earlier later : List Nat}
    (ordered : (bucket.last :: (earlier ++ later)).Pairwise (· ≤ ·)) :
    ((final (take limits) bucket earlier).last :: later).Pairwise (· ≤ ·) := by
  induction earlier generalizing bucket with
  | nil => exact ordered
  | cons now rest ih => exact ih (ordered_take limits ordered).2.2

theorem final_tokens_le (holds : bucket.tokens ≤ limits.capacity) (times : List Nat) :
    (final (take limits) bucket times).tokens ≤ limits.capacity := by
  induction times generalizing bucket with
  | nil => exact holds
  | cons now rest ih => exact ih (take_tokens_le holds)

theorem window_le (limits : Limits) {times : List Nat} {i j first last : Nat}
    (ordered : (bucket.last :: times).Pairwise (· ≤ ·)) (holds : bucket.tokens ≤ limits.capacity) (before : i ≤ j)
    (opening : times[i]? = some first) (closing : times[j]? = some last) :
    (((replies (take limits) bucket times).take (j + 1)).drop i).count true ≤
      limits.capacity + limits.rate * ((last - first) ⌈/⌉ limits.period) := by
  rw [replies_take, replies_drop]
  have kept : (bucket.last :: times.take (j + 1)).Pairwise (· ≤ ·) :=
    ordered.sublist ((List.take_sublist _ _).cons_cons _)
  have reached : j < times.length := (List.getElem?_eq_some_iff.mp closing).1
  apply burst_le limits
  · apply ordered_final limits
    rwa [List.take_append_drop]
  · exact final_tokens_le holds _
  · simp [List.head?_drop, opening, Nat.lt_succ_of_le before]
  · have nonempty : ¬ min (j + 1) times.length ≤ i := by omega
    simp [List.getLast?_drop, List.getLast?_take, closing, nonempty]

def within (limits : Limits) (start : Nat) (times : List Nat) : Nat :=
  times.countP fun time => decide (start ≤ time) && decide (time < start + limits.period)

-- A refill always brings the tokens of one period, so what is due since it is covered.
theorem refill_due {times : List Nat} (now : Nat) (room : limits.rate ≤ limits.capacity)
    (due : within limits bucket.last times ≤ bucket.tokens)
    (conforming : ∀ start, within limits start times ≤ limits.rate) :
    within limits (refill limits bucket now).last times ≤ (refill limits bucket now).tokens := by
  unfold refill
  split
  · next whole =>
    have once : 1 ≤ (now - bucket.last) / limits.period := Nat.div_pos whole limits.positive
    have gain : limits.rate ≤ (now - bucket.last) / limits.period * limits.rate := Nat.le_mul_of_pos_left _ once
    exact (conforming now).trans (le_min (gain.trans (Nat.le_add_left _ _)) room)
  · exact due

theorem replies_conforming {times : List Nat} (ordered : (bucket.last :: times).Pairwise (· ≤ ·))
    (room : limits.rate ≤ limits.capacity) (due : within limits bucket.last times ≤ bucket.tokens)
    (conforming : ∀ start, within limits start times ≤ limits.rate) :
    ∀ reply ∈ replies (take limits) bucket times, reply = true := by
  induction times generalizing bucket with
  | nil => simp [replies]
  | cons now rest ih =>
    have moved := ordered_take limits ordered
    have past : (refill limits bucket now).last ≤ now := moved.2.1
    have recent : now < (refill limits bucket now).last + limits.period := by
      have close := sub_refill_last_lt limits bucket now
      omega
    have counted : within limits (refill limits bucket now).last (now :: rest) =
        within limits (refill limits bucket now).last rest + 1 := by
      simp [within, past, recent]
    have covered := refill_due now room due conforming
    rw [counted] at covered
    have served : (take limits bucket now).1 = true := by
      simp only [take, decide_eq_true_eq]
      omega
    have fewer (start : Nat) : within limits start rest ≤ limits.rate :=
      (List.Sublist.countP_le (List.sublist_cons_self now rest)).trans (conforming start)
    have later : within limits (take limits bucket now).2.last rest ≤ (take limits bucket now).2.tokens :=
      Nat.le_sub_one_of_lt covered
    simp only [replies, List.forall_mem_cons]
    exact ⟨served, ih moved.2.2 later fewer⟩

end Buckets
