import PicoBroker.Broker.Session
import PicoBroker.Shared.Buckets

set_option autoImplicit false

namespace PicoBroker

open Mealy (replies final)

structure MachineBucket where
  tokens : UInt8
  capacity : UInt8
  ratePerSec : UInt8
  lastRefill : UInt64
  violations : UInt8
deriving DecidableEq

namespace MachineBucket

def saturatingAdd (lhs rhs : UInt8) : UInt8 := if lhs.toNat + rhs.toNat < UInt8.size then lhs + rhs else 255

def saturatingMul (lhs rhs : UInt64) : UInt64 :=
  if lhs.toNat * rhs.toNat < UInt64.size then lhs * rhs else 18446744073709551615

-- `Ord::min`
def lesser {α : Type} [LE α] [DecidableLE α] (lhs rhs : α) : α := if lhs ≤ rhs then lhs else rhs

def new (capacity ratePerSec : UInt8) : MachineBucket := ⟨capacity, capacity, ratePerSec, 0, 0⟩

def elapsedSecs (elapsed : UInt64) : UInt64 := elapsed / 1000000

def refill (bucket : MachineBucket) (now : UInt64) : MachineBucket :=
  if bucket.lastRefill ≤ now then
    let secs := elapsedSecs (now - bucket.lastRefill)
    if secs > 0 then
      let refill := (lesser (saturatingMul secs bucket.ratePerSec.toUInt64) 255).toUInt8
      { bucket with
        tokens := lesser (saturatingAdd bucket.tokens refill) bucket.capacity
        lastRefill := now }
    else bucket
  else bucket

def tryConsume (bucket : MachineBucket) (now : UInt64) : Bool × MachineBucket :=
  let bucket := bucket.refill now
  if bucket.tokens > 0 then
    (true, { bucket with tokens := bucket.tokens - 1, violations := 0 })
  else (false, { bucket with violations := saturatingAdd bucket.violations 1 })

def ideal (bucket : MachineBucket) : TokenBucket :=
  ⟨bucket.tokens.toNat, bucket.capacity.toNat, bucket.ratePerSec.toNat, bucket.lastRefill.toNat,
    bucket.violations.toNat⟩

theorem toNat_lesser_uint8 (lhs rhs : UInt8) : (lesser lhs rhs).toNat = min lhs.toNat rhs.toNat := by
  simp only [lesser, Nat.min_def, UInt8.le_iff_toNat_le]
  split <;> rfl

theorem toNat_lesser_uint64 (lhs rhs : UInt64) : (lesser lhs rhs).toNat = min lhs.toNat rhs.toNat := by
  simp only [lesser, Nat.min_def, UInt64.le_iff_toNat_le]
  split <;> rfl

theorem toNat_saturatingAdd (lhs rhs : UInt8) :
    (saturatingAdd lhs rhs).toNat = saturatingAddU8 lhs.toNat rhs.toNat := by
  unfold saturatingAdd saturatingAddU8
  split
  · next small =>
    rw [UInt8.toNat_add, Nat.mod_eq_of_lt small]
    simp only [UInt8.size] at small
    omega
  · next large =>
    simp only [UInt8.size] at large
    simp
    omega

theorem toNat_saturatingMul (lhs rhs : UInt64) :
    (saturatingMul lhs rhs).toNat = min (lhs.toNat * rhs.toNat) (UInt64.size - 1) := by
  unfold saturatingMul
  split
  · next small =>
    rw [UInt64.toNat_mul, Nat.mod_eq_of_lt small]
    omega
  · next large =>
    simp [UInt64.size] at large ⊢
    omega

theorem toNat_refill (secs : UInt64) (rate : UInt8) :
    (lesser (saturatingMul secs rate.toUInt64) 255).toUInt8.toNat =
      min (min (secs.toNat * rate.toNat) (UInt64.size - 1)) 255 := by
  rw [UInt64.toNat_toUInt8, toNat_lesser_uint64, toNat_saturatingMul, UInt8.toNat_toUInt64]
  apply Nat.mod_eq_of_lt
  exact Nat.lt_of_le_of_lt (Nat.min_le_right _ _) (by decide)

theorem ideal_refill (bucket : MachineBucket) (now : UInt64) :
    (bucket.refill now).ideal = bucket.ideal.refill now.toNat := by
  by_cases past : bucket.lastRefill ≤ now
  · have elapsed : (elapsedSecs (now - bucket.lastRefill)).toNat =
        asSecs (now.toNat - bucket.lastRefill.toNat) := by
      rw [elapsedSecs, UInt64.toNat_div, UInt64.toNat_sub_of_le _ _ past]
      rfl
    have checked : checkedDurationSince now.toNat bucket.ideal.lastRefill =
        some (now.toNat - bucket.lastRefill.toNat) := if_pos (UInt64.le_iff_toNat_le.mp past)
    by_cases whole : elapsedSecs (now - bucket.lastRefill) > 0
    · have wholeSecs : asSecs (now.toNat - bucket.lastRefill.toNat) > 0 := by
        rw [← elapsed]
        exact UInt64.lt_iff_toNat_lt.mp whole
      simp only [refill, past, whole, if_true, TokenBucket.refill, checked, wholeSecs]
      simp only [ideal, toNat_lesser_uint8, toNat_saturatingAdd, toNat_refill, elapsed]
    · have noSecs : ¬ asSecs (now.toNat - bucket.lastRefill.toNat) > 0 := by
        rw [← elapsed]
        exact fun positive => whole (UInt64.lt_iff_toNat_lt.mpr positive)
      simp only [refill, past, whole, if_true, if_false, TokenBucket.refill, checked, noSecs]
  · have unchecked : checkedDurationSince now.toNat bucket.ideal.lastRefill = none :=
      if_neg fun before => past (UInt64.le_iff_toNat_le.mpr before)
    simp only [refill, past, if_false, TokenBucket.refill, unchecked]

theorem ideal_tryConsume (bucket : MachineBucket) (now : UInt64) :
    (bucket.tryConsume now).1 = (bucket.ideal.tryConsume now.toNat).1 ∧
      (bucket.tryConsume now).2.ideal = (bucket.ideal.tryConsume now.toNat).2 := by
  simp only [tryConsume, TokenBucket.tryConsume, ← ideal_refill]
  generalize bucket.refill now = filled
  by_cases left : filled.tokens > 0
  · have positive : filled.ideal.tokens > 0 := UInt8.lt_iff_toNat_lt.mp left
    have one : (1 : UInt8) ≤ filled.tokens := UInt8.le_iff_toNat_le.mpr positive
    simp only [left, positive, if_true, true_and]
    simp [ideal, UInt8.toNat_sub_of_le _ _ one]
  · have none : ¬ filled.ideal.tokens > 0 := fun positive => left (UInt8.lt_iff_toNat_lt.mpr positive)
    simp only [left, none, if_false, true_and]
    simp [ideal, toNat_saturatingAdd]

end MachineBucket

theorem tickHz_pos : 0 < tickHz := by decide

namespace TokenBucket

def limits (bucket : TokenBucket) : Buckets.Limits := ⟨bucket.capacity, bucket.ratePerSec, tickHz, tickHz_pos⟩

def view (bucket : TokenBucket) : Buckets.Bucket := ⟨bucket.tokens, bucket.lastRefill⟩

variable {bucket : TokenBucket}

theorem refill_limits (now : Instant) : (bucket.refill now).limits = bucket.limits := by
  unfold refill
  split
  · rfl
  · split <;> rfl

-- The two saturations are above every capacity, so only the clamp at the capacity is left.
theorem refill_view (small : bucket.capacity ≤ 255) (now : Instant) :
    (bucket.refill now).view = Buckets.refill bucket.limits bucket.view now := by
  by_cases past : bucket.lastRefill ≤ now
  · by_cases whole : tickHz ≤ now - bucket.lastRefill
    · have positive : asSecs (now - bucket.lastRefill) > 0 := Nat.div_pos whole tickHz_pos
      simp only [refill, checkedDurationSince, past, if_true, positive, Buckets.refill, view, limits, whole]
      simp only [saturatingAddU8, asSecs, UInt64.size, Buckets.Bucket.mk.injEq, and_true]
      generalize (now - bucket.lastRefill) / tickHz * bucket.ratePerSec = gain
      omega
    · have none : ¬ asSecs (now - bucket.lastRefill) > 0 := by
        rw [asSecs, Nat.div_eq_of_lt (Nat.lt_of_not_le whole)]
        exact Nat.lt_irrefl 0
      simp only [refill, checkedDurationSince, past, if_true, none, if_false, Buckets.refill, view, limits, whole]
  · have unfinished : ¬ tickHz ≤ now - bucket.lastRefill := by
      rw [Nat.sub_eq_zero_of_le (Nat.le_of_not_le past)]
      decide
    simp only [refill, checkedDurationSince, past, if_false, Buckets.refill, view, limits, unfinished]

theorem tryConsume_take (small : bucket.capacity ≤ 255) (now : Instant) :
    (bucket.tryConsume now).1 = (Buckets.take bucket.limits bucket.view now).1 ∧
      (bucket.tryConsume now).2.view = (Buckets.take bucket.limits bucket.view now).2 ∧
      (bucket.tryConsume now).2.limits = bucket.limits := by
  have same : (bucket.refill now).limits = bucket.limits := refill_limits now
  simp only [tryConsume, Buckets.take, ← refill_view small now]
  generalize bucket.refill now = filled at same ⊢
  by_cases left : filled.tokens > 0
  · simp only [left, if_true]
    exact ⟨(decide_eq_true left).symm, rfl, same⟩
  · have empty : filled.tokens = 0 := Nat.eq_zero_of_not_pos left
    simp only [left, if_false]
    exact ⟨(decide_eq_false left).symm, by simp [view, empty], same⟩

end TokenBucket

def limitsOf (capacity rate : UInt8) : Buckets.Limits := ⟨capacity.toNat, rate.toNat, tickHz, tickHz_pos⟩

def fullOf (capacity : UInt8) : Buckets.Bucket := ⟨capacity.toNat, 0⟩

section

variable (capacity rate : UInt8) (times : List UInt64)

-- One run of the machine is a run of the bucket in exact arithmetic, and that one a run of the general bucket.
theorem machine_simulates :
    replies MachineBucket.tryConsume (.new capacity rate) times =
        replies TokenBucket.tryConsume (.new capacity.toNat rate.toNat) (times.map UInt64.toNat) ∧
      (final MachineBucket.tryConsume (.new capacity rate) times).ideal =
        final TokenBucket.tryConsume (.new capacity.toNat rate.toNat) (times.map UInt64.toNat) := by
  rw [← Mealy.replies_map, ← Mealy.final_map]
  refine Mealy.simulates (fun (machine : MachineBucket) bucket => machine.ideal = bucket) ?_ rfl times
  intro machine bucket now same
  rw [← same]
  exact machine.ideal_tryConsume now

theorem bucket_simulates (calls : List Instant) :
    replies TokenBucket.tryConsume (.new capacity.toNat rate.toNat) calls =
        replies (Buckets.take (limitsOf capacity rate)) (fullOf capacity) calls ∧
      (final TokenBucket.tryConsume (.new capacity.toNat rate.toNat) calls).view =
          final (Buckets.take (limitsOf capacity rate)) (fullOf capacity) calls ∧
        (final TokenBucket.tryConsume (.new capacity.toNat rate.toNat) calls).limits = limitsOf capacity rate := by
  refine Mealy.simulates (fun (bucket : TokenBucket) image =>
    bucket.view = image ∧ bucket.limits = limitsOf capacity rate) ?_ ⟨rfl, rfl⟩ calls
  intro bucket image now related
  have small : bucket.capacity ≤ 255 := by
    have same : bucket.capacity = capacity.toNat := congrArg Buckets.Limits.capacity related.2
    have bounded := capacity.toNat_lt
    omega
  have taken := bucket.tryConsume_take small now
  rw [related.1, related.2] at taken
  exact taken

theorem machine_replies :
    replies MachineBucket.tryConsume (.new capacity rate) times =
      replies (Buckets.take (limitsOf capacity rate)) (fullOf capacity) (times.map UInt64.toNat) :=
  (machine_simulates capacity rate times).1.trans (bucket_simulates capacity rate _).1

theorem machine_tokens :
    (final MachineBucket.tryConsume (.new capacity rate) times).tokens.toNat =
      (final (Buckets.take (limitsOf capacity rate)) (fullOf capacity) (times.map UInt64.toNat)).tokens := by
  have same := congrArg TokenBucket.view (machine_simulates capacity rate times).2
  rw [(bucket_simulates capacity rate _).2.1] at same
  exact congrArg Buckets.Bucket.tokens same

end

theorem ordered_toNat {times : List UInt64} (ordered : times.Pairwise (· ≤ ·)) :
    (0 :: times.map UInt64.toNat).Pairwise (· ≤ ·) := by
  rw [List.pairwise_cons, List.pairwise_map]
  exact ⟨fun time _ => Nat.zero_le time, ordered.imp UInt64.le_iff_toNat_le.mp⟩

structure RateLimited (capacity rate : UInt8) (times : List UInt64) : Prop where
  window : ∀ (i j : Nat) (first last : UInt64), i ≤ j → times[i]? = some first → times[j]? = some last →
    (((replies MachineBucket.tryConsume (.new capacity rate) times).take (j + 1)).drop i).count true ≤
      capacity.toNat + rate.toNat * ((last.toNat - first.toNat) ⌈/⌉ tickHz)
  tokens : ∀ calls, (final MachineBucket.tryConsume (.new capacity rate) calls).tokens ≤ capacity
  exact : ∀ calls, (final MachineBucket.tryConsume (.new capacity rate) calls).ideal =
    final TokenBucket.tryConsume (.new capacity.toNat rate.toNat) (calls.map UInt64.toNat)

theorem tryConsume_limited (capacity rate : UInt8) {times : List UInt64} (ordered : times.Pairwise (· ≤ ·)) :
    RateLimited capacity rate times where
  window := by
    intro i j first last before opening closing
    rw [machine_replies]
    refine Buckets.window_le (limitsOf capacity rate) (ordered_toNat ordered) le_rfl before ?_ ?_
    · simp [opening]
    · simp [closing]
  tokens := by
    intro calls
    rw [UInt8.le_iff_toNat_le, machine_tokens]
    exact Buckets.final_tokens_le le_rfl _
  exact := fun calls => (machine_simulates capacity rate calls).2

-- Two calls at once, a refusal, and a token a second later.
theorem tryConsume_limited_burst :
    RateLimited 2 1 [0, 0, 0, 1000000] ∧
      replies MachineBucket.tryConsume (.new 2 1) [0, 0, 0, 1000000] = [true, true, false, true] :=
  ⟨tryConsume_limited 2 1 (by decide), by decide⟩

-- Every half-open second contains at most `rate` of the calls.
def Conforming (rate : UInt8) (times : List UInt64) : Prop :=
  ∀ start : Nat,
    (times.countP fun time => decide (start ≤ time.toNat) && decide (time.toNat < start + tickHz)) ≤ rate.toNat

theorem MachineBucket.violations_of_served {bucket : MachineBucket} {now : UInt64}
    (served : (bucket.tryConsume now).1 = true) : (bucket.tryConsume now).2.violations = 0 := by
  simp only [tryConsume] at served ⊢
  split at served
  · next left => simp [left]
  · cases served

theorem final_violations {bucket : MachineBucket} {times : List UInt64} (clean : bucket.violations = 0)
    (served : ∀ reply ∈ replies MachineBucket.tryConsume bucket times, reply = true) :
    (final MachineBucket.tryConsume bucket times).violations = 0 := by
  induction times generalizing bucket with
  | nil => exact clean
  | cons now rest ih =>
    simp only [replies, List.forall_mem_cons] at served
    exact ih (MachineBucket.violations_of_served served.1) served.2

theorem within_toNat {capacity rate : UInt8} {times : List UInt64} (conforming : Conforming rate times)
    (start : Nat) : Buckets.within (limitsOf capacity rate) start (times.map UInt64.toNat) ≤ rate.toNat := by
  rw [Buckets.within, List.countP_map]
  exact conforming start

theorem tryConsume_conforming {capacity rate : UInt8} (room : rate ≤ capacity) {times : List UInt64}
    (ordered : times.Pairwise (· ≤ ·)) (conforming : Conforming rate times) :
    (∀ reply ∈ replies MachineBucket.tryConsume (.new capacity rate) times, reply = true) ∧
      ∀ calls, (final MachineBucket.tryConsume (.new capacity rate) (times.take calls)).violations = 0 := by
  have held : rate.toNat ≤ capacity.toNat := UInt8.le_iff_toNat_le.mp room
  have served : ∀ reply ∈ replies MachineBucket.tryConsume (.new capacity rate) times, reply = true := by
    rw [machine_replies]
    exact Buckets.replies_conforming (ordered_toNat ordered) held ((within_toNat conforming 0).trans held)
      (within_toNat conforming)
  refine ⟨served, fun calls => final_violations rfl fun reply member => served reply ?_⟩
  rw [← Mealy.replies_take] at member
  exact List.mem_of_mem_take member

theorem conforming_secondly : Conforming 1 [900000, 1900000] := by
  intro start
  have apart : ¬ ((start ≤ 900000 ∧ 900000 < start + tickHz) ∧ start ≤ 1900000 ∧ 1900000 < start + tickHz) := by
    simp only [tickHz]
    omega
  by_cases early : start ≤ 900000 ∧ 900000 < start + tickHz
  · have late : ¬ (start ≤ 1900000 ∧ 1900000 < start + tickHz) := fun late => apart ⟨early, late⟩
    simp [early, late]
  · rw [List.countP_cons_of_neg (by simpa using early)]
    exact List.countP_le_length

-- The second call comes 1.9 s after the start, and the 0.9 s that its refill forgets do no harm.
theorem tryConsume_conforming_secondly :
    Conforming 1 [900000, 1900000] ∧
      ∀ reply ∈ replies MachineBucket.tryConsume (.new 1 1) [900000, 1900000], reply = true :=
  ⟨conforming_secondly, (tryConsume_conforming (by decide) (by decide) conforming_secondly).1⟩

end PicoBroker
