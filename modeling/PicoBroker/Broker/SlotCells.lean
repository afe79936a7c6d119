import Mathlib.Algebra.Order.Group.Multiset
import PicoBroker.Shared.Mealy

set_option autoImplicit false

namespace PicoBroker

variable {T : Type}

-- The bytes of a value that was moved out stay where they are.
inductive MaybeUninit (T : Type) where
  | uninit
  | init (value : T)
  | moved (value : T)

namespace MaybeUninit

def assumeInitRef : MaybeUninit T → Option T
  | .init value => some value
  | .uninit | .moved _ => none

-- `update` is what the holder of the borrow does to the value.
def assumeInitMut (update : T → T) : MaybeUninit T → Option (T × MaybeUninit T)
  | .init value => some (value, .init (update value))
  | .uninit | .moved _ => none

def assumeInitRead : MaybeUninit T → Option (T × MaybeUninit T)
  | .init value => some (value, .moved value)
  | .uninit | .moved _ => none

-- A value that is still there is not dropped.
def write (_ : MaybeUninit T) (value : T) : MaybeUninit T := .init value

-- The value whose destructor runs.
def dropInPlace : MaybeUninit T → Option T
  | .init value => some value
  | .uninit | .moved _ => none

end MaybeUninit

structure Slot (T : Type) where
  occupied : Bool
  state : MaybeUninit T

namespace Slot

def empty : Slot T := ⟨false, .uninit⟩

def isSome (slot : Slot T) : Bool := slot.occupied

def asRef (slot : Slot T) : Option (Option T) :=
  if slot.occupied then slot.state.assumeInitRef.map some else some none

def asMut (slot : Slot T) (update : T → T) : Option (Option T × Slot T) :=
  if slot.occupied then
    (slot.state.assumeInitMut update).map fun read => (some read.1, { slot with state := read.2 })
  else some (none, slot)

def replace (slot : Slot T) (value : T) : Option (Option T × Slot T) :=
  if slot.occupied then
    slot.state.assumeInitRead.map fun read => (some read.1, ⟨true, read.2.write value⟩)
  else some (none, ⟨true, slot.state.write value⟩)

def take (slot : Slot T) : Option (Option T × Slot T) :=
  if slot.occupied then slot.state.assumeInitRead.map fun read => (some read.1, ⟨false, read.2⟩)
  else some (none, slot)

def drop (slot : Slot T) : Option (Option T) :=
  if slot.occupied then slot.state.dropInPlace.map some else some none

def clone (slot : Slot T) (copy : T → T) : Option (Slot T) :=
  slot.asRef.bind fun value =>
    match value with
    | none => some empty
    | some value => (empty.replace (copy value)).map Prod.snd

end Slot

inductive SlotCall (T : Type) where
  | isSome
  | asRef
  | asMut (update : T → T)
  | replace (value : T)
  | take
  | clone (copy : T → T)

inductive SlotReply (T : Type) where
  | flag (occupied : Bool)
  | value (value : Option T)

def owned (value : Option T) : Multiset T := value.elim 0 fun value => {value}

structure SlotResult (T R : Type) where
  reply : R
  slot : Slot T
  gained : Multiset T
  lost : Multiset T

-- The copy that `clone` makes is dropped by its owner.
def Slot.perform (slot : Slot T) : SlotCall T → Option (SlotResult T (SlotReply T))
  | .isSome => some ⟨.flag slot.isSome, slot, 0, 0⟩
  | .asRef => slot.asRef.map fun value => ⟨.value value, slot, 0, 0⟩
  | .asMut update => (slot.asMut update).map fun done =>
      ⟨.value done.1, done.2, owned (done.1.map update), owned done.1⟩
  | .replace value => (slot.replace value).map fun done => ⟨.value done.1, done.2, {value}, owned done.1⟩
  | .take => slot.take.map fun done => ⟨.value done.1, done.2, 0, owned done.1⟩
  | .clone copy => (slot.clone copy).bind fun other => other.drop.map fun copied =>
      ⟨.value copied, slot, owned copied, owned copied⟩

def Slot.run (slot : Slot T) : List (SlotCall T) → Option (SlotResult T (List (SlotReply T)))
  | [] => some ⟨[], slot, 0, 0⟩
  | call :: rest => (slot.perform call).bind fun result => (result.slot.run rest).map fun later =>
      ⟨result.reply :: later.reply, later.slot, result.gained + later.gained, result.lost + later.lost⟩

def SlotCall.perform (cell : Option T) : SlotCall T → SlotReply T × Option T
  | .isSome => (.flag cell.isSome, cell)
  | .asRef => (.value cell, cell)
  | .asMut update => (.value cell, cell.map update)
  | .replace value => (.value cell, some value)
  | .take => (.value cell, none)
  | .clone copy => (.value (cell.map copy), cell)

inductive Slot.Holds : Slot T → Option T → Prop
  | empty (state : MaybeUninit T) : Holds ⟨false, state⟩ none
  | full (value : T) : Holds ⟨true, .init value⟩ (some value)

variable {slot : Slot T} {cell : Option T}

theorem Slot.Holds.drop (holds : slot.Holds cell) : slot.drop = some cell := by
  cases holds <;> rfl

theorem Slot.Holds.perform (holds : slot.Holds cell) (call : SlotCall T) :
    ∃ result, slot.perform call = some result ∧ result.slot.Holds (call.perform cell).2 ∧
      result.reply = (call.perform cell).1 ∧
      owned cell + result.gained = result.lost + owned (call.perform cell).2 := by
  cases call with
  | isSome | asRef => cases holds with
    | empty state => exact ⟨_, rfl, .empty state, rfl, rfl⟩
    | full value => exact ⟨_, rfl, .full value, rfl, add_comm ..⟩
  | asMut update => cases holds with
    | empty state => exact ⟨_, rfl, .empty state, rfl, rfl⟩
    | full value => exact ⟨_, rfl, .full (update value), rfl, rfl⟩
  | replace value => cases holds with
    | empty state => exact ⟨_, rfl, .full value, rfl, rfl⟩
    | full old => exact ⟨_, rfl, .full value, rfl, rfl⟩
  | take => cases holds with
    | empty state => exact ⟨_, rfl, .empty state, rfl, rfl⟩
    | full value => exact ⟨_, rfl, .empty _, rfl, rfl⟩
  | clone copy => cases holds with
    | empty state => exact ⟨_, rfl, .empty state, rfl, rfl⟩
    | full value => exact ⟨_, rfl, .full value, rfl, add_comm ..⟩

theorem Slot.Holds.run (holds : slot.Holds cell) (calls : List (SlotCall T)) :
    ∃ result, slot.run calls = some result ∧ result.slot.Holds (Mealy.final SlotCall.perform cell calls) ∧
      result.reply = Mealy.replies SlotCall.perform cell calls ∧
      owned cell + result.gained = result.lost + owned (Mealy.final SlotCall.perform cell calls) := by
  induction calls generalizing slot cell with
  | nil => exact ⟨_, rfl, holds, rfl, add_comm ..⟩
  | cons call rest ih =>
    obtain ⟨result, performed, still, reply, accounted⟩ := holds.perform call
    obtain ⟨later, ran, ends, replies, balanced⟩ := ih still
    rw [Slot.run, performed, Option.bind_some, ran]
    refine ⟨_, rfl, ends, ?_, ?_⟩
    · rw [Mealy.replies, ← reply, ← replies]
    · rw [Mealy.final, ← add_assoc, accounted, add_assoc, balanced, add_assoc]

theorem slot_refines_option (vacant : slot.occupied = false) (calls : List (SlotCall T)) :
    ∃ result dropped, slot.run calls = some result ∧ result.slot.drop = some dropped ∧
      result.reply = Mealy.replies SlotCall.perform none calls ∧
      result.gained = result.lost + owned dropped := by
  obtain ⟨occupied, state⟩ := slot
  cases vacant
  obtain ⟨result, ran, ends, replies, accounted⟩ := (Slot.Holds.empty state).run calls
  exact ⟨result, _, ran, ends.drop, replies, (zero_add _).symm.trans accounted⟩

-- The bytes of an older value are there, and the last value is dropped with the slot.
theorem slot_refines_option_reused :
    ∃ result dropped, Slot.run ⟨false, .moved 3⟩ [.replace 5, .asMut (· + 1), .clone id, .take, .replace 7] =
        some result ∧ result.slot.drop = some dropped ∧
      result.reply = Mealy.replies SlotCall.perform none
        [.replace 5, .asMut (· + 1), .clone id, .take, .replace 7] ∧
      result.gained = result.lost + owned dropped :=
  slot_refines_option rfl _

end PicoBroker
