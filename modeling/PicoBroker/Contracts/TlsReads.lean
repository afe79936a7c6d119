import PicoBroker.Invariants.RecordStream

set_option autoImplicit false

namespace PicoBroker

open Execution (Run Anything)
open TlsStream (received delivered)

variable {τ σ : Type} {bufferSize : Nat}

-- Records that the record layer understands and that fit into `record_buf`.
structure Readable (server : TlsServerSession σ) (bufferSize : Nat) (inner : σ) (sent : List PeerRecord) : Prop where
  decrypts : Decrypts server bufferSize inner sent
  fits : ∀ item ∈ sent, item.record.bytes.length ≤ bufferSize

def StreamLabel.isDrop : StreamLabel τ → Bool
  | .drop => true
  | _ => false

def StreamLabel.room? : StreamLabel τ → Option Nat
  | .read room => some room
  | _ => none

-- A `read` is dropped only while it has nothing of a record.
def Untouched (stream : TlsStream τ σ bufferSize) (label : StreamLabel τ) : Prop :=
  label.isDrop = true → stream.taken = []

instance (stream : TlsStream τ σ bufferSize) (label : StreamLabel τ) : Decidable (Untouched stream label) :=
  inferInstanceAs (Decidable (_ → _))

def Completed (_ : TlsStream τ σ bufferSize) (label : StreamLabel τ) : Prop :=
  label.isDrop = false ∧ ∀ room ∈ label.room?, 0 < room

instance (stream : TlsStream τ σ bufferSize) (label : StreamLabel τ) : Decidable (Completed stream label) :=
  inferInstanceAs (Decidable (_ ∧ _))

section

variable {server : TlsServerSession σ} {inner : σ} {sent : List PeerRecord} {labels : List (StreamLabel τ)}
  {events : List (StreamEvent τ)} {stream : TlsStream τ σ bufferSize}

theorem aligned_new (decrypts : Decrypts server bufferSize inner sent) :
    Aligned server sent ([] : List (StreamEvent τ)) (.new inner : TlsStream τ σ bufferSize) := by
  refine ⟨[], sent, rfl, ?_, by simp [TlsStream.new], by simp [TlsStream.new], ?_, by simp [TlsStream.new],
    by simp [TlsStream.new]⟩
  · simp [delivered, TlsStream.new, plaintexts]
  · exact .inStep rfl (fun _ => decrypts) (by simp [TlsStream.new])

theorem received_prefix_of_append {new : List (StreamEvent τ)}
    (arrives : received (events ++ new) <+: wireBytes sent) : received events <+: wireBytes sent := by
  rw [received_append] at arrives
  exact (List.prefix_append _ _).trans arrives

theorem aligned_of_run (readable : Readable server bufferSize inner sent)
    (run : Run (TlsStream.step server) Untouched (.new inner) labels events stream)
    (arrives : received events <+: wireBytes sent) : Aligned server sent events stream := by
  revert arrives
  refine run.invariant (P := fun events stream => received events <+: wireBytes sent →
    Aligned server sent events stream) (fun _ => aligned_new readable.decrypts) ?_
  intro events stream label next new held kept taken arrives
  have before := received_prefix_of_append arrives
  refine (held before).move (TlsStream.step_move taken) before readable.fits ?_
  rintro rfl
  exact kept rfl

theorem Aligned.inOrder (aligned : Aligned server sent events stream) :
    delivered events <+: plaintexts sent := by
  obtain ⟨whole, rest, rfl, standing⟩ := aligned
  rw [plaintexts_append, ← standing.plaintext, List.append_assoc]
  exact List.prefix_append _ _

structure NothingLost (sent : List PeerRecord) (events : List (StreamEvent τ)) (stream : TlsStream τ σ bufferSize) :
    Prop where
  bytes : delivered events <+: plaintexts sent
  boundaries : stream.ending = none → ∃ whole rest, sent = whole ++ rest ∧
    received events = wireBytes whole ++ stream.taken ++ stream.incoming.flatten ∧
    delivered events ++ stream.session.plain.unread = plaintexts whole

theorem nothing_lost (readable : Readable server bufferSize inner sent)
    (run : Run (TlsStream.step server) Untouched (.new inner) labels events stream)
    (arrives : received events <+: wireBytes sent) : NothingLost sent events stream := by
  have aligned := aligned_of_run readable run arrives
  refine ⟨aligned.inOrder, fun running => ?_⟩
  obtain ⟨whole, rest, split, standing⟩ := aligned
  cases standing.position with
  | inStep arrived => exact ⟨whole, rest, split, arrived, standing.plaintext⟩
  | atEnd ended => exact absurd running ended

structure FaithfulStream (sent : List PeerRecord) (events : List (StreamEvent τ)) : Prop where
  bytes : delivered events <+: plaintexts sent
  empty : ∀ earlier later, events = earlier ++ .returned (.ok []) :: later → Ended sent earlier

theorem roomy_of_run (run : Run (TlsStream.step server) Completed (.new inner) labels events stream) :
    ∀ pending ∈ stream.pending, 0 < pending.room := by
  refine run.invariant (P := fun _ stream => ∀ pending ∈ stream.pending, 0 < pending.room)
    (by simp [TlsStream.new]) ?_
  intro events stream label next new roomy completed taken
  cases TlsStream.step_move taken with
  | arrived | finished | answered | closed => exact roomy
  | started =>
    rintro _ ⟨⟩
    exact completed.2 _ rfl
  | waited pends | skipped pends =>
    have positive := roomy _ pends
    rintro _ ⟨⟩
    exact positive
  | refilled | dropped => simp

theorem untouched_of_completed (run : Run (TlsStream.step server) Completed (.new inner) labels events stream) :
    Run (TlsStream.step server) Untouched (.new inner) labels events stream := by
  refine run.mono fun _ _ completed dropped => ?_
  rw [completed.1] at dropped
  contradiction

theorem faithful_stream (readable : Readable server bufferSize inner sent)
    (full : ∀ record, .appData record [] ∉ sent)
    (run : Run (TlsStream.step server) Completed (.new inner) labels events stream)
    (arrives : received events <+: wireBytes sent) : FaithfulStream sent events := by
  refine ⟨(aligned_of_run readable (untouched_of_completed run) arrives).inOrder, ?_⟩
  rintro earlier later rfl
  -- The step that returns is looked at from the state before it, which a run has reached.
  refine run.each
    (P := fun events stream => ∃ labels, Run (TlsStream.step server) Completed (.new inner) labels events stream)
    (Q := fun earlier event => event = .returned (.ok []) → received earlier <+: wireBytes sent → Ended sent earlier)
    ⟨[], .nil⟩ ?_ ?_ ?_ rfl rfl (received_prefix_of_append arrives)
  · rintro events stream label next new ⟨before, reached⟩ completed taken
    exact ⟨_, reached.snoc completed taken⟩
  · rintro events stream label next new ⟨before, reached⟩ completed taken _ member rfl arrived
    have aligned := aligned_of_run readable (untouched_of_completed reached) arrived
    refine aligned.empty (TlsStream.step_move taken) arrived readable.fits (roomy_of_run reached) ?_ full member
    rintro room rfl
    exact completed.2 room rfl
  · intro before more event ended same arrived
    exact (ended same (received_prefix_of_append arrived)).append more

end

deriving instance DecidableEq for Ending
deriving instance DecidableEq for StreamEvent

def nullRecord (contentType : UInt8) (plaintext : Text 64) : TlsRecord where
  contentType := tlsCtApplicationData
  major := 3
  minor := 3
  body := innerPlaintext contentType plaintext.items
  short := by
    have fits := plaintext.fits
    simp only [innerPlaintext, List.length_append, List.length_cons, List.length_replicate]
    omega

def dataRecord (plaintext : Text 64) : PeerRecord :=
  .appData (nullRecord tlsCtApplicationData plaintext) plaintext.items

def cipherSpecRecord (body : Text 64) : PeerRecord :=
  .changeCipherSpec ⟨tlsCtChangeCipherSpec, 3, 3, body.items, Nat.lt_of_le_of_lt body.fits (by decide)⟩

def alertRecord (alert : Text 64) : PeerRecord := .alert (nullRecord tlsCtAlert alert)

-- Three bytes of plaintext after a ChangeCipherSpec record, then the end.
def goodbye : List PeerRecord :=
  [cipherSpecRecord (.truncate [1]), dataRecord (.truncate [7, 8, 9]), alertRecord (.truncate [1, 0])]

theorem goodbye_readable : Readable nullCipher 64 () goodbye := by
  refine ⟨⟨rfl, rfl, .truncate [7, 8, 9], (), by decide +kernel, rfl, ?_⟩, by decide +kernel⟩
  exact .inr ⟨rfl, .warning, .closeNotify, (), by decide +kernel⟩

-- The first chunk ends within the header of the second record.
def goodbyeReads : List (StreamLabel Unit) :=
  [.read 2, .arrive ((wireBytes goodbye).take 8), .poll, .poll, .arrive ((wireBytes goodbye).drop 8), .poll,
    .read 2, .read 2, .poll]

theorem faithful_goodbye :
    ∃ (stream : TlsStream Unit Unit 64) (events : List (StreamEvent Unit)),
      Run (TlsStream.step nullCipher) Completed (.new ()) goodbyeReads events stream ∧
      delivered events = [7, 8, 9] ∧ .returned (.ok []) ∈ events ∧ FaithfulStream goodbye events := by
  obtain ⟨stream, events, run, tested⟩ : ∃ (stream : TlsStream Unit Unit 64) (events : List (StreamEvent Unit)),
      Run (TlsStream.step nullCipher) Completed (.new ()) goodbyeReads events stream ∧
      decide (received events <+: wireBytes goodbye ∧ delivered events = [7, 8, 9] ∧
        .returned (.ok []) ∈ events) = true :=
    Execution.exists_run (by decide +kernel)
  obtain ⟨arrives, bytes, ended⟩ := of_decide_eq_true tested
  have full (record : TlsRecord) : .appData record [] ∉ goodbye := by
    simp [goodbye, dataRecord, cipherSpecRecord, alertRecord, Bounded.truncate]
  exact ⟨stream, events, run, bytes, ended, faithful_stream goodbye_readable full run arrives⟩

-- A record without plaintext.
def emptyRecord : List PeerRecord := [dataRecord .empty]

def emptyReads : List (StreamLabel Unit) := [.arrive (wireBytes emptyRecord), .read 8, .poll]

-- A plaintext of six bytes; its record has 28.
def longRecord : List PeerRecord := [dataRecord (.truncate [21, 3, 3, 0, 0, 1])]

def longReads : List (StreamLabel Unit) := [.arrive (wireBytes longRecord), .read 8, .poll, .read 8, .poll]

theorem not_ended_of_arrived {sent : List PeerRecord} (unalerted : ∀ record, .alert record ∉ sent)
    {events : List (StreamEvent Unit)} (running : .closed ∉ events ∧ .finished .closed ∉ events) :
    ¬ Ended sent events := by
  rintro (closed | finished | ⟨before, record, after, rfl, _⟩)
  · exact running.1 closed
  · exact running.2 finished
  · exact unalerted record (by simp)

-- An empty record is taken for the end. A record that does not fit is read as records itself.
theorem reads_unfaithful :
    (∃ (stream : TlsStream Unit Unit 64) (events : List (StreamEvent Unit)),
      Run (TlsStream.step nullCipher) Completed (.new ()) emptyReads events stream ∧
      Readable nullCipher 64 () emptyRecord ∧
      events = [.arrived (wireBytes emptyRecord), .returned (.ok [])] ∧ ¬ FaithfulStream emptyRecord events) ∧
    ∃ (stream : TlsStream Unit Unit 16) (events : List (StreamEvent Unit)),
      Run (TlsStream.step nullCipher) Completed (.new ()) longReads events stream ∧
      Decrypts nullCipher 16 () longRecord ∧
      events = [.arrived (wireBytes longRecord), .returned (.error (.recordTooLarge 28 16)), .returned (.ok [])] ∧
      ¬ FaithfulStream longRecord events := by
  constructor
  · obtain ⟨stream, events, run, tested⟩ : ∃ (stream : TlsStream Unit Unit 64) (events : List (StreamEvent Unit)),
        Run (TlsStream.step nullCipher) Completed (.new ()) emptyReads events stream ∧
        decide (events = [.arrived (wireBytes emptyRecord), .returned (.ok [])]) = true :=
      Execution.exists_run (by decide +kernel)
    have seen := of_decide_eq_true tested
    refine ⟨stream, events, run, ⟨⟨rfl, .empty, (), by decide +kernel, rfl, trivial⟩, by decide +kernel⟩, seen, ?_⟩
    intro faithful
    exact not_ended_of_arrived (by simp [emptyRecord, dataRecord]) (by simp) (faithful.empty [_] [] seen)
  · obtain ⟨stream, events, run, tested⟩ : ∃ (stream : TlsStream Unit Unit 16) (events : List (StreamEvent Unit)),
        Run (TlsStream.step nullCipher) Completed (.new ()) longReads events stream ∧
        decide (events = [.arrived (wireBytes longRecord), .returned (.error (.recordTooLarge 28 16)),
          .returned (.ok [])]) = true :=
      Execution.exists_run (by decide +kernel)
    have seen := of_decide_eq_true tested
    refine ⟨stream, events, run, ⟨rfl, .truncate [21, 3, 3, 0, 0, 1], (), by decide +kernel, rfl, trivial⟩, seen, ?_⟩
    intro faithful
    exact not_ended_of_arrived (by simp [longRecord, dataRecord]) (by simp) (faithful.empty [_, _] [] seen)

-- What follows the header of this record reads as a record itself.
def nestedRecord : List PeerRecord := [dataRecord (.truncate [23, 3, 3, 0, 18, 99])]

theorem nestedRecord_readable : Readable nullCipher 64 () nestedRecord :=
  ⟨⟨rfl, .truncate [23, 3, 3, 0, 18, 99], (), by decide +kernel, rfl, trivial⟩, by decide +kernel⟩

-- Dropped before any byte has arrived, or when the header has.
def earlyDrop : List (StreamLabel Unit) :=
  [.read 8, .poll, .drop, .arrive (wireBytes nestedRecord), .read 8, .poll]

def lateDrop : List (StreamLabel Unit) :=
  [.arrive ((wireBytes nestedRecord).take 5), .read 8, .poll, .drop, .arrive ((wireBytes nestedRecord).drop 5),
    .read 8, .poll]

theorem nothing_lost_before_header :
    ∃ (stream : TlsStream Unit Unit 64) (events : List (StreamEvent Unit)),
      Run (TlsStream.step nullCipher) Untouched (.new ()) earlyDrop events stream ∧
      delivered events = plaintexts nestedRecord ∧ NothingLost nestedRecord events stream := by
  obtain ⟨stream, events, run, tested⟩ : ∃ (stream : TlsStream Unit Unit 64) (events : List (StreamEvent Unit)),
      Run (TlsStream.step nullCipher) Untouched (.new ()) earlyDrop events stream ∧
      decide (received events <+: wireBytes nestedRecord ∧ delivered events = plaintexts nestedRecord) = true :=
    Execution.exists_run (by decide +kernel)
  obtain ⟨arrives, bytes⟩ := of_decide_eq_true tested
  exact ⟨stream, events, run, bytes, nothing_lost nestedRecord_readable run arrives⟩

theorem lost_after_header :
    ∃ (stream : TlsStream Unit Unit 64) (events : List (StreamEvent Unit)),
      Run (TlsStream.step nullCipher) Anything (.new ()) lateDrop events stream ∧
      Readable nullCipher 64 () nestedRecord ∧ received events = wireBytes nestedRecord ∧
      delivered events = [99] ∧ ¬ delivered events <+: plaintexts nestedRecord := by
  obtain ⟨stream, events, run, tested⟩ : ∃ (stream : TlsStream Unit Unit 64) (events : List (StreamEvent Unit)),
      Run (TlsStream.step nullCipher) Anything (.new ()) lateDrop events stream ∧
      decide (received events = wireBytes nestedRecord ∧ delivered events = [99] ∧
        ¬ delivered events <+: plaintexts nestedRecord) = true :=
    Execution.exists_run (by decide +kernel)
  exact ⟨stream, events, run, nestedRecord_readable, of_decide_eq_true tested⟩

end PicoBroker
