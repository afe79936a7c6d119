import PicoBroker.Tls.Streams

set_option autoImplicit false

namespace PicoBroker

open Execution (Run Anything)
open Resumption (Reads)

variable {τ σ : Type} {bufferSize : Nat}

def TlsRecord.header (record : TlsRecord) : Bytes :=
  [record.contentType, record.major, record.minor] ++ Fields.bigEndian 2 record.body.length

theorem TlsRecord.length_header (record : TlsRecord) : record.header.length = recordHeaderLen := by
  simp [TlsRecord.header, recordHeaderLen]

theorem TlsRecord.header_number (record : TlsRecord) :
    Fields.ofBigEndian (Fields.slice record.header 3 5) = record.body.length := by
  have field : Fields.slice record.header 3 5 = Fields.bigEndian 2 record.body.length := by
    simp [TlsRecord.header, Fields.slice, List.take_of_length_le]
  rw [field]
  exact (Fields.ofBigEndian_bigEndian 2 _).trans (Nat.mod_eq_of_lt record.short)

theorem readExactInto_reads {start : Nat} {bytes : Bytes} (fits : start + bytes.length ≤ bufferSize) :
    Reads SessionError.onEnd (readExactInto bufferSize start bytes.length : RecordReader τ Bytes) bytes
      (.ok bytes) := by
  rw [readExactInto, if_neg (Nat.not_lt.mpr fits)]
  exact Resumption.exactly_reads SessionError.onEnd bytes

theorem fetchRecord_reads {record : TlsRecord} (fits : record.bytes.length ≤ bufferSize) :
    Reads SessionError.onEnd (fetchRecord bufferSize : RecordReader τ Bytes) record.bytes (.ok record.bytes) := by
  have room : recordHeaderLen + record.body.length ≤ bufferSize := by
    rwa [TlsRecord.bytes, List.length_append, ← TlsRecord.header, record.length_header] at fits
  have header : Reads SessionError.onEnd (readExactInto bufferSize 0 recordHeaderLen : RecordReader τ Bytes)
      record.header (.ok record.header) := by
    rw [← record.length_header]
    exact readExactInto_reads (by rw [record.length_header]; omega)
  have body : Reads SessionError.onEnd
      (readExactInto bufferSize recordHeaderLen record.body.length : RecordReader τ Bytes) record.body
      (.ok record.body) := readExactInto_reads room
  refine header.bind ?_
  dsimp only
  rw [record.header_number, if_neg (Nat.not_lt.mpr room)]
  exact body.bind_last ⟨rfl, rfl⟩

-- Before the first byte of a record, a fetch takes nothing.
theorem fetchRecord_poll_nil (bufferSize : Nat) (ending : Option (Ending τ)) :
    (∃ error, (fetchRecord bufferSize).poll ending [] = ⟨.fail error, [], []⟩ ∧
      (error = .recordTooLarge recordHeaderLen bufferSize ∨ ∃ reason, ending = some reason ∧ error = .onEnd reason)) ∨
      ending = none ∧ ∃ room next, fetchRecord bufferSize = .read room next ∧
        (fetchRecord bufferSize).poll ending [] = ⟨.read room next, [], []⟩ := by
  by_cases enough : recordHeaderLen ≤ bufferSize
  · have first : (readExactInto bufferSize 0 recordHeaderLen : RecordReader τ Bytes) =
        .exactly SessionError.onEnd recordHeaderLen := by
      rw [readExactInto, Nat.zero_add, if_neg (Nat.not_lt.mpr enough)]
    rw [Resumption.exactly, if_neg (by decide)] at first
    rw [fetchRecord, first]
    cases ending with
    | none => exact .inr ⟨rfl, _, _, rfl, rfl⟩
    | some reason => cases reason <;> exact .inl ⟨_, rfl, .inr ⟨_, rfl, rfl⟩⟩
  · have first : (readExactInto bufferSize 0 recordHeaderLen : RecordReader τ Bytes) =
        .fail (.recordTooLarge recordHeaderLen bufferSize) := by
      rw [readExactInto, Nat.zero_add, if_pos (Nat.lt_of_not_le enough)]
    rw [fetchRecord, first]
    exact .inl ⟨_, rfl, .inl rfl⟩

variable {server : TlsServerSession σ} {session : EmbeddedTlsPskSession σ bufferSize}

inductive Refill (server : TlsServerSession σ) (session : EmbeddedTlsPskSession σ bufferSize)
    (later : List PeerRecord) :
    PeerRecord → Option (Except (SessionError τ) Unit) × EmbeddedTlsPskSession σ bufferSize → Prop
  | skipped {record : TlsRecord} (decrypts : Decrypts server bufferSize session.inner later) :
      Refill server session later (.changeCipherSpec record) (none, session)
  | filled {record : TlsRecord} {found : Text bufferSize} {next : σ}
      (decrypts : Decrypts server bufferSize next later) :
      Refill server session later (.appData record found.items)
        (some (.ok ()), { session with inner := next, plain := session.plain.fill found })
  | alerted {record : TlsRecord} {next : σ} :
      Refill server session later (.alert record)
        (some (.error .closed), { session with inner := next, closed := true })

theorem Decrypts.refill {item : PeerRecord} {later : List PeerRecord}
    (decrypts : Decrypts server bufferSize session.inner (item :: later)) :
    Refill (τ := τ) server session later item (session.refillPlaintext server (.ok item.record.bytes)) := by
  cases item with
  | changeCipherSpec record =>
    obtain ⟨kind, rest⟩ := decrypts
    have type : recordType record.bytes = tlsCtChangeCipherSpec := kind
    simp only [EmbeddedTlsPskSession.refillPlaintext, PeerRecord.record, type, if_true]
    exact .skipped rest
  | appData record plaintext =>
    obtain ⟨kind, found, next, decrypted, rfl, rest⟩ := decrypts
    have type : recordType record.bytes = tlsCtApplicationData := kind
    simp only [EmbeddedTlsPskSession.refillPlaintext, PeerRecord.record, type, decrypted]
    exact .filled rest
  | alert record =>
    rcases decrypts with kind | ⟨kind, level, description, next, decrypted⟩
    · have type : recordType record.bytes = tlsCtAlert := kind
      simp only [EmbeddedTlsPskSession.refillPlaintext, PeerRecord.record, type]
      exact .alerted
    · have type : recordType record.bytes = tlsCtApplicationData := kind
      simp only [EmbeddedTlsPskSession.refillPlaintext, PeerRecord.record, type, decrypted]
      exact .alerted

namespace TlsStream

def received (events : List (StreamEvent τ)) : Bytes :=
  events.flatMap fun
    | .arrived chunk => chunk
    | _ => []

def delivered (events : List (StreamEvent τ)) : Bytes :=
  events.flatMap fun
    | .returned result => result.toOption.getD []
    | _ => []

end TlsStream

open TlsStream (received delivered Move)

inductive Fetching (bufferSize : Nat) (rest : List PeerRecord) : PendingRead τ → Prop
  | unbegun {room : Nat} : Fetching bufferSize rest (.new bufferSize room)
  | within {pending : PendingRead τ} {item : PeerRecord} {later : List PeerRecord} {missing : Bytes}
      (front : rest = item :: later) (cut : item.record.bytes = pending.taken ++ missing)
      (reads : Reads SessionError.onEnd pending.fetch missing (.ok item.record.bytes)) :
      Fetching bufferSize rest pending

inductive Position (server : TlsServerSession σ) (events : List (StreamEvent τ))
    (stream : TlsStream τ σ bufferSize) (whole rest : List PeerRecord) : Prop
  | inStep (arrived : received events = wireBytes whole ++ stream.taken ++ stream.incoming.flatten)
      (decrypts : stream.session.closed = false → Decrypts server bufferSize stream.session.inner rest)
      (fetching : ∀ pending ∈ stream.pending, Fetching bufferSize rest pending)
  | atEnd (ended : stream.ending ≠ none) (drained : stream.incoming = [])
      (unbegun : ∀ pending ∈ stream.pending, ∃ room, pending = .new bufferSize room)

def Ended (sent : List PeerRecord) (events : List (StreamEvent τ)) : Prop :=
  .closed ∈ events ∨ .finished .closed ∈ events ∨
    ∃ before record after, sent = before ++ .alert record :: after ∧
      wireBytes (before ++ [.alert record]) <+: received events

structure Standing (server : TlsServerSession σ) (events : List (StreamEvent τ))
    (stream : TlsStream τ σ bufferSize) (whole rest : List PeerRecord) : Prop where
  plaintext : delivered events ++ stream.session.plain.unread = plaintexts whole
  nonempty : [] ∉ stream.incoming
  waiting : ∀ pending ∈ stream.pending, stream.session.closed = false ∧ stream.session.plain.unread = []
  position : Position server events stream whole rest
  finished : ∀ ending, stream.ending = some ending → .finished ending ∈ events
  closed : stream.session.closed = true → Ended (whole ++ rest) events

structure HandsOut (session : EmbeddedTlsPskSession σ bufferSize) (result : Except (SessionError τ) Bytes)
    (after : EmbeddedTlsPskSession σ bufferSize) : Prop where
  inner : after.inner = session.inner
  closed : after.closed = session.closed
  plaintext : result.toOption.getD [] ++ after.plain.unread = session.plain.unread

theorem copyPlaintext_handsOut (session : EmbeddedTlsPskSession σ bufferSize) (room : Nat) :
    HandsOut session (session.copyPlaintext room : Except (SessionError τ) Bytes × _).1
      (session.copyPlaintext room : Except (SessionError τ) Bytes × _).2 where
  inner := rfl
  closed := rfl
  plaintext := by
    simp [EmbeddedTlsPskSession.copyPlaintext, PlainBuffer.copy_fst, PlainBuffer.copy_unread, Except.toOption]

theorem endRead_handsOut (session : EmbeddedTlsPskSession σ bufferSize) (room : Nat)
    (refilled : Except (SessionError τ) Unit) :
    HandsOut session (session.endRead room refilled).1 (session.endRead room refilled).2 := by
  unfold EmbeddedTlsPskSession.endRead
  split
  · exact copyPlaintext_handsOut session room
  · exact ⟨rfl, rfl, rfl⟩
  · exact ⟨rfl, rfl, rfl⟩
  · exact ⟨rfl, rfl, rfl⟩

inductive Begun (session : EmbeddedTlsPskSession σ bufferSize) (room : Nat) :
    Option (Except (SessionError τ) Bytes × EmbeddedTlsPskSession σ bufferSize) → Prop
  | incomplete : Begun session room (some (.error .handshakeIncomplete, session))
  | closed (closed : session.closed = true) : Begun session room (some (.ok [], session))
  | drained (running : session.closed = false) (empty : session.plain.unread = []) : Begun session room none
  | copied (more : session.plain.unread ≠ []) :
      Begun session room
        (some (.ok (session.plain.unread.take room), { session with plain := (session.plain.copy room).2 }))

theorem beginRead_begun (session : EmbeddedTlsPskSession σ bufferSize) (room : Nat) :
    Begun session room
      (session.beginRead room : Option (Except (SessionError τ) Bytes × EmbeddedTlsPskSession σ bufferSize)) := by
  unfold EmbeddedTlsPskSession.beginRead
  split
  · exact .incomplete
  · split
    · next closed => exact .closed closed
    · next running =>
      split
      · next drained => exact .drained (by simpa using running) (PlainBuffer.unread_eq_nil drained)
      · next left =>
        rw [EmbeddedTlsPskSession.copyPlaintext, PlainBuffer.copy_fst]
        refine .copied (List.length_pos_iff.mp ?_)
        rw [PlainBuffer.length_unread]
        omega

theorem beginRead_handsOut {room : Nat} {result : Except (SessionError τ) Bytes}
    {after : EmbeddedTlsPskSession σ bufferSize} (answer : session.beginRead room = some (result, after)) :
    HandsOut session result after := by
  have begun := beginRead_begun (τ := τ) session room
  rw [answer] at begun
  cases begun with
  | incomplete | closed => exact ⟨rfl, rfl, rfl⟩
  | copied => exact ⟨rfl, rfl, by rw [PlainBuffer.copy_unread]; exact List.take_append_drop ..⟩

-- While there is plaintext, only an empty buffer gets nothing.
theorem beginRead_empty {room : Nat} {after : EmbeddedTlsPskSession σ bufferSize}
    (answer : session.beginRead room = some ((.ok [] : Except (SessionError τ) Bytes), after)) :
    session.closed = true ∨ room = 0 := by
  have begun := beginRead_begun (τ := τ) session room
  rw [answer] at begun
  generalize nothing : (.ok [] : Except (SessionError τ) Bytes) = result at begun
  cases begun with
  | incomplete => cases nothing
  | closed closed => exact .inl closed
  | copied more =>
    have taken : session.plain.unread.take room = [] := by simpa using nothing.symm
    exact .inr ((List.take_eq_nil_iff.mp taken).resolve_right more)

theorem beginRead_eq_none {room : Nat}
    (drained : session.beginRead room =
      (none : Option (Except (SessionError τ) Bytes × EmbeddedTlsPskSession σ bufferSize))) :
    session.closed = false ∧ session.plain.unread = [] := by
  have begun := beginRead_begun (τ := τ) session room
  rw [drained] at begun
  cases begun with
  | drained running empty => exact ⟨running, empty⟩

theorem close_plain (server : TlsServerSession σ) (session : EmbeddedTlsPskSession σ bufferSize) :
    (session.close server).2.plain = session.plain ∧ (session.close server).2.closed = true := by
  unfold EmbeddedTlsPskSession.close
  split
  · next closed => exact ⟨rfl, closed⟩
  · split
    · exact ⟨rfl, rfl⟩
    · split <;> exact ⟨rfl, rfl⟩

section

variable {events : List (StreamEvent τ)} {stream : TlsStream τ σ bufferSize} {whole rest : List PeerRecord}

theorem received_append (events new : List (StreamEvent τ)) :
    received (events ++ new) = received events ++ received new := List.flatMap_append

theorem delivered_append (events new : List (StreamEvent τ)) :
    delivered (events ++ new) = delivered events ++ delivered new := List.flatMap_append

theorem Ended.append {sent : List PeerRecord} {events : List (StreamEvent τ)} (ended : Ended sent events)
    (new : List (StreamEvent τ)) : Ended sent (events ++ new) := by
  rcases ended with closed | finished | ⟨before, record, after, split, read⟩
  · exact .inl (List.mem_append_left _ closed)
  · exact .inr (.inl (List.mem_append_left _ finished))
  · refine .inr (.inr ⟨before, record, after, split, read.trans ?_⟩)
    rw [received_append]
    exact List.prefix_append _ _

-- What neither reads nor brings any bytes leaves the session where it stands.
theorem Position.quiet {new : List (StreamEvent τ)} {after : TlsStream τ σ bufferSize}
    (position : Position server events stream whole rest) (quiet : received new = [])
    (incoming : after.incoming = stream.incoming) (pending : after.pending = stream.pending)
    (ending : stream.ending ≠ none → after.ending ≠ none)
    (running : after.session.closed = false →
      stream.session.closed = false ∧ after.session.inner = stream.session.inner) :
    Position server (events ++ new) after whole rest := by
  have taken : after.taken = stream.taken := by rw [TlsStream.taken, pending, TlsStream.taken]
  cases position with
  | inStep arrived decrypts fetching =>
    refine .inStep ?_ (fun still => ?_) (pending ▸ fetching)
    · rw [received_append, quiet, List.append_nil, arrived, taken, incoming]
    · rw [(running still).2]
      exact decrypts (running still).1
  | atEnd ended drained unbegun => exact .atEnd (ending ended) (incoming.trans drained) (pending ▸ unbegun)

theorem Standing.answer {result : Except (SessionError τ) Bytes} {after : EmbeddedTlsPskSession σ bufferSize}
    (standing : Standing server events stream whole rest) (idle : stream.pending = none)
    (handsOut : HandsOut stream.session result after) :
    Standing server (events ++ [.returned result]) { stream with session := after } whole rest where
  plaintext := by
    rw [delivered_append, List.append_assoc, ← standing.plaintext, ← handsOut.plaintext]
    simp [delivered]
  nonempty := standing.nonempty
  waiting := by simp [idle]
  position := standing.position.quiet rfl rfl rfl id fun still => ⟨handsOut.closed ▸ still, handsOut.inner⟩
  finished ending same := List.mem_append_left _ (standing.finished ending same)
  closed ended := (standing.closed (handsOut.closed ▸ ended)).append _

theorem Standing.arrive {chunk : Bytes} (standing : Standing server events stream whole rest)
    (nonempty : chunk ≠ []) (running : stream.ending = none) :
    Standing server (events ++ [.arrived chunk]) { stream with incoming := stream.incoming ++ [chunk] } whole rest where
  plaintext := by
    rw [delivered_append, ← standing.plaintext]
    simp [delivered]
  nonempty := by simp [standing.nonempty, nonempty.symm]
  waiting := standing.waiting
  position := by
    cases standing.position with
    | inStep arrived decrypts fetching =>
      refine .inStep ?_ decrypts fetching
      rw [received_append, arrived]
      simp [received, TlsStream.taken]
    | atEnd ended => exact absurd running ended
  finished := by simp [running]
  closed ended := (standing.closed ended).append _

theorem Standing.finish {ending : Ending τ} (standing : Standing server events stream whole rest) :
    Standing server (events ++ [.finished ending]) { stream with ending := some ending } whole rest where
  plaintext := by
    rw [delivered_append, ← standing.plaintext]
    simp [delivered]
  nonempty := standing.nonempty
  waiting := standing.waiting
  position := standing.position.quiet rfl rfl rfl (by simp) fun still => ⟨still, rfl⟩
  finished := by simp
  closed ended := (standing.closed ended).append _

theorem Standing.close (standing : Standing server events stream whole rest) (idle : stream.pending = none) :
    Standing server (events ++ [.closed]) { stream with session := (stream.session.close server).2 } whole rest := by
  obtain ⟨plain, closed⟩ := close_plain server stream.session
  refine ⟨?_, standing.nonempty, by simp [idle], standing.position.quiet rfl rfl rfl id (by simp [closed]),
    fun ending same => List.mem_append_left _ (standing.finished ending same), fun _ => .inl (by simp)⟩
  rw [delivered_append, plain, ← standing.plaintext]
  simp [delivered]

-- Only a fetch that has nothing yet can be dropped without a loss.
theorem Standing.drop (standing : Standing server events stream whole rest) (untouched : stream.taken = []) :
    Standing server events { stream with pending := none } whole rest where
  plaintext := standing.plaintext
  nonempty := standing.nonempty
  waiting := by simp
  position := by
    cases standing.position with
    | inStep arrived decrypts =>
      rw [untouched] at arrived
      exact .inStep arrived decrypts (by simp)
    | atEnd ended drained => exact .atEnd ended drained (by simp)
  finished := standing.finished
  closed := standing.closed

inductive Polling (server : TlsServerSession σ) (events : List (StreamEvent τ)) (stream : TlsStream τ σ bufferSize)
    (pending : PendingRead τ) (whole rest : List PeerRecord) :
    Resumption.Polled τ UInt8 (SessionError τ) Bytes → Prop
  | fetched {item : PeerRecord} {later : List PeerRecord} {taken : Bytes} {left : List Bytes}
      (front : rest = item :: later) (decrypts : Decrypts server bufferSize stream.session.inner (item :: later))
      (arrived : received events = wireBytes (whole ++ [item]) ++ left.flatten) (nonempty : [] ∉ left) :
      Polling server events stream pending whole rest ⟨.done item.record.bytes, taken, left⟩
  | still {room : Nat} {next : Answer τ UInt8 → RecordReader τ Bytes} {taken : Bytes}
      (position : Position server events { stream with
        incoming := [], pending := some ⟨pending.room, .read room next, pending.taken ++ taken⟩ } whole rest) :
      Polling server events stream pending whole rest ⟨.read room next, taken, []⟩
  | failed {error : SessionError τ} {taken : Bytes}
      (cause : error = .recordTooLarge recordHeaderLen bufferSize ∨
        ∃ reason, stream.ending = some reason ∧ error = .onEnd reason)
      (position : Position server events { stream with incoming := [], pending := none } whole rest) :
      Polling server events stream pending whole rest ⟨.fail error, taken, []⟩

theorem wireBytes_append (before after : List PeerRecord) :
    wireBytes (before ++ after) = wireBytes before ++ wireBytes after := List.flatMap_append

theorem wireBytes_cons (item : PeerRecord) (later : List PeerRecord) :
    wireBytes (item :: later) = item.record.bytes ++ wireBytes later := rfl

theorem Standing.poll_within {pending : PendingRead τ} {item : PeerRecord} {later : List PeerRecord} {missing : Bytes}
    (standing : Standing server events stream whole (item :: later))
    (arrives : received events <+: wireBytes (whole ++ item :: later))
    (arrived : received events = wireBytes whole ++ pending.taken ++ stream.incoming.flatten)
    (decrypts : Decrypts server bufferSize stream.session.inner (item :: later))
    (cut : item.record.bytes = pending.taken ++ missing)
    (reads : Reads SessionError.onEnd pending.fetch missing (.ok item.record.bytes)) :
    Polling server events stream pending whole (item :: later)
      (pending.fetch.poll stream.ending stream.incoming) := by
  have agree : missing <+: stream.incoming.flatten ∨ stream.incoming.flatten <+: missing := by
    rw [arrived, wireBytes_append, wireBytes_cons, cut] at arrives
    simp only [List.append_assoc, List.prefix_append_right_inj] at arrives
    exact (List.prefix_or_prefix_of_prefix arrives (List.prefix_append _ _)).symm
  have outcome := reads.poll stream.ending standing.nonempty agree
  generalize pending.fetch.poll stream.ending stream.incoming = polled at outcome ⊢
  cases outcome with
  | finished split nonempty =>
    refine .fetched rfl decrypts ?_ nonempty
    rw [arrived, split, wireBytes_append, wireBytes_cons, cut]
    simp [wireBytes]
  | waiting part reads still =>
    refine .still (.inStep ?_ (fun _ => decrypts) ?_)
    · simp [arrived, TlsStream.taken]
    · rintro _ ⟨⟩
      exact .within rfl (by rw [cut, part, List.append_assoc]) reads
  | ended _ _ done => exact .failed (.inr ⟨_, done, rfl⟩) (.atEnd (by simp [done]) rfl (by simp))

theorem Standing.poll {pending : PendingRead τ} (standing : Standing server events stream whole rest)
    (pends : stream.pending = some pending) (arrives : received events <+: wireBytes (whole ++ rest))
    (fits : ∀ item ∈ rest, item.record.bytes.length ≤ bufferSize) :
    Polling server events stream pending whole rest (pending.fetch.poll stream.ending stream.incoming) := by
  obtain ⟨running, _⟩ := standing.waiting pending pends
  cases standing.position with
  | atEnd ended drained unbegun =>
    obtain ⟨room, rfl⟩ := unbegun pending pends
    rw [drained]
    rcases fetchRecord_poll_nil bufferSize stream.ending with ⟨error, polled, cause⟩ | ⟨none, _⟩
    · rw [PendingRead.new, polled]
      exact .failed cause (.atEnd ended rfl (by simp))
    · exact absurd none ended
  | inStep arrived decrypts fetching =>
    have taken : stream.taken = pending.taken := by simp [TlsStream.taken, pends]
    rw [taken] at arrived
    cases fetching pending pends with
    | within front cut reads =>
      subst front
      exact standing.poll_within arrives arrived (decrypts running) cut reads
    | @unbegun room =>
      cases rest with
      | cons item later =>
        exact standing.poll_within arrives arrived (decrypts running) rfl
          (fetchRecord_reads (fits item List.mem_cons_self))
      | nil =>
        -- The peer has nothing more to send, so nothing is there.
        have nothing : stream.incoming = [] := by
          have short := arrives.length_le
          rw [arrived, List.append_nil, List.length_append, List.length_append] at short
          have empty : stream.incoming.flatten = [] := List.eq_nil_of_length_eq_zero (by omega)
          refine List.eq_nil_iff_forall_not_mem.mpr fun chunk member => standing.nonempty ?_
          rwa [List.flatten_eq_nil_iff.mp empty chunk member] at member
        have unchanged : received events = wireBytes whole ++ [] ++ [] := by
          rw [arrived, nothing]
          rfl
        rw [nothing]
        rcases fetchRecord_poll_nil bufferSize stream.ending with
          ⟨error, polled, cause⟩ | ⟨_, wanted, next, same, polled⟩
        · rw [PendingRead.new, polled]
          exact .failed cause (.inStep unchanged decrypts (by simp))
        · rw [PendingRead.new, polled]
          refine .still (.inStep unchanged decrypts ?_)
          rintro _ ⟨⟩
          rw [← same]
          exact .unbegun

theorem Standing.start (standing : Standing server events stream whole rest) (idle : stream.pending = none)
    (running : stream.session.closed = false) (drained : stream.session.plain.unread = []) (room : Nat) :
    Standing server events { stream with pending := some (.new bufferSize room) } whole rest where
  plaintext := standing.plaintext
  nonempty := standing.nonempty
  waiting _ _ := ⟨running, drained⟩
  position := by
    cases standing.position with
    | inStep arrived decrypts =>
      have untaken : stream.taken = [] := by simp [TlsStream.taken, idle]
      rw [untaken] at arrived
      refine .inStep arrived decrypts ?_
      rintro _ ⟨⟩
      exact .unbegun
    | atEnd ended empty =>
      refine .atEnd ended empty ?_
      rintro _ ⟨⟩
      exact ⟨room, rfl⟩
  finished := standing.finished
  closed := standing.closed

structure Refilled (server : TlsServerSession σ) (events : List (StreamEvent τ)) (stream : TlsStream τ σ bufferSize)
    (sent : List PeerRecord) (room : Nat) (left : List Bytes)
    (refilled : Option (Except (SessionError τ) Unit) × EmbeddedTlsPskSession σ bufferSize) : Prop where
  standing : ∃ whole rest, sent = whole ++ rest ∧
    Standing server events { stream with session := refilled.2, incoming := left, pending := none } whole rest
  again : refilled.1 = none → refilled.2.closed = false ∧ refilled.2.plain.unread = []
  empty : ∀ result, refilled.1 = some result → (refilled.2.endRead room result).1 = .ok [] →
    Ended sent events ∨ room = 0 ∨ ∃ record, .appData record [] ∈ sent

theorem plaintexts_append (before after : List PeerRecord) :
    plaintexts (before ++ after) = plaintexts before ++ plaintexts after := List.flatMap_append

theorem Standing.fetched {item : PeerRecord} {later : List PeerRecord} {left : List Bytes} (room : Nat)
    (standing : Standing server events stream whole (item :: later)) (running : stream.session.closed = false)
    (drained : stream.session.plain.unread = [])
    (decrypts : Decrypts server bufferSize stream.session.inner (item :: later))
    (arrived : received events = wireBytes (whole ++ [item]) ++ left.flatten) (nonempty : [] ∉ left) :
    Refilled server events stream (whole ++ item :: later) room left
      (stream.session.refillPlaintext server (.ok item.record.bytes)) := by
  have split : whole ++ item :: later = whole ++ [item] ++ later := by simp
  have read : delivered events = plaintexts whole := by simpa [drained] using standing.plaintext
  have here : received events = wireBytes (whole ++ [item]) ++ [] ++ left.flatten := by simpa using arrived
  have refill := decrypts.refill (τ := τ)
  generalize stream.session.refillPlaintext server (.ok item.record.bytes) = refilled at refill ⊢
  cases refill with
  | skipped rest =>
    refine ⟨⟨_, later, split, ?_, nonempty, by simp, .inStep here (fun _ => rest) (by simp), standing.finished,
      split ▸ standing.closed⟩, fun _ => ⟨running, drained⟩, nofun⟩
    rw [plaintexts_append, read, drained]
    rfl
  | @filled record found next rest =>
    refine ⟨⟨_, later, split, ?_, nonempty, by simp, .inStep here (fun _ => rest) (by simp), standing.finished,
      split ▸ standing.closed⟩, nofun, ?_⟩
    · rw [plaintexts_append, read, PlainBuffer.unread_fill]
      simp [plaintexts, PeerRecord.plaintext]
    · rintro _ ⟨⟩ empty
      have copied : found.items.take room = [] := by
        simpa [EmbeddedTlsPskSession.endRead, EmbeddedTlsPskSession.copyPlaintext, PlainBuffer.copy_fst] using empty
      rcases List.take_eq_nil_iff.mp copied with none | empty
      · exact .inr (.inl none)
      · exact .inr (.inr ⟨record, by simp [empty]⟩)
  | alerted =>
    have ended : Ended (whole ++ .alert _ :: later) events := .inr (.inr ⟨whole, _, later, rfl, _, arrived.symm⟩)
    refine ⟨⟨_, later, split, ?_, nonempty, by simp, .inStep here nofun (by simp), standing.finished,
      fun _ => split ▸ ended⟩, nofun, fun _ _ _ => .inl ended⟩
    rw [plaintexts_append, read, drained]
    rfl

theorem Standing.refill {pending : PendingRead τ} {fetched : Except (SessionError τ) Bytes} {taken : Bytes}
    {left : List Bytes} (standing : Standing server events stream whole rest) (pends : stream.pending = some pending)
    (arrives : received events <+: wireBytes (whole ++ rest))
    (fits : ∀ item ∈ rest, item.record.bytes.length ≤ bufferSize)
    (polled : pending.fetch.poll stream.ending stream.incoming = ⟨.ofExcept fetched, taken, left⟩) :
    Refilled server events stream (whole ++ rest) pending.room left
      (stream.session.refillPlaintext server fetched) := by
  obtain ⟨running, drained⟩ := standing.waiting pending pends
  have polling := standing.poll pends arrives fits
  rw [polled] at polling
  cases fetched with
  | error error =>
    cases polling with
    | failed cause position =>
      refine ⟨⟨whole, rest, rfl, standing.plaintext, by simp, by simp, position, standing.finished, standing.closed⟩,
        nofun, ?_⟩
      rintro _ ⟨⟩ empty
      rcases cause with rfl | ⟨reason, ended, rfl⟩
      · cases empty
      · cases reason with
        | closed => exact .inl (.inr (.inl (standing.finished _ ended)))
        | failed error => cases empty
  | ok record =>
    cases polling with
    | fetched front decrypts arrived nonempty =>
      subst front
      exact standing.fetched pending.room running drained decrypts arrived nonempty

def Aligned (server : TlsServerSession σ) (sent : List PeerRecord) (events : List (StreamEvent τ))
    (stream : TlsStream τ σ bufferSize) : Prop :=
  ∃ whole rest, sent = whole ++ rest ∧ Standing server events stream whole rest

variable {sent : List PeerRecord} {next : TlsStream τ σ bufferSize} {label : StreamLabel τ}
  {new : List (StreamEvent τ)}

theorem Aligned.move (aligned : Aligned server sent events stream) (move : Move server stream label next new)
    (arrives : received events <+: wireBytes sent) (fits : ∀ item ∈ sent, item.record.bytes.length ≤ bufferSize)
    (kept : label = .drop → stream.taken = []) : Aligned server sent (events ++ new) next := by
  obtain ⟨whole, rest, rfl, standing⟩ := aligned
  have later : ∀ item ∈ rest, item.record.bytes.length ≤ bufferSize :=
    fun item member => fits item (List.mem_append_right _ member)
  cases move with
  | arrived nonempty running => exact ⟨whole, rest, rfl, standing.arrive nonempty running⟩
  | finished => exact ⟨whole, rest, rfl, standing.finish⟩
  | answered idle answer => exact ⟨whole, rest, rfl, standing.answer idle (beginRead_handsOut answer)⟩
  | started idle drained =>
    obtain ⟨running, empty⟩ := beginRead_eq_none drained
    rw [List.append_nil]
    exact ⟨whole, rest, rfl, standing.start idle running empty _⟩
  | waited pends polled =>
    have polling := standing.poll pends arrives later
    rw [polled] at polling
    rw [List.append_nil]
    cases polling with
    | still position =>
      exact ⟨whole, rest, rfl, standing.plaintext, by simp, fun _ _ => standing.waiting _ pends, position,
        standing.finished, standing.closed⟩
  | skipped pends polled again =>
    have refilled := standing.refill pends arrives later polled
    rw [again] at refilled
    obtain ⟨read, unread, split, stands⟩ := refilled.standing
    obtain ⟨running, empty⟩ := refilled.again rfl
    rw [List.append_nil]
    exact ⟨read, unread, split, stands.start rfl running empty _⟩
  | refilled pends polled filled =>
    have refilled := standing.refill pends arrives later polled
    rw [filled] at refilled
    obtain ⟨read, unread, split, stands⟩ := refilled.standing
    exact ⟨read, unread, split, stands.answer rfl (endRead_handsOut ..)⟩
  | dropped =>
    rw [List.append_nil]
    exact ⟨whole, rest, rfl, standing.drop (kept rfl)⟩
  | closed idle => exact ⟨whole, rest, rfl, standing.close idle⟩

-- An empty result has a reason: an end of the stream, unless a buffer or a record was empty.
theorem Aligned.empty (aligned : Aligned server sent events stream) (move : Move server stream label next new)
    (arrives : received events <+: wireBytes sent) (fits : ∀ item ∈ sent, item.record.bytes.length ≤ bufferSize)
    (roomy : ∀ pending ∈ stream.pending, 0 < pending.room) (asked : ∀ room, label = .read room → 0 < room)
    (full : ∀ record, .appData record [] ∉ sent) (empty : .returned (.ok []) ∈ new) : Ended sent events := by
  obtain ⟨whole, rest, rfl, standing⟩ := aligned
  have later : ∀ item ∈ rest, item.record.bytes.length ≤ bufferSize :=
    fun item member => fits item (List.mem_append_right _ member)
  cases move with
  | answered idle answer =>
    cases List.mem_singleton.mp empty
    rcases beginRead_empty answer with closed | none
    · exact standing.closed closed
    · exact absurd none (Nat.ne_of_gt (asked _ rfl))
  | refilled pends polled filled =>
    have refilled := standing.refill pends arrives later polled
    rw [filled] at refilled
    have nothing := StreamEvent.returned.inj (List.mem_singleton.mp empty)
    rcases refilled.empty _ rfl nothing.symm with ended | none | ⟨record, member⟩
    · exact ended
    · exact absurd none (Nat.ne_of_gt (roomy _ pends))
    · exact absurd member (full record)
  | _ => simp at empty

end

end PicoBroker
