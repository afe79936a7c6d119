import PicoBroker.Broker.SecureWires
import PicoBroker.Contracts.Framing
import PicoBroker.Contracts.Handshakes

set_option autoImplicit false

namespace PicoBroker

open Execution (Run Anything exec exec_cons)
open Resumption (Reads)
open TlsStream (received delivered)
open SecureWire (streamed packets)

variable {τ σ ω : Type} {bufferSize : Nat} {env : Env} {server : TlsServerSession σ}

-- Each direction has keys and a counter of its own.
def TlsServerSession.Duplex (server : TlsServerSession σ) (bufferSize : Nat) : Prop :=
  ∀ inner plaintext records, Decrypts server bufferSize inner records →
    Decrypts server bufferSize (server.encryptAppData bufferSize inner plaintext).2 records

def SecureLabel.wakes : SecureLabel τ → Bool
  | .wake => true
  | _ => false

-- A wake-up finds no part of a record and no part of a frame.
def CleanWakes (wire : SecureWire τ σ bufferSize) (label : SecureLabel τ) : Prop :=
  label.wakes = true → wire.frameBuf = [] ∧ wire.stream.taken = []

instance (wire : SecureWire τ σ bufferSize) (label : SecureLabel τ) : Decidable (CleanWakes wire label) :=
  inferInstanceAs (Decidable (_ → _))

section

variable {events : List (StreamEvent τ)} {stream next : TlsStream τ σ bufferSize} {whole rest sent : List PeerRecord}
  {wire : SecureWire τ σ bufferSize} {room : Nat}

theorem write_session (server : TlsServerSession σ) (stream : TlsStream τ σ bufferSize) (buf : Bytes)
    (result : Except τ Unit) :
    SecureWire.write server stream buf result = stream ∨ ∃ plaintext, SecureWire.write server stream buf result =
      { stream with session := { stream.session with
        inner := (server.encryptAppData bufferSize stream.session.inner plaintext).2 } } := by
  unfold SecureWire.write Outgoing.write
  dsimp only
  split
  · exact .inl rfl
  · split
    · exact .inl rfl
    · split
      · exact .inl rfl
      · refine .inr ⟨buf.take (Outgoing.chunkLen bufferSize buf), ?_⟩
        split
        · next encrypted => rw [encrypted]
        · next encrypted =>
          rw [encrypted]
          split <;> rfl

theorem Aligned.write (aligned : Aligned server sent events stream) (duplex : server.Duplex bufferSize)
    (buf : Bytes) (result : Except τ Unit) :
    Aligned server sent events (SecureWire.write server stream buf result) := by
  rcases write_session server stream buf result with same | ⟨plaintext, same⟩
  · rw [same]
    exact aligned
  · rw [same]
    obtain ⟨whole, rest, split, standing⟩ := aligned
    refine ⟨whole, rest, split, standing.plaintext, standing.nonempty, standing.waiting, ?_, standing.finished,
      standing.closed⟩
    cases standing.position with
    | inStep arrived decrypts fetching =>
      exact .inStep arrived (fun running => duplex _ _ _ (decrypts running)) fetching
    | atEnd ended drained unbegun => exact .atEnd ended drained unbegun

def Asked (wire : SecureWire τ σ bufferSize) : Prop :=
  ∀ pending ∈ wire.stream.pending, ∃ next, wire.future = .read pending.room next

theorem Asked.same_room {resume : Answer (TlsTransportError (SessionError τ)) UInt8 → SecureReader τ} (asked : Asked wire)
    (asks : wire.future = .read room resume) : ∀ pending ∈ wire.stream.pending, pending.room = room := by
  intro pending waiting
  obtain ⟨_, known⟩ := asked pending waiting
  cases known.symm.trans asks
  rfl

theorem reading_ne_drop : wire.reading room ≠ .drop := by
  unfold SecureWire.reading
  split <;> nofun

-- No `read` returns more than it was asked for.
theorem reading_fits {result : Except (SessionError τ) Bytes}
    (moved : TlsStream.Move server wire.stream (wire.reading room) next [.returned result])
    (same : ∀ pending ∈ wire.stream.pending, pending.room = room) :
    (result.toOption.getD []).length ≤ room ∧ next.pending = none := by
  generalize label : wire.reading room = reading at moved
  generalize shown : [StreamEvent.returned result] = events at moved
  cases moved with
  | arrived | finished | started | waited | skipped | dropped | closed => simp at shown
  | answered idle answer =>
    cases shown
    obtain rfl : room = _ := by simpa [SecureWire.reading, idle] using label
    have begun := beginRead_begun (τ := τ) wire.stream.session room
    rw [answer] at begun
    refine ⟨?_, idle⟩
    cases begun with
    | incomplete | closed => exact Nat.zero_le _
    | copied => exact List.length_take_le ..
  | @refilled pending fetched taken left session refilled waiting polled filled =>
    cases shown
    obtain rfl := same pending waiting
    refine ⟨?_, rfl⟩
    unfold EmbeddedTlsPskSession.endRead
    split
    · rw [EmbeddedTlsPskSession.copyPlaintext, PlainBuffer.copy_fst]
      exact List.length_take_le ..
    all_goals exact Nat.zero_le _

-- A `read` that goes on is still the same one.
theorem reading_asks (moved : TlsStream.Move server wire.stream (wire.reading room) next [])
    (same : ∀ pending ∈ wire.stream.pending, pending.room = room) :
    ∀ pending ∈ next.pending, pending.room = room := by
  generalize label : wire.reading room = reading at moved
  generalize shown : ([] : List (StreamEvent τ)) = events at moved
  cases moved with
  | arrived | finished | answered | refilled | closed => cases shown
  | started idle =>
    obtain rfl : room = _ := by simpa [SecureWire.reading, idle] using label
    rintro _ ⟨⟩
    rfl
  | waited waiting | skipped waiting =>
    have known := same _ waiting
    rintro _ ⟨⟩
    exact known
  | dropped => rintro _ ⟨⟩

end

section

variable {earlier : List (StreamEvent τ)} {events new : List (SecureEvent τ)} {wire next : SecureWire τ σ bufferSize}
  {label : SecureLabel τ} {sent : List PeerRecord} {before after : List (Bytes × Packet)} {room : Nat}
  {resume : Answer (TlsTransportError (SessionError τ)) UInt8 → SecureReader τ}

def Proceeds (env : Env) : List (Bytes × Packet) → SecureWire τ σ bufferSize → Prop
  | [], wire => wire.frameBuf = [] ∧ wire.future = readPacket env.codec env.maxPacketSize
  | frame :: _, wire =>
      ∃ missing, frame.1 = wire.frameBuf ++ missing ∧ Reads ReadError.onEnd wire.future missing (.ok frame.2)

theorem proceeds_new (wellFormed : ∀ frame ∈ after, env.IsFrame frame) (stream : TlsStream τ σ bufferSize) :
    Proceeds env after (.new env stream) := by
  cases after with
  | nil => exact ⟨rfl, rfl⟩
  | cons frame rest => exact ⟨frame.1, rfl, readPacket_reads (wellFormed frame List.mem_cons_self)⟩

-- `read_packet` reads the header of any frame first.
theorem readPacket_first (codec : Codec) (maxPacketSize : Nat) :
    (∃ error, (readPacket codec maxPacketSize : PacketReader τ Packet) = .fail error) ∨
      Reads ReadError.onEnd (readPacket codec maxPacketSize : PacketReader τ Packet) [0, 0]
        (decodeFrame codec [0, 0]) := by
  by_cases enough : 2 ≤ maxPacketSize
  · have empty : LengthField [0] ([] : Bytes).length := LengthField.last (by decide)
    exact .inr (readPacket_frame (by decide) empty enough)
  · have first : (readSlice maxPacketSize 0 2 : PacketReader τ Bytes) = .fail .outOfBounds := if_neg enough
    exact .inl ⟨.outOfBounds, by rw [readPacket_eq, first]; rfl⟩

theorem Proceeds.of_done {packet : Packet} (proceeds : Proceeds env after wire)
    (ready : wire.future = .done packet) :
    ∃ frame rest, after = frame :: rest ∧ packet = frame.2 ∧ wire.frameBuf = frame.1 := by
  cases after with
  | nil =>
    have fresh := proceeds.2.symm.trans ready
    rcases readPacket_first (τ := TlsTransportError (SessionError τ)) env.codec env.maxPacketSize with
      ⟨error, failed⟩ | reads
    · cases failed.symm.trans fresh
    · rw [fresh] at reads
      cases reads.1
  | cons frame rest =>
    obtain ⟨missing, split, reads⟩ := proceeds
    rw [ready] at reads
    obtain ⟨rfl, same⟩ := reads
    cases same
    exact ⟨frame, rest, rfl, rfl, by rw [split, List.append_nil]⟩

theorem Proceeds.of_read (proceeds : Proceeds env after wire) (asks : wire.future = .read room resume) :
    0 < room ∧ ∀ ending : Ending (TlsTransportError (SessionError τ)),
      resume ending.answer = .fail (ReadError.onEnd ending) := by
  obtain ⟨frame, result, reads⟩ : ∃ frame result, Reads ReadError.onEnd wire.future frame result := by
    cases after with
    | nil =>
      rcases readPacket_first (τ := TlsTransportError (SessionError τ)) env.codec env.maxPacketSize with
        ⟨error, failed⟩ | reads
      · cases failed.symm.trans (proceeds.2.symm.trans asks)
      · exact ⟨_, _, proceeds.2 ▸ reads⟩
    | cons frame rest =>
      obtain ⟨missing, _, reads⟩ := proceeds
      exact ⟨_, _, reads⟩
  rw [asks] at reads
  exact ⟨reads.1, reads.2.2.1⟩

theorem Proceeds.feed {piece : Bytes} {stream : TlsStream τ σ bufferSize}
    (proceeds : Proceeds env after wire) (asks : wire.future = .read room resume) (some : piece ≠ [])
    (fits : piece.length ≤ room) (front : wire.frameBuf ++ piece <+: frameBytes after) :
    Proceeds env after ⟨stream, wire.frameBuf ++ piece, resume (.ok piece)⟩ := by
  cases after with
  | nil => exact absurd (List.append_eq_nil_iff.mp (List.prefix_nil.mp front)).2 some
  | cons frame rest =>
    obtain ⟨missing, split, reads⟩ := proceeds
    rw [asks] at reads
    obtain ⟨_, enough, _, pieces⟩ := reads
    rw [frameBytes, List.map_cons, List.flatten_cons, split, List.append_assoc, List.prefix_append_right_inj] at front
    obtain ⟨more, rfl⟩ : piece <+: missing :=
      List.prefix_of_prefix_length_le front (List.prefix_append ..) (fits.trans enough)
    exact ⟨more, by rw [split, List.append_assoc], pieces piece more some fits rfl⟩

structure Conveyed (env : Env) (server : TlsServerSession σ) (sent : List PeerRecord) (earlier : List (StreamEvent τ))
    (before after : List (Bytes × Packet)) (events : List (SecureEvent τ)) (wire : SecureWire τ σ bufferSize) :
    Prop where
  aligned : Aligned server sent (earlier ++ streamed events) wire.stream
  handled : packets events = before.map Prod.snd
  bytes : delivered (earlier ++ streamed events) = frameBytes before ++ wire.frameBuf
  future : (∃ error, wire.future = .fail error) ∨ Proceeds env after wire
  asked : Asked wire

theorem streamed_append (events new : List (SecureEvent τ)) :
    streamed (events ++ new) = streamed events ++ streamed new := List.filterMap_append

theorem packets_append (events new : List (SecureEvent τ)) :
    packets (events ++ new) = packets events ++ packets new := List.filterMap_append

@[simp] theorem streamed_stream (events : List (StreamEvent τ)) : streamed (events.map .stream) = events := by
  simp [streamed, List.filterMap_map]

@[simp] theorem packets_stream (events : List (StreamEvent τ)) : packets (events.map .stream) = [] := by
  simp [packets, List.filterMap_map]

-- The session moves and nothing is read.
theorem Conveyed.quiet {stream : TlsStream τ σ bufferSize} {shown : List (StreamEvent τ)}
    (conveyed : Conveyed env server sent earlier before after events wire)
    (aligned : Aligned server sent (earlier ++ streamed events ++ shown) stream) (nothing : delivered shown = [])
    (asked : Asked { wire with stream := stream }) :
    Conveyed env server sent earlier before after (events ++ shown.map .stream) { wire with stream := stream } where
  aligned := by
    rw [streamed_append, streamed_stream, ← List.append_assoc]
    exact aligned
  handled := by rw [packets_append, packets_stream, List.append_nil, conveyed.handled]
  bytes := by
    rw [streamed_append, streamed_stream, ← List.append_assoc, delivered_append, nothing, List.append_nil,
      conveyed.bytes]
  future := conveyed.future.imp_right fun proceeds => by
    cases after with
    | nil => exact proceeds
    | cons => exact proceeds
  asked := asked

theorem Conveyed.handle {packet : Packet} (conveyed : Conveyed env server sent earlier before after events wire)
    (ready : wire.future = .done packet) (wellFormed : ∀ frame ∈ after, env.IsFrame frame) :
    ∃ frame rest, after = frame :: rest ∧
      Conveyed env server sent earlier (before ++ [frame]) rest (events ++ [.handled packet]) (wire.restart env) := by
  rcases conveyed.future with ⟨error, failed⟩ | proceeds
  · cases failed.symm.trans ready
  · obtain ⟨frame, rest, rfl, rfl, whole⟩ := proceeds.of_done ready
    have same : streamed (events ++ [.handled frame.2]) = streamed events := by
      rw [streamed_append]
      exact List.append_nil _
    refine ⟨frame, rest, rfl, ?_, ?_, ?_, .inr (proceeds_new ?_ _), ?_⟩
    · rw [same]
      exact conveyed.aligned
    · rw [packets_append, conveyed.handled, List.map_append]
      rfl
    · rw [same, conveyed.bytes, whole, frameBytes_append]
      simp [frameBytes, SecureWire.restart, SecureWire.new]
    · exact fun other member => wellFormed other (List.mem_cons_of_mem _ member)
    · intro pending waiting
      obtain ⟨_, asks⟩ := conveyed.asked pending waiting
      cases asks.symm.trans ready

theorem delivered_returned (events : List (StreamEvent τ)) (result : Except (SessionError τ) Bytes) :
    delivered (events ++ [.returned result]) = delivered events ++ result.toOption.getD [] := by
  rw [delivered_append]
  simp [delivered]

theorem Conveyed.feed {stream : TlsStream τ σ bufferSize} {piece : Bytes}
    (conveyed : Conveyed env server sent earlier before after events wire)
    (aligned : Aligned server sent (earlier ++ streamed events ++ [.returned (.ok piece)]) stream)
    (asks : wire.future = .read room resume) (some : piece ≠ []) (fits : piece.length ≤ room)
    (carries : plaintexts sent <+: frameBytes (before ++ after)) :
    Proceeds env after ⟨stream, wire.frameBuf ++ piece, resume (.ok piece)⟩ := by
  rcases conveyed.future with ⟨error, failed⟩ | proceeds
  · cases failed.symm.trans asks
  · refine proceeds.feed asks some fits ?_
    have front := aligned.inOrder.trans carries
    rwa [delivered_returned, conveyed.bytes, List.append_assoc, frameBytes_append,
      List.prefix_append_right_inj] at front

theorem Conveyed.read {stream : TlsStream τ σ bufferSize} {result : Except (SessionError τ) Bytes}
    (conveyed : Conveyed env server sent earlier before after events wire)
    (aligned : Aligned server sent (earlier ++ streamed events ++ [.returned result]) stream)
    (asks : wire.future = .read room resume) (fits : (result.toOption.getD []).length ≤ room)
    (idle : stream.pending = none) (carries : plaintexts sent <+: frameBytes (before ++ after)) :
    Conveyed env server sent earlier before after (events ++ [.stream (.returned result)])
      ⟨stream, wire.frameBuf ++ result.toOption.getD [], resume (result.mapError .tls)⟩ := by
  have same : streamed (events ++ [.stream (.returned result)]) = streamed events ++ [.returned result] :=
    streamed_append ..
  refine ⟨?_, ?_, ?_, ?_, ?_⟩
  · rw [same, ← List.append_assoc]
    exact aligned
  · rw [packets_append, conveyed.handled]
    exact List.append_nil _
  · rw [same, ← List.append_assoc, delivered_returned, conveyed.bytes, List.append_assoc]
  · rcases conveyed.future with ⟨error, failed⟩ | proceeds
    · cases failed.symm.trans asks
    · obtain ⟨_, ends⟩ := proceeds.of_read asks
      rcases result with error | piece
      · exact .inl ⟨_, ends (.failed (.tls error))⟩
      · by_cases empty : piece = []
        · subst empty
          exact .inl ⟨_, ends .closed⟩
        · exact .inr (conveyed.feed aligned asks empty fits carries)
  · intro pending waiting
    cases idle.symm.trans waiting

theorem Conveyed.wait {stream : TlsStream τ σ bufferSize}
    (conveyed : Conveyed env server sent earlier before after events wire)
    (moved : TlsStream.Move server wire.stream (wire.reading room) stream []) (asks : wire.future = .read room resume)
    (arrives : received (earlier ++ streamed events) <+: wireBytes sent)
    (fits : ∀ item ∈ sent, item.record.bytes.length ≤ bufferSize) :
    Conveyed env server sent earlier before after (events ++ []) { wire with stream := stream } := by
  have aligned := conveyed.aligned.move moved arrives fits fun drop => absurd drop reading_ne_drop
  refine conveyed.quiet aligned rfl fun pending waiting => ?_
  obtain rfl := reading_asks moved (conveyed.asked.same_room asks) pending waiting
  exact ⟨resume, asks⟩

theorem Conveyed.move (conveyed : Conveyed env server sent earlier before after events wire)
    (move : SecureWire.Move env server wire label next new)
    (arrives : received (earlier ++ streamed events) <+: wireBytes sent)
    (fits : ∀ item ∈ sent, item.record.bytes.length ≤ bufferSize) (duplex : server.Duplex bufferSize)
    (wellFormed : ∀ frame ∈ before ++ after, env.IsFrame frame)
    (carries : plaintexts sent <+: frameBytes (before ++ after)) (clean : CleanWakes wire label) :
    ∃ before' after', before ++ after = before' ++ after' ∧
      Conveyed env server sent earlier before' after' (events ++ new) next := by
  have ahead : ∀ frame ∈ after, env.IsFrame frame := fun frame member =>
    wellFormed frame (List.mem_append_right _ member)
  cases move with
  | arrived moved =>
    refine ⟨before, after, rfl, conveyed.quiet (conveyed.aligned.move moved arrives fits nofun) ?_ ?_⟩
    · cases moved
      rfl
    · cases moved
      exact conveyed.asked
  | finished moved =>
    refine ⟨before, after, rfl, conveyed.quiet (conveyed.aligned.move moved arrives fits nofun) ?_ ?_⟩
    · cases moved
      rfl
    · cases moved
      exact conveyed.asked
  | handled ready =>
    obtain ⟨frame, rest, rfl, handled⟩ := conveyed.handle ready ahead
    exact ⟨before ++ [frame], rest, by simp, handled⟩
  | waited asks moved =>
    exact ⟨before, after, rfl, conveyed.wait moved asks arrives fits⟩
  | @read room stream result resume asks moved =>
    have aligned := conveyed.aligned.move moved arrives fits fun drop => absurd drop reading_ne_drop
    obtain ⟨small, idle⟩ := reading_fits moved (conveyed.asked.same_room asks)
    exact ⟨before, after, rfl, conveyed.read aligned asks small idle carries⟩
  | @woken stream moved =>
    obtain ⟨empty, untaken⟩ := clean rfl
    have aligned := conveyed.aligned.move moved arrives fits fun _ => untaken
    refine ⟨before, after, rfl, ?_, ?_, ?_, .inr (proceeds_new ahead _), ?_⟩
    · simpa [SecureWire.new] using aligned
    · simpa using conveyed.handled
    · simpa [SecureWire.new, empty] using conveyed.bytes
    · cases moved
      rintro _ ⟨⟩
  | @wrote buf result idle =>
    have same : (SecureWire.write server wire.stream buf result).pending = none := by
      rcases write_session server wire.stream buf result with same | ⟨_, same⟩ <;> rw [same] <;> exact idle
    have aligned : Aligned server sent (earlier ++ streamed events ++ [])
        (SecureWire.write server wire.stream buf result) := by
      rw [List.append_nil]
      exact conveyed.aligned.write duplex buf result
    refine ⟨before, after, rfl, conveyed.quiet aligned rfl fun pending waiting => ?_⟩
    cases same.symm.trans waiting

end

structure Talkative (bufferSize : Nat) (sent : List PeerRecord) : Prop where
  full : ∀ record, .appData record [] ∉ sent
  unalerted : ∀ record, .alert record ∉ sent
  room : recordHeaderLen ≤ bufferSize

section

variable {events new : List (StreamEvent τ)} {stream next : TlsStream τ σ bufferSize} {pending : PendingRead τ}
  {whole rest sent : List PeerRecord} {item : PeerRecord} {later : List PeerRecord} {room : Nat}

theorem Fetching.reads (fetching : Fetching bufferSize (item :: later) pending)
    (fits : item.record.bytes.length ≤ bufferSize) :
    ∃ missing, item.record.bytes = pending.taken ++ missing ∧
      Reads SessionError.onEnd pending.fetch missing (.ok item.record.bytes) := by
  cases fetching with
  | unbegun => exact ⟨item.record.bytes, rfl, fetchRecord_reads fits⟩
  | within front cut reads =>
    cases front
    exact ⟨_, cut, reads⟩

-- On an open transport a fetch gets the next record or waits for the rest of it.
inductive Fetched (stream : TlsStream τ σ bufferSize) (pending : PendingRead τ) (rest : List PeerRecord) :
    Resumption.Polled τ UInt8 (SessionError τ) Bytes → Prop
  | whole {item : PeerRecord} {later : List PeerRecord} {taken : Bytes} {left : List Bytes}
      (front : rest = item :: later)
      (split : pending.taken ++ stream.incoming.flatten = item.record.bytes ++ left.flatten) :
      Fetched stream pending rest ⟨.done item.record.bytes, taken, left⟩
  | part {room : Nat} {next : Answer τ UInt8 → RecordReader τ Bytes} {taken : Bytes} {left : List Bytes}
      (short : ∀ item later, rest = item :: later →
        (pending.taken ++ stream.incoming.flatten).length < item.record.bytes.length) :
      Fetched stream pending rest ⟨.read room next, taken, left⟩

theorem fetchRecord_waits (enough : recordHeaderLen ≤ bufferSize) :
    ∃ room next, (fetchRecord bufferSize : RecordReader τ Bytes).poll none [] = ⟨.read room next, [], []⟩ := by
  have first : (readExactInto bufferSize 0 recordHeaderLen : RecordReader τ Bytes) =
      .exactly SessionError.onEnd recordHeaderLen := by
    rw [readExactInto, Nat.zero_add, if_neg (Nat.not_lt.mpr enough)]
  rw [Resumption.exactly, if_neg (by decide)] at first
  rw [fetchRecord, first]
  exact ⟨_, _, rfl⟩

theorem Standing.fetches (standing : Standing server events stream whole rest) (pends : stream.pending = some pending)
    (arrives : received events <+: wireBytes (whole ++ rest))
    (fits : ∀ item ∈ rest, item.record.bytes.length ≤ bufferSize) (enough : recordHeaderLen ≤ bufferSize)
    (running : stream.ending = none) :
    Fetched stream pending rest (pending.fetch.poll stream.ending stream.incoming) := by
  cases standing.position with
  | atEnd ended => exact absurd running ended
  | inStep arrived decrypts fetching =>
    have taken : stream.taken = pending.taken := by simp [TlsStream.taken, pends]
    rw [taken] at arrived
    rw [arrived, wireBytes_append, List.append_assoc, List.prefix_append_right_inj] at arrives
    cases rest with
    | nil =>
      obtain ⟨untaken, empty⟩ := List.append_eq_nil_iff.mp (List.prefix_nil.mp arrives)
      have nothing : stream.incoming = [] := eq_nil_of_flatten_eq_nil standing.nonempty empty
      obtain ⟨room, rfl⟩ : ∃ room, pending = .new bufferSize room := by
        cases fetching pending pends with
        | unbegun => exact ⟨_, rfl⟩
        | within front => cases front
      obtain ⟨wanted, next, polled⟩ := fetchRecord_waits (τ := τ) enough
      rw [running, nothing, PendingRead.new, polled]
      refine .part fun item later front => ?_
      cases front
    | cons item later =>
      obtain ⟨missing, cut, reads⟩ := (fetching pending pends).reads (fits item List.mem_cons_self)
      rw [wireBytes_cons, cut, List.append_assoc, List.prefix_append_right_inj] at arrives
      have outcome := reads.poll stream.ending standing.nonempty
        (List.prefix_or_prefix_of_prefix arrives (List.prefix_append _ _)).symm
      generalize pending.fetch.poll stream.ending stream.incoming = polled at outcome ⊢
      cases outcome with
      | finished all => exact .whole rfl (by rw [all, cut, List.append_assoc])
      | waiting part reads =>
        refine .part fun same others front => ?_
        cases front
        have more := List.length_pos_iff.mpr reads.ne_nil
        rw [cut, part]
        simp only [List.length_append]
        omega
      | ended _ _ done => cases running.symm.trans done

structure Flows (stream : TlsStream τ σ bufferSize) : Prop where
  done : stream.session.handshakeDone = true
  running : stream.session.closed = false

def TlsStream.work (stream : TlsStream τ σ bufferSize) : Nat :=
  2 * (stream.taken.length + stream.incoming.flatten.length) + if stream.pending.isSome then 0 else 1

inductive Reading (stream : TlsStream τ σ bufferSize) (rest : List PeerRecord) (next : TlsStream τ σ bufferSize) :
    List (StreamEvent τ) → Prop
  | returned {piece : Bytes} (some : piece ≠ []) (less : next.work ≤ stream.work) :
      Reading stream rest next [.returned (.ok piece)]
  | advanced (less : next.work < stream.work) : Reading stream rest next []
  | short (drained : stream.session.plain.unread = []) (short : ∀ item later, rest = item :: later →
      (stream.taken ++ stream.incoming.flatten).length < item.record.bytes.length) :
      Reading stream rest next []

theorem take_ne_nil {bytes : Bytes} (positive : 0 < room) (some : bytes ≠ []) : bytes.take room ≠ [] := by
  rw [ne_eq, List.take_eq_nil_iff]
  rintro (rfl | empty)
  · omega
  · exact some empty

theorem TlsRecord.bytes_pos (record : TlsRecord) : 0 < record.bytes.length := by
  simp [TlsRecord.bytes]

theorem Standing.decrypts (standing : Standing server events stream whole rest) (running : stream.ending = none)
    (flows : Flows stream) : Decrypts server bufferSize stream.session.inner rest := by
  cases standing.position with
  | inStep _ decrypts => exact decrypts flows.running
  | atEnd ended => exact absurd running ended

theorem work_lt {left : List Bytes} (pends : stream.pending = some pending)
    (split : pending.taken ++ stream.incoming.flatten = item.record.bytes ++ left.flatten) :
    2 * left.flatten.length + 1 < stream.work := by
  have taken : stream.taken = pending.taken := by simp [TlsStream.taken, pends]
  have lengths := congrArg List.length split
  have positive := item.record.bytes_pos
  rw [List.length_append, List.length_append] at lengths
  simp only [TlsStream.work, pends, Option.isSome_some, if_true, taken]
  omega

theorem Standing.reads_poll {shown : List (StreamEvent τ)} (standing : Standing server events stream whole rest)
    (flows : Flows stream) (running : stream.ending = none) (talkative : Talkative bufferSize (whole ++ rest))
    (arrives : received events <+: wireBytes (whole ++ rest))
    (fits : ∀ item ∈ whole ++ rest, item.record.bytes.length ≤ bufferSize)
    (pends : stream.pending = some pending) (positive : 0 < pending.room)
    (moved : TlsStream.Move server stream .poll next shown) :
    Reading stream rest next shown ∧ Flows next ∧ next.ending = none := by
  have taken : stream.taken = pending.taken := by simp [TlsStream.taken, pends]
  have fetches := standing.fetches pends arrives (fun item member => fits item (List.mem_append_right _ member))
    talkative.room running
  have decrypts := standing.decrypts running flows
  cases moved with
  | waited waiting polled =>
    cases pends.symm.trans waiting
    rw [polled] at fetches
    cases fetches with
    | part short =>
      exact ⟨.short (standing.waiting pending pends).2 (taken ▸ short), ⟨flows.done, flows.running⟩, running⟩
  | @skipped _ fetched _ left session waiting polled again =>
    cases pends.symm.trans waiting
    rw [polled] at fetches
    cases fetched with
    | error => cases fetches
    | ok record =>
      cases fetches with
      | whole front split =>
        subst front
        have refill := decrypts.refill (τ := τ)
        rw [again] at refill
        cases refill with
        | skipped =>
          refine ⟨.advanced (Nat.lt_of_le_of_lt ?_ (work_lt pends split)), ⟨flows.done, flows.running⟩, running⟩
          simp [TlsStream.work, TlsStream.taken, PendingRead.new]
  | @refilled _ fetched _ left session result waiting polled filled =>
    cases pends.symm.trans waiting
    rw [polled] at fetches
    cases fetched with
    | error => cases fetches
    | ok record =>
      cases fetches with
      | whole front split =>
        subst front
        have refill := decrypts.refill (τ := τ)
        rw [filled] at refill
        cases refill with
        | @filled record found =>
          have more : found.items ≠ [] := fun empty => talkative.full record (by simp [empty])
          simp only [EmbeddedTlsPskSession.endRead, EmbeddedTlsPskSession.copyPlaintext, PlainBuffer.copy_fst,
            PlainBuffer.unread_fill]
          refine ⟨.returned (take_ne_nil positive more) ?_, ⟨flows.done, flows.running⟩, running⟩
          refine Nat.le_of_lt (Nat.lt_of_le_of_lt ?_ (work_lt pends split))
          simp [TlsStream.work, TlsStream.taken]
        | alerted => exact absurd (List.mem_append_right whole List.mem_cons_self) (talkative.unalerted _)

theorem reads_begin {shown : List (StreamEvent τ)} (flows : Flows stream) (running : stream.ending = none)
    (idle : stream.pending = none) (positive : 0 < room)
    (moved : TlsStream.Move server stream (.read room) next shown) :
    Reading stream rest next shown ∧ Flows next ∧ next.ending = none := by
  cases moved with
  | started =>
    refine ⟨.advanced ?_, ⟨flows.done, flows.running⟩, running⟩
    simp [TlsStream.work, TlsStream.taken, PendingRead.new, idle]
  | @answered _ result session _ answer =>
    have begun := answer
    simp only [EmbeddedTlsPskSession.beginRead, flows.done, flows.running, Bool.not_true, Bool.false_eq_true,
      if_false] at begun
    split at begun
    · cases begun
    · next unread =>
      have more : stream.session.plain.unread ≠ [] := by
        refine List.length_pos_iff.mp ?_
        rw [PlainBuffer.length_unread]
        omega
      cases begun
      simp only [PlainBuffer.copy_fst]
      refine ⟨.returned (take_ne_nil positive more) ?_, ⟨flows.done, flows.running⟩, running⟩
      exact Nat.le_refl _

end

section

variable {earlier : List (StreamEvent τ)} {events new : List (SecureEvent τ)} {wire next : SecureWire τ σ bufferSize}
  {label : SecureLabel τ} {sent : List PeerRecord} {before after : List (Bytes × Packet)} {room : Nat}
  {resume : Answer (TlsTransportError (SessionError τ)) UInt8 → SecureReader τ}

def Lively (wire : SecureWire τ σ bufferSize) : Prop :=
  wire.stream.ending = none → Flows wire.stream ∧ ∀ error, wire.future ≠ .fail error

theorem Proceeds.ne_fail (proceeds : Proceeds env after wire) (big : 2 ≤ env.maxPacketSize)
    (error : ReadError (TlsTransportError (SessionError τ))) : wire.future ≠ .fail error := by
  intro failed
  cases after with
  | nil =>
    have empty : LengthField [0] ([] : Bytes).length := LengthField.last (by decide)
    have reads : Reads ReadError.onEnd (readPacket env.codec env.maxPacketSize : SecureReader τ) [0, 0] _ :=
      readPacket_frame (by decide) empty big
    rw [← proceeds.2, failed] at reads
    cases reads.1
  | cons frame rest =>
    obtain ⟨missing, _, reads⟩ := proceeds
    rw [failed] at reads
    cases reads.2

theorem Conveyed.reads {stream : TlsStream τ σ bufferSize} {shown : List (StreamEvent τ)}
    (conveyed : Conveyed env server sent earlier before after events wire) (lively : Lively wire)
    (arrives : received (earlier ++ streamed events) <+: wireBytes sent)
    (fits : ∀ item ∈ sent, item.record.bytes.length ≤ bufferSize) (talkative : Talkative bufferSize sent)
    (running : wire.stream.ending = none) (asks : wire.future = .read room resume)
    (moved : TlsStream.Move server wire.stream (wire.reading room) stream shown) :
    ∃ whole rest, sent = whole ++ rest ∧ Standing server (earlier ++ streamed events) wire.stream whole rest ∧
      Reading wire.stream rest stream shown ∧ Flows stream ∧ stream.ending = none := by
  obtain ⟨whole, rest, rfl, standing⟩ := conveyed.aligned
  obtain ⟨flows, _⟩ := lively running
  have positive : 0 < room := by
    rcases conveyed.future with ⟨error, failed⟩ | proceeds
    · cases failed.symm.trans asks
    · exact (proceeds.of_read asks).1
  refine ⟨whole, rest, rfl, standing, ?_⟩
  cases pends : wire.stream.pending with
  | none =>
    rw [SecureWire.reading, pends] at moved
    exact reads_begin flows running pends positive moved
  | some pending =>
    rw [SecureWire.reading, pends] at moved
    have same := conveyed.asked.same_room asks pending pends
    exact standing.reads_poll flows running talkative arrives fits pends (same ▸ positive) moved

theorem reading_ending {stream : TlsStream τ σ bufferSize} {shown : List (StreamEvent τ)}
    (moved : TlsStream.Move server wire.stream (wire.reading room) stream shown) :
    stream.ending = wire.stream.ending := by
  unfold SecureWire.reading at moved
  split at moved <;> cases moved <;> rfl

theorem Lively.move (lively : Lively wire) (conveyed : Conveyed env server sent earlier before after events wire)
    (move : SecureWire.Move env server wire label next new)
    (arrives : received (earlier ++ streamed events) <+: wireBytes sent)
    (fits : ∀ item ∈ sent, item.record.bytes.length ≤ bufferSize) (talkative : Talkative bufferSize sent)
    (carries : plaintexts sent <+: frameBytes (before ++ after)) (big : 2 ≤ env.maxPacketSize) : Lively next := by
  have fresh (stream : TlsStream τ σ bufferSize) : ∀ error, (SecureWire.new env stream).future ≠ .fail error :=
    have proceeds : Proceeds env [] (SecureWire.new env stream) := ⟨rfl, rfl⟩
    proceeds.ne_fail big
  intro still
  cases move with
  | arrived moved =>
    cases moved
    exact ⟨⟨(lively still).1.done, (lively still).1.running⟩, (lively still).2⟩
  | finished moved =>
    cases moved
    cases still
  | handled => exact ⟨(lively still).1, fresh _⟩
  | waited asks moved =>
    have running := (reading_ending moved).symm.trans still
    obtain ⟨_, _, _, _, _, flows, _⟩ := conveyed.reads lively arrives fits talkative running asks moved
    exact ⟨flows, (lively running).2⟩
  | read asks moved =>
    have running := (reading_ending moved).symm.trans still
    obtain ⟨_, _, _, _, reading, flows, _⟩ := conveyed.reads lively arrives fits talkative running asks moved
    have aligned := conveyed.aligned.move moved arrives fits fun drop => absurd drop reading_ne_drop
    obtain ⟨small, _⟩ := reading_fits moved (conveyed.asked.same_room asks)
    cases reading with
    | returned some => exact ⟨flows, (conveyed.feed aligned asks some small carries).ne_fail big⟩
  | woken moved =>
    cases moved
    exact ⟨⟨(lively still).1.done, (lively still).1.running⟩, fresh _⟩
  | @wrote buf result idle =>
    rcases write_session server wire.stream buf result with same | ⟨plaintext, same⟩
    · rw [same] at still ⊢
      exact lively still
    · rw [same] at still ⊢
      exact ⟨⟨(lively still).1.done, (lively still).1.running⟩, (lively still).2⟩

def SecureWire.effort (wire : SecureWire τ σ bufferSize) (frames : List (Bytes × Packet)) : Nat :=
  wire.stream.work + 2 * ((frameBytes frames).length - wire.frameBuf.length) + frames.length

-- Everything has arrived, so only the next record can be missing, and it is not.
theorem Standing.not_short {rest whole : List PeerRecord} {events : List (StreamEvent τ)}
    {stream : TlsStream τ σ bufferSize} (standing : Standing server events stream whole rest)
    (arrived : received events = wireBytes (whole ++ rest)) (running : stream.ending = none)
    (drained : stream.session.plain.unread = []) (missing : delivered events ≠ plaintexts (whole ++ rest))
    (short : ∀ item later, rest = item :: later →
      (stream.taken ++ stream.incoming.flatten).length < item.record.bytes.length) : False := by
  cases rest with
  | nil =>
    refine missing ?_
    rw [List.append_nil, ← standing.plaintext, drained, List.append_nil]
  | cons item later =>
    cases standing.position with
    | atEnd ended => exact ended running
    | inStep here =>
      have less := short item later rfl
      rw [arrived, wireBytes_append, wireBytes_cons, List.append_assoc] at here
      have lengths := congrArg List.length (List.append_cancel_left here)
      rw [List.length_append] at lengths
      omega

theorem step_poll {packet : Packet} (ready : wire.future = .done packet) :
    SecureWire.step env server wire .poll = some (wire.restart env, [.handled packet]) := by
  simp only [SecureWire.step, ready]

theorem step_read (server : TlsServerSession σ) (wire : SecureWire τ σ bufferSize) (room : Nat) :
    ∃ stream shown, TlsStream.step server wire.stream (wire.reading room) = some (stream, shown) := by
  cases pends : wire.stream.pending with
  | none =>
    simp only [SecureWire.reading, pends, Option.isSome_none, Bool.false_eq_true, if_false, TlsStream.step]
    split <;> exact ⟨_, _, rfl⟩
  | some pending => 
    simp only [SecureWire.reading, pends, Option.isSome_some, if_true, TlsStream.step]
    exact ⟨_, _, rfl⟩

structure Pending (env : Env) (server : TlsServerSession σ) (sent : List PeerRecord) (earlier : List (StreamEvent τ))
    (before after : List (Bytes × Packet)) (events : List (SecureEvent τ)) (wire : SecureWire τ σ bufferSize) :
    Prop where
  conveyed : Conveyed env server sent earlier before after events wire
  lively : Lively wire
  running : wire.stream.ending = none
  arrived : received (earlier ++ streamed events) = wireBytes sent

-- One poll handles the next packet or is a part of the work for it.
theorem Pending.poll {frame : Bytes × Packet} {rest : List (Bytes × Packet)}
    (pending : Pending env server sent earlier before (frame :: rest) events wire)
    (fits : ∀ item ∈ sent, item.record.bytes.length ≤ bufferSize) (talkative : Talkative bufferSize sent)
    (wellFormed : ∀ other ∈ before ++ frame :: rest, env.IsFrame other) (big : 2 ≤ env.maxPacketSize)
    (carries : plaintexts sent = frameBytes (before ++ frame :: rest)) :
    ∃ next new before' after', SecureWire.step env server wire .poll = some (next, new) ∧
      before ++ frame :: rest = before' ++ after' ∧
      Pending env server sent earlier before' after' (events ++ new) next ∧
      next.effort after' < wire.effort (frame :: rest) := by
  obtain ⟨conveyed, lively, running, arrived⟩ := pending
  have arrives : received (earlier ++ streamed events) <+: wireBytes sent := arrived ▸ List.prefix_rfl
  have within : plaintexts sent <+: frameBytes (before ++ frame :: rest) := carries ▸ List.prefix_rfl
  have total : (frameBytes (frame :: rest)).length = frame.1.length + (frameBytes rest).length := by
    simp [frameBytes]
  obtain ⟨flows, alive⟩ := lively running
  have living : ¬ ∃ error, wire.future = .fail error := not_exists.mpr alive
  obtain ⟨missing, cut, reads⟩ := conveyed.future.resolve_left living
  have lengths := congrArg List.length cut
  rw [List.length_append] at lengths
  cases asks : wire.future with
  | fail error => exact absurd asks (alive error)
  | done packet =>
    have stepped : SecureWire.step env server wire .poll = _ := step_poll asks
    obtain ⟨_, _, same, handled⟩ := conveyed.handle asks fun other member =>
      wellFormed other (List.mem_append_right _ member)
    cases same
    rw [asks] at reads
    rw [reads.1, List.length_nil] at lengths
    refine ⟨_, _, before ++ [frame], rest, stepped, by simp, ⟨handled, ?_, running, ?_⟩, ?_⟩
    · exact lively.move conveyed (SecureWire.step_move stepped) arrives fits talkative within big
    · rw [streamed_append]
      exact (congrArg (fun shown => received (earlier ++ shown)) (List.append_nil _)).trans arrived
    · simp only [SecureWire.effort, SecureWire.restart, SecureWire.new, List.length_nil, List.length_cons, total]
      omega
  | read room resume =>
    obtain ⟨stream, shown, stepped⟩ := step_read server wire room
    have moved := TlsStream.step_move stepped
    have taken : SecureWire.step env server wire .poll =
        some (({ wire with stream := stream } : SecureWire τ σ bufferSize).feed resume shown, shown.map .stream) := by
      simp only [SecureWire.step, asks, stepped, Option.map_some]
    have lively' := lively.move conveyed (SecureWire.step_move taken) arrives fits talkative within big
    obtain ⟨whole, later, split, standing, reading, _, still⟩ :=
      conveyed.reads lively arrives fits talkative running asks moved
    refine ⟨_, _, before, frame :: rest, taken, rfl, ?_⟩
    cases reading with
    | @returned piece some less =>
      have aligned := conveyed.aligned.move moved arrives fits fun drop => absurd drop reading_ne_drop
      obtain ⟨small, idle⟩ := reading_fits moved (conveyed.asked.same_room asks)
      obtain ⟨more, cut', _⟩ := conveyed.feed aligned asks some small within
      refine ⟨⟨conveyed.read aligned asks small idle within, lively', still, ?_⟩, ?_⟩
      · rw [streamed_append, ← List.append_assoc, received_append, arrived]
        exact List.append_nil _
      · have positive := List.length_pos_iff.mpr some
        have lengths' := congrArg List.length cut'
        simp only [List.length_append] at lengths'
        simp only [SecureWire.effort, SecureWire.feed, Except.toOption, Option.getD_some, List.length_append, total]
        omega
    | advanced less =>
      refine ⟨⟨conveyed.wait moved asks arrives fits, lively', still, ?_⟩, ?_⟩
      · simpa using arrived
      · simp only [SecureWire.effort, SecureWire.feed]
        omega
    | short drained short =>
      subst split
      refine (standing.not_short arrived running drained ?_ short).elim
      rw [conveyed.bytes, carries, frameBytes_append]
      intro same
      have equal := congrArg List.length (List.append_cancel_left same)
      rw [asks] at reads
      have positive := List.length_pos_iff.mpr reads.ne_nil
      omega

theorem Pending.completes (pending : Pending env server sent earlier before after events wire)
    (fits : ∀ item ∈ sent, item.record.bytes.length ≤ bufferSize) (talkative : Talkative bufferSize sent)
    (wellFormed : ∀ frame ∈ before ++ after, env.IsFrame frame) (big : 2 ≤ env.maxPacketSize)
    (carries : plaintexts sent = frameBytes (before ++ after)) :
    ∃ polls final more, exec (SecureWire.step env server) Anything wire (.replicate polls .poll) = some (final, more) ∧
      packets (events ++ more) = (before ++ after).map Prod.snd := by
  -- Each poll lowers the effort.
  induction effort : wire.effort after using Nat.strongRecOn generalizing wire events before after with
  | _ bound ih =>
    cases after with
    | nil => exact ⟨0, wire, [], rfl, by simpa using pending.conveyed.handled⟩
    | cons frame rest =>
      obtain ⟨next, new, before', after', taken, same, pending', less⟩ :=
        pending.poll fits talkative wellFormed big carries
      rw [same] at wellFormed carries ⊢
      obtain ⟨polls, final, more, executed, handled⟩ := ih _ (effort ▸ less) pending' wellFormed carries rfl
      exact ⟨polls + 1, final, new ++ more, exec_cons trivial taken executed, by rwa [← List.append_assoc]⟩

variable {accepted : AcceptStream τ σ ω} {frames : List (Bytes × Packet)} {labels : List (SecureLabel τ)}

structure SecurelyAsSent (env : Env) (server : TlsServerSession σ) (sent : List PeerRecord)
    (frames : List (Bytes × Packet)) (complete : Prop) (events : List (SecureEvent τ))
    (wire : SecureWire τ σ bufferSize) : Prop where
  inOrder : packets events = (frames.take (packets events).length).map Prod.snd
  progress : complete → plaintexts sent = frameBytes frames → (∀ record, .appData record [] ∉ sent) →
    (∀ record, .alert record ∉ sent) → wire.stream.ending = none →
    ∃ polls final more, exec (SecureWire.step env server) Anything wire (.replicate polls .poll) = some (final, more) ∧
      packets (events ++ more) = frames.map Prod.snd

theorem talkative_of_frames (fits : ∀ item ∈ sent, item.record.bytes.length ≤ bufferSize)
    (some : plaintexts sent ≠ []) (full : ∀ record, .appData record [] ∉ sent)
    (unalerted : ∀ record, .alert record ∉ sent) : Talkative bufferSize sent := by
  refine ⟨full, unalerted, ?_⟩
  cases sent with
  | nil => exact absurd rfl some
  | cons item later =>
    have small := fits item List.mem_cons_self
    rw [TlsRecord.bytes, List.length_append, ← TlsRecord.header, TlsRecord.length_header] at small
    omega

theorem LengthField.length_pos {field : Bytes} {value : Nat} (number : LengthField field value) : 0 < field.length := by
  cases number <;> simp

theorem IsFrame.two_le {frame : Bytes × Packet} (framed : env.IsFrame frame) : 2 ≤ env.maxPacketSize := by
  obtain ⟨⟨kind, field, body, split, _, number⟩, small, _⟩ := framed
  have some := number.length_pos
  rw [split, List.length_append, List.length_cons] at small
  omega

theorem Conveyed.asSent {complete : Prop}
    (conveyed : Conveyed env server sent earlier before after events wire)
    (lively : Talkative bufferSize sent → 2 ≤ env.maxPacketSize → Lively wire)
    (fits : ∀ item ∈ sent, item.record.bytes.length ≤ bufferSize)
    (wellFormed : ∀ frame ∈ before ++ after, env.IsFrame frame)
    (arrived : complete → received (earlier ++ streamed events) = wireBytes sent) :
    SecurelyAsSent env server sent (before ++ after) complete events wire := by
  constructor
  · have count : (packets events).length = before.length := by rw [conveyed.handled, List.length_map]
    rw [count, List.take_left, conveyed.handled]
  · intro done carries full unalerted running
    cases all : before ++ after with
    | nil =>
      obtain ⟨rfl, rfl⟩ := List.append_eq_nil_iff.mp all
      exact ⟨0, wire, [], rfl, by simpa using conveyed.handled⟩
    | cons frame rest =>
      have framed := wellFormed frame (all ▸ List.mem_cons_self)
      have some : plaintexts sent ≠ [] := by
        rw [carries, all]
        simp [frameBytes, framed.nonempty]
      have talkative := talkative_of_frames fits some full unalerted
      have pending : Pending env server sent earlier before after events wire :=
        ⟨conveyed, lively talkative (IsFrame.two_le framed), running, arrived done⟩
      rw [← all]
      exact pending.completes fits talkative wellFormed (IsFrame.two_le framed) carries

end

end PicoBroker
