import PicoBroker.Broker.Reading

set_option autoImplicit false

namespace PicoBroker

open Resumption (Reads ofExcept)

variable {τ : Type}

structure FixedHeader (stream header : Bytes) (remaining : Nat) : Prop where
  front : header <+: stream
  layout : ∃ kind field, header = kind :: field ∧ field.length ≤ 4 ∧ LengthField field remaining

def Unterminated (stream : Bytes) : Prop :=
  ∃ header, header <+: stream ∧ header.length = 5 ∧ ∀ byte ∈ header.tail, 128 ≤ byte.toNat

def EndsFirst (bufferSize : Nat) (stream : Bytes) : Prop :=
  ¬ Unterminated stream ∧ ∀ header remaining, FixedHeader stream header remaining →
    header.length + remaining ≤ bufferSize ∧ stream.length < header.length + remaining

theorem LengthField.eq_of_prefix {short long : Bytes} {value other : Nat} (first : LengthField short value)
    (second : LengthField long other) (front : short <+: long) : short = long ∧ value = other := by
  induction first generalizing long other with
  | @last byte small =>
    cases second with
    | last =>
      obtain ⟨rfl, _⟩ := List.cons_prefix_cons.mp front
      exact ⟨rfl, rfl⟩
    | more large _ =>
      obtain ⟨rfl, _⟩ := List.cons_prefix_cons.mp front
      omega
  | @more byte bytes value large field ih =>
    cases second with
    | last small =>
      obtain ⟨rfl, _⟩ := List.cons_prefix_cons.mp front
      omega
    | more _ rest =>
      obtain ⟨rfl, later⟩ := List.cons_prefix_cons.mp front
      obtain ⟨rfl, rfl⟩ := ih rest later
      exact ⟨rfl, rfl⟩

theorem LengthField.terminated {field : Bytes} {value : Nat} (wellFormed : LengthField field value)
    (continued : ∀ byte ∈ field, 128 ≤ byte.toNat) : False := by
  induction wellFormed with
  | last small =>
    have := continued _ List.mem_cons_self
    omega
  | more _ _ ih => exact ih fun byte member => continued byte (List.mem_cons_of_mem _ member)

theorem lengthField_of_continued {bytes : Bytes} (continued : ∀ byte ∈ bytes, 128 ≤ byte.toNat) :
    ∃ value, LengthField (bytes ++ [0]) value := by
  induction bytes with
  | nil => exact ⟨_, .last (by decide)⟩
  | cons byte rest ih =>
    obtain ⟨value, field⟩ := ih fun other member => continued other (List.mem_cons_of_mem _ member)
    exact ⟨_, .more (continued byte List.mem_cons_self) field⟩

-- Of the first `room` bytes, one is the last of a length field, or all ask for another one.
theorem lengthField_front (bytes : Bytes) (room : Nat) :
    (∃ field value, field <+: bytes ∧ field.length ≤ room ∧ LengthField field value) ∨
      (∃ front, front <+: bytes ∧ front.length = room ∧ ∀ byte ∈ front, 128 ≤ byte.toNat) ∨
      bytes.length < room ∧ ∀ byte ∈ bytes, 128 ≤ byte.toNat := by
  induction room generalizing bytes with
  | zero => exact .inr (.inl ⟨[], List.nil_prefix, rfl, by simp⟩)
  | succ room ih =>
    cases bytes with
    | nil => exact .inr (.inr ⟨by simp, by simp⟩)
    | cons byte rest =>
      by_cases small : byte.toNat < 128
      · exact .inl ⟨[byte], _, by simp, by simp, .last small⟩
      · have large : 128 ≤ byte.toNat := by omega
        rcases ih rest with ⟨field, value, front, short, wellFormed⟩ | ⟨front, begins, length, continued⟩ |
          ⟨short, continued⟩
        · exact .inl ⟨byte :: field, _, by simpa using front, by simpa using short, .more large wellFormed⟩
        · exact .inr (.inl ⟨byte :: front, by simpa using begins, by simpa using length, by simpa [large]⟩)
        · exact .inr (.inr ⟨by simpa using short, by simpa [large]⟩)

theorem FixedHeader.unique {stream header other : Bytes} {remaining rest : Nat}
    (first : FixedHeader stream header remaining) (second : FixedHeader stream other rest) :
    header = other ∧ remaining = rest := by
  obtain ⟨front, kind, field, rfl, _, wellFormed⟩ := first
  obtain ⟨otherFront, otherKind, otherField, rfl, _, otherWellFormed⟩ := second
  rcases List.prefix_or_prefix_of_prefix front otherFront with below | below
  · obtain ⟨rfl, fields⟩ := List.cons_prefix_cons.mp below
    obtain ⟨rfl, rfl⟩ := wellFormed.eq_of_prefix otherWellFormed fields
    exact ⟨rfl, rfl⟩
  · obtain ⟨rfl, fields⟩ := List.cons_prefix_cons.mp below
    obtain ⟨rfl, rfl⟩ := otherWellFormed.eq_of_prefix wellFormed fields
    exact ⟨rfl, rfl⟩

theorem FixedHeader.not_unterminated {stream header : Bytes} {remaining : Nat}
    (fixed : FixedHeader stream header remaining) : ¬ Unterminated stream := by
  rintro ⟨front, begins, length, continued⟩
  obtain ⟨headerFront, kind, field, rfl, short, wellFormed⟩ := fixed
  -- the field lies within the five bytes, so its last byte would ask for another one
  have below : kind :: field <+: front := by
    apply List.prefix_of_prefix_length_le headerFront begins
    simp only [List.length_cons]
    omega
  obtain ⟨tail, rfl⟩ := below
  exact wellFormed.terminated fun byte member => continued byte (by simp [member])

section

variable {codec : Codec} {bufferSize : Nat}

theorem readHeader_unterminated {bytes : Bytes} {byte : UInt8} (start : Bytes)
    (continued : ∀ other ∈ byte :: bytes, 128 ≤ other.toNat)
    (bounded : start.length + 1 + bytes.length ≤ bufferSize) :
    Reads ReadError.onEnd (readHeader bufferSize bytes.length (start ++ [byte]) : PacketReader τ Bytes) bytes
      (.error (.protocol .invalidHeader)) := by
  induction bytes generalizing start byte with
  | nil =>
    rw [List.length_nil, readHeader,
      if_pos ((continued_append start byte).mpr (continued byte List.mem_cons_self))]
    exact ⟨rfl, rfl⟩
  | cons next rest ih =>
    rw [List.length_cons] at bounded ⊢
    rw [readHeader, if_pos ((continued_append start byte).mpr (continued byte List.mem_cons_self))]
    have read : Reads ReadError.onEnd (readSlice bufferSize (start ++ [byte]).length
        ((start ++ [byte]).length + 1) : PacketReader τ Bytes) [next] (.ok [next]) :=
      readSlice_reads rfl (by simp; omega)
    exact read.bind (ih (start ++ [byte]) (fun other member => continued other (List.mem_cons_of_mem _ member))
      (by simp; omega))

theorem readPacket_unterminated (enough : 5 ≤ bufferSize) {header : Bytes} (length : header.length = 5)
    (continued : ∀ byte ∈ header.tail, 128 ≤ byte.toNat) :
    Reads ReadError.onEnd (readPacket codec bufferSize : PacketReader τ Packet) header
      (.error (.protocol .invalidHeader)) := by
  obtain ⟨kind, byte, bytes, rfl⟩ : ∃ kind byte bytes, header = kind :: byte :: bytes := by
    match header with
    | kind :: byte :: bytes => exact ⟨kind, byte, bytes, rfl⟩
  have three : bytes.length = 3 := by simpa using length
  have start : Reads ReadError.onEnd (readSlice bufferSize 0 2 : PacketReader τ Bytes) [kind, byte]
      (.ok [kind, byte]) := readSlice_reads rfl (by omega)
  have failed : Reads ReadError.onEnd (readHeader bufferSize 3 [kind, byte] : PacketReader τ Bytes) bytes
      (.error (.protocol .invalidHeader)) := by
    rw [← three]
    exact readHeader_unterminated [kind] continued (by simp; omega)
  exact start.bind failed.bind_error

theorem readPacket_tooLarge (enough : 5 ≤ bufferSize) {stream header : Bytes} {remaining : Nat}
    (fixed : FixedHeader stream header remaining) (large : bufferSize < header.length + remaining) :
    Reads ReadError.onEnd (readPacket codec bufferSize : PacketReader τ Packet) header
      (.error (.packetTooLarge (header.length + remaining) bufferSize)) := by
  obtain ⟨_, kind, field, rfl, short, wellFormed⟩ := fixed
  have later : Reads ReadError.onEnd (readBody codec bufferSize (kind :: field) : PacketReader τ Packet) []
      (.error (.packetTooLarge ((kind :: field).length + remaining) bufferSize)) := by
    simp only [readBody, List.tail_cons, decodeRemainingLength_eq wellFormed short, if_pos large]
    exact ⟨rfl, rfl⟩
  simpa using readPacket_header (by omega) short wellFormed later

theorem FixedHeader.reads {stream header body : Bytes} (fixed : FixedHeader stream header body.length)
    (fits : header.length + body.length ≤ bufferSize) :
    Reads ReadError.onEnd (readPacket codec bufferSize : PacketReader τ Packet) (header ++ body)
      (decodeFrame codec (header ++ body)) := by
  obtain ⟨_, kind, field, rfl, short, wellFormed⟩ := fixed
  exact readPacket_frame short wellFormed fits

-- Whatever a complete header says, the reader has a frame that begins with it.
theorem readPacket_some_frame (enough : 5 ≤ bufferSize) {stream header : Bytes} {remaining : Nat}
    (fixed : FixedHeader stream header remaining) :
    ∃ frame result, header <+: frame ∧
      Reads ReadError.onEnd (readPacket codec bufferSize : PacketReader τ Packet) frame result := by
  by_cases large : bufferSize < header.length + remaining
  · exact ⟨header, _, List.prefix_rfl, readPacket_tooLarge enough fixed large⟩
  · have length : (List.replicate remaining (0 : UInt8)).length = remaining := List.length_replicate
    have filled : FixedHeader stream header (List.replicate remaining (0 : UInt8)).length := by rwa [length]
    exact ⟨_, _, List.prefix_append .., filled.reads (by rw [length]; omega)⟩

inductive Framed (codec : Codec) (bufferSize : Nat) (stream : Bytes) : Bytes → Except (ReadError τ) Packet → Prop
  | frame {header body : Bytes} (fixed : FixedHeader stream header body.length) (whole : header ++ body <+: stream)
      (fits : header.length + body.length ≤ bufferSize) :
      Framed codec bufferSize stream (header ++ body) (decodeFrame codec (header ++ body))
  | tooLarge {header : Bytes} {remaining : Nat} (fixed : FixedHeader stream header remaining)
      (large : bufferSize < header.length + remaining) :
      Framed codec bufferSize stream header (.error (.packetTooLarge (header.length + remaining) bufferSize))
  | invalidHeader {header : Bytes} (front : header <+: stream) (unterminated : Unterminated stream) :
      Framed codec bufferSize stream header (.error (.protocol .invalidHeader))
  | eof (ends : EndsFirst bufferSize stream) : Framed codec bufferSize stream stream (.error .eof)

def ReadAs (codec : Codec) (bufferSize : Nat) (stream taken : Bytes) (result : Except (ReadError τ) Packet) : Prop :=
  ∀ chunks : List Bytes, [] ∉ chunks → chunks.flatten = stream →
    ∃ left, (readPacket codec bufferSize : PacketReader τ Packet).poll (some .closed) chunks =
      ⟨ofExcept result, taken, left⟩ ∧ stream = taken ++ left.flatten ∧ [] ∉ left

theorem readAs_of_reads {stream frame : Bytes} {result : Except (ReadError τ) Packet}
    (reads : Reads ReadError.onEnd (readPacket codec bufferSize : PacketReader τ Packet) frame result)
    (front : frame <+: stream) : ReadAs codec bufferSize stream frame result := by
  rintro chunks nonempty rfl
  obtain ⟨rest, whole⟩ := front
  obtain ⟨left, polled, later, chunked⟩ := reads.poll_whole (some .closed) nonempty whole.symm
  exact ⟨left, polled, by rw [later, whole], chunked⟩

theorem readAs_of_cut {stream frame : Bytes} {result : Except (ReadError τ) Packet}
    (reads : Reads ReadError.onEnd (readPacket codec bufferSize : PacketReader τ Packet) frame result)
    (front : stream <+: frame) (short : stream.length < frame.length) :
    ReadAs codec bufferSize stream stream (.error .eof : Except (ReadError τ) Packet) := by
  rintro chunks nonempty rfl
  obtain ⟨missing, rfl⟩ := front
  have some : missing ≠ [] := by
    rintro rfl
    simp at short
  exact ⟨[], reads.poll_cut .closed nonempty rfl some, by simp, by simp⟩

-- A stream that does not even have its header is the front of one that does.
theorem header_cut {stream : Bytes}
    (short : ∀ kind field, stream = kind :: field → field.length < 4 ∧ ∀ byte ∈ field, 128 ≤ byte.toNat) :
    ∃ header remaining, FixedHeader header header remaining ∧ stream <+: header ∧ stream.length < header.length := by
  cases stream with
  | nil => exact ⟨[0, 0], _, ⟨List.prefix_rfl, 0, [0], rfl, by simp, .last (by decide)⟩, by simp, by simp⟩
  | cons kind field =>
    obtain ⟨room, continued⟩ := short kind field rfl
    obtain ⟨value, wellFormed⟩ := lengthField_of_continued continued
    exact ⟨kind :: field ++ [0], value, ⟨List.prefix_rfl, kind, field ++ [0], rfl, by simp; omega, wellFormed⟩,
      List.prefix_append .., by simp⟩

theorem Unterminated.five_le {stream : Bytes} (unterminated : Unterminated stream) : 5 ≤ stream.length := by
  obtain ⟨header, front, length, _⟩ := unterminated
  exact length ▸ front.length_le

-- The header is there, and the stream ends in what it announces.
theorem framed_of_cut_body (codec : Codec) {stream header : Bytes} {remaining : Nat}
    (fixed : FixedHeader stream header remaining) (fits : header.length + remaining ≤ bufferSize)
    (short : stream.length < header.length + remaining) :
    ∃ taken, ∃ result : Except (ReadError τ) Packet,
      ReadAs codec bufferSize stream taken result ∧ Framed codec bufferSize stream taken result := by
  obtain ⟨rest, split⟩ := fixed.front
  have lengths : stream.length = header.length + rest.length := by rw [← split, List.length_append]
  have length : (rest ++ List.replicate (remaining - rest.length) (0 : UInt8)).length = remaining := by
    rw [List.length_append, List.length_replicate]
    omega
  have filled : FixedHeader stream header (rest ++ List.replicate (remaining - rest.length) (0 : UInt8)).length := by
    rwa [length]
  have room : header.length + (rest ++ List.replicate (remaining - rest.length) (0 : UInt8)).length ≤ bufferSize := by
    rwa [length]
  have reads : Reads ReadError.onEnd (readPacket codec bufferSize : PacketReader τ Packet)
      (header ++ (rest ++ List.replicate (remaining - rest.length) 0)) _ := filled.reads room
  refine ⟨stream, _, readAs_of_cut reads ?_ ?_, .eof ⟨fixed.not_unterminated, ?_⟩⟩
  · rw [← split, List.prefix_append_right_inj]
    exact List.prefix_append ..
  · rw [List.length_append, length]
    exact short
  · intro other value found
    obtain ⟨rfl, rfl⟩ := found.unique fixed
    exact ⟨fits, short⟩

theorem framed_of_cut_header (codec : Codec) (enough : 5 ≤ bufferSize) {stream : Bytes}
    (unknown : ∀ header remaining, ¬ FixedHeader stream header remaining)
    (short : ∀ kind field, stream = kind :: field → field.length < 4 ∧ ∀ byte ∈ field, 128 ≤ byte.toNat) :
    ∃ taken, ∃ result : Except (ReadError τ) Packet,
      ReadAs codec bufferSize stream taken result ∧ Framed codec bufferSize stream taken result := by
  obtain ⟨header, remaining, fixed, front, shorter⟩ := header_cut short
  obtain ⟨frame, result, begins, reads⟩ : ∃ frame result, header <+: frame ∧
      Reads ReadError.onEnd (readPacket codec bufferSize : PacketReader τ Packet) frame result :=
    readPacket_some_frame enough fixed
  refine ⟨stream, _, readAs_of_cut reads (front.trans begins) (Nat.lt_of_lt_of_le shorter begins.length_le),
    .eof ⟨fun unterminated => ?_, fun header remaining found => absurd found (unknown header remaining)⟩⟩
  have long := unterminated.five_le
  cases stream with
  | nil => simp at long
  | cons kind field =>
    have few := (short kind field rfl).1
    simp only [List.length_cons] at long
    omega

theorem stream_framed (codec : Codec) (enough : 5 ≤ bufferSize) (stream : Bytes) :
    ∃ taken, ∃ result : Except (ReadError τ) Packet,
      ReadAs codec bufferSize stream taken result ∧ Framed codec bufferSize stream taken result := by
  by_cases known : ∃ header remaining, FixedHeader stream header remaining
  · obtain ⟨header, remaining, fixed⟩ := known
    obtain ⟨rest, split⟩ := fixed.front
    by_cases large : bufferSize < header.length + remaining
    · exact ⟨header, _, readAs_of_reads (readPacket_tooLarge enough fixed large) fixed.front, .tooLarge fixed large⟩
    · by_cases whole : remaining ≤ rest.length
      · have length : (rest.take remaining).length = remaining := List.length_take_of_le whole
        have filled : FixedHeader stream header (rest.take remaining).length := by rwa [length]
        have fits : header.length + (rest.take remaining).length ≤ bufferSize := by rw [length]; omega
        have front : header ++ rest.take remaining <+: stream := by
          rw [← split, List.prefix_append_right_inj]
          exact List.take_prefix ..
        exact ⟨_, _, readAs_of_reads (filled.reads fits) front, .frame filled front fits⟩
      · exact framed_of_cut_body codec fixed (by omega) (by rw [← split, List.length_append]; omega)
  · have unknown (header : Bytes) (remaining : Nat) : ¬ FixedHeader stream header remaining :=
      fun fixed => known ⟨header, remaining, fixed⟩
    cases stream with
    | nil => exact framed_of_cut_header codec enough unknown (by simp)
    | cons kind bytes =>
      rcases lengthField_front bytes 4 with ⟨field, value, front, short, wellFormed⟩ |
        ⟨front, begins, length, continued⟩ | ⟨short, continued⟩
      · exact absurd ⟨by simpa using front, kind, field, rfl, short, wellFormed⟩ (unknown (kind :: field) value)
      · have five : (kind :: front).length = 5 := by simp [length]
        have within : kind :: front <+: kind :: bytes := by simpa using begins
        exact ⟨kind :: front, _, readAs_of_reads (readPacket_unterminated enough five continued) within,
          .invalidHeader within ⟨kind :: front, within, five, continued⟩⟩
      · refine framed_of_cut_header codec enough unknown ?_
        rintro _ _ ⟨⟩
        exact ⟨short, continued⟩

theorem decodeFrame_eq_error {frame : Bytes} {error : ReadError τ} (failed : decodeFrame codec frame = .error error) :
    ∃ wrong, error = .protocol wrong := by
  unfold decodeFrame at failed
  split at failed <;> cases failed <;> exact ⟨_, rfl⟩

section

variable {stream taken : Bytes} {result : Except (ReadError τ) Packet}

theorem Framed.consumes (framed : Framed codec bufferSize stream taken result) {header : Bytes} {remaining : Nat}
    (fixed : FixedHeader stream header remaining) (fits : header.length + remaining ≤ bufferSize)
    (there : header.length + remaining ≤ stream.length) :
    taken = stream.take (header.length + remaining) ∧ result = decodeFrame codec taken := by
  cases framed with
  | frame known whole _ =>
    obtain ⟨rfl, rfl⟩ := fixed.unique known
    refine ⟨?_, rfl⟩
    rw [← List.length_append]
    exact List.prefix_iff_eq_take.mp whole
  | tooLarge known large =>
    obtain ⟨rfl, rfl⟩ := fixed.unique known
    omega
  | invalidHeader _ unterminated => exact absurd unterminated fixed.not_unterminated
  | eof ends =>
    have short := (ends.2 header remaining fixed).2
    omega

theorem Framed.tooLarge_iff (framed : Framed codec bufferSize stream taken result) :
    (∃ packetSize limit, result = .error (.packetTooLarge packetSize limit)) ↔
      ∃ header remaining, FixedHeader stream header remaining ∧ bufferSize < header.length + remaining := by
  constructor
  · rintro ⟨packetSize, limit, rfl⟩
    generalize failed : (.error (.packetTooLarge packetSize limit) : Except (ReadError τ) Packet) = result at framed
    cases framed with
    | frame =>
      obtain ⟨_, impossible⟩ := decodeFrame_eq_error failed.symm
      cases impossible
    | tooLarge fixed large => exact ⟨_, _, fixed, large⟩
    | invalidHeader => cases failed
    | eof => cases failed
  · rintro ⟨header, remaining, fixed, large⟩
    cases framed with
    | frame known _ fits =>
      obtain ⟨rfl, rfl⟩ := fixed.unique known
      omega
    | tooLarge => exact ⟨_, _, rfl⟩
    | invalidHeader _ unterminated => exact absurd unterminated fixed.not_unterminated
    | eof ends =>
      have fits := (ends.2 header remaining fixed).1
      omega

theorem Framed.invalidHeader_iff (framed : Framed codec bufferSize stream taken result) :
    result = .error (.protocol .invalidHeader) ↔
      Unterminated stream ∨ ∃ header remaining, FixedHeader stream header remaining ∧
        header.length + remaining ≤ bufferSize ∧ header.length + remaining ≤ stream.length ∧
        codec.decodeSlice (stream.take (header.length + remaining)) = .error .invalidHeader := by
  constructor
  · rintro rfl
    generalize failed : (.error (.protocol .invalidHeader) : Except (ReadError τ) Packet) = result at framed
    cases framed with
    | @frame header body fixed whole fits =>
      refine .inr ⟨header, body.length, fixed, fits, List.length_append ▸ whole.length_le, ?_⟩
      rw [← List.length_append, ← List.prefix_iff_eq_take.mp whole]
      unfold decodeFrame at failed
      split at failed <;> cases failed
      assumption
    | tooLarge => cases failed
    | invalidHeader _ unterminated => exact .inl unterminated
    | eof => cases failed
  · rintro (unterminated | ⟨header, remaining, fixed, fits, there, decoded⟩)
    · cases framed with
      | frame fixed => exact absurd unterminated fixed.not_unterminated
      | tooLarge fixed => exact absurd unterminated fixed.not_unterminated
      | invalidHeader => rfl
      | eof ends => exact absurd unterminated ends.1
    · obtain ⟨rfl, rfl⟩ := framed.consumes fixed fits there
      rw [decodeFrame, decoded]

theorem Framed.eof_iff (framed : Framed codec bufferSize stream taken result) :
    result = .error .eof ↔ EndsFirst bufferSize stream := by
  constructor
  · rintro rfl
    generalize failed : (.error .eof : Except (ReadError τ) Packet) = result at framed
    cases framed with
    | frame =>
      obtain ⟨_, impossible⟩ := decodeFrame_eq_error failed.symm
      cases impossible
    | tooLarge => cases failed
    | invalidHeader => cases failed
    | eof ends => exact ends
  · intro ends
    cases framed with
    | frame fixed whole =>
      have short := (ends.2 _ _ fixed).2
      have long := whole.length_le
      rw [List.length_append] at long
      omega
    | tooLarge fixed large =>
      have fits := (ends.2 _ _ fixed).1
      omega
    | invalidHeader _ unterminated => exact absurd unterminated ends.1
    | eof => rfl

theorem Framed.inBounds (framed : Framed codec bufferSize stream taken result) :
    result ≠ .error .outOfBounds := by
  rintro rfl
  generalize failed : (.error .outOfBounds : Except (ReadError τ) Packet) = result at framed
  cases framed with
  | frame =>
    obtain ⟨_, impossible⟩ := decodeFrame_eq_error failed.symm
    cases impossible
  | tooLarge => cases failed
  | invalidHeader => cases failed
  | eof => cases failed

end

end

-- In numbers below `bound`; `none` when a result does not fit.
def checkedLengthFrom (bound index multiplier value : Nat) : Bytes → Option (Except MqttrsError Nat)
  | [] => some (.error .invalidHeader)
  | byte :: bytes =>
      let part := (byte &&& 0x7F).toNat * multiplier
      if bound ≤ part ∨ bound ≤ value + part then none
      else if byte &&& 0x80 = 0 then some (.ok (value + part))
      else if bound ≤ multiplier * 128 then none
      else if index = 3 ∨ multiplier * 128 > 128 * 128 * 128 * 128 then some (.error .invalidHeader)
      else checkedLengthFrom bound (index + 1) (multiplier * 128) (value + part) bytes

theorem checkedLengthFrom_eq (field : Bytes) {index value : Nat} (within : index ≤ 3) (small : value < 128 ^ index) :
    checkedLengthFrom (2 ^ 32) index (128 ^ index) value field =
      some (decodeRemainingLengthFrom index (128 ^ index) value field) := by
  induction field generalizing index value with
  | nil => rfl
  | cons byte bytes ih =>
    have digit : (byte &&& 0x7F).toNat < 128 := by
      rw [and_127]
      omega
    have next : 128 ^ (index + 1) ≤ 128 ^ 4 := Nat.pow_le_pow_right (by omega) (by omega)
    have part : (byte &&& 0x7F).toNat * 128 ^ index ≤ 127 * 128 ^ index := Nat.mul_le_mul_right _ (by omega)
    rw [Nat.pow_succ] at next
    have larger : value + (byte &&& 0x7F).toNat * 128 ^ index < 128 ^ (index + 1) := by
      rw [Nat.pow_succ]
      omega
    simp only [checkedLengthFrom, decodeRemainingLengthFrom]
    rw [if_neg (by omega)]
    split
    · rfl
    · rw [if_neg (by omega)]
      split
      · rfl
      · next room =>
        rw [← Nat.pow_succ]
        exact ih (by omega) larger

theorem LengthField.lt {field : Bytes} {value : Nat} (wellFormed : LengthField field value) :
    value < 128 ^ field.length := by
  induction wellFormed with
  | last small => simpa using small
  | @more byte bytes value _ _ ih =>
    have digit : byte.toNat % 128 < 128 := Nat.mod_lt _ (by omega)
    rw [List.length_cons, Nat.pow_succ]
    omega

theorem FixedHeader.total_lt {stream header : Bytes} {remaining : Nat}
    (fixed : FixedHeader stream header remaining) : header.length + remaining < 2 ^ 32 := by
  obtain ⟨_, kind, field, rfl, short, wellFormed⟩ := fixed
  have bounded : 128 ^ field.length ≤ 128 ^ 4 := Nat.pow_le_pow_right (by omega) short
  have small := wellFormed.lt
  rw [List.length_cons]
  omega

theorem lengthField_last {length : Nat} (small : length < 128) : LengthField [UInt8.ofNat length] length := by
  have value : (UInt8.ofNat length).toNat = length := by
    rw [UInt8.toNat_ofNat', Nat.mod_eq_of_lt (by omega)]
  have field := LengthField.last (value.symm ▸ small)
  rwa [value] at field

theorem lengthField_more {bytes : Bytes} (length : Nat) (field : LengthField bytes (length / 128)) :
    LengthField (UInt8.ofNat (length % 128 + 128) :: bytes) length := by
  have digit : length % 128 < 128 := Nat.mod_lt _ (by omega)
  have value : (UInt8.ofNat (length % 128 + 128)).toNat = length % 128 + 128 := by
    rw [UInt8.toNat_ofNat', Nat.mod_eq_of_lt (by omega)]
  have more := LengthField.more (value.symm ▸ Nat.le_add_left ..) field
  rwa [value, Nat.add_mod_right, Nat.mod_mod, Nat.mod_add_div] at more

theorem lengthField_encodes {length : Nat} (small : length < 2 ^ 28) :
    LengthField (Mqtt311.lengthField length) length ∧ (Mqtt311.lengthField length).length ≤ 4 := by
  have second : length / 16384 = length / 128 / 128 := by omega
  have third : length / 2097152 = length / 128 / 128 / 128 := by omega
  unfold Mqtt311.lengthField
  split
  · next one => exact ⟨lengthField_last one, by simp⟩
  · split
    · exact ⟨lengthField_more length (lengthField_last (by omega)), by simp⟩
    · split
      · rw [second]
        exact ⟨lengthField_more length (lengthField_more _ (lengthField_last (by omega))), by simp⟩
      · rw [second, third]
        exact ⟨lengthField_more length (lengthField_more _ (lengthField_more _ (lengthField_last (by omega)))),
          by simp⟩

def readPackets (codec : Codec) (bufferSize : Nat) : Nat → List Bytes → List (Bytes × PacketReader τ Packet)
  | 0, _ => []
  | count + 1, chunks =>
      let polled := (readPacket codec bufferSize : PacketReader τ Packet).poll (some .closed) chunks
      (polled.taken, polled.reader) :: readPackets codec bufferSize count polled.left

def FittingFrame (bufferSize : Nat) (frame : Bytes) : Prop :=
  ∃ header remaining, FixedHeader frame header remaining ∧ frame.length = header.length + remaining ∧
    frame.length ≤ bufferSize

theorem FittingFrame.reads {codec : Codec} {bufferSize : Nat} {frame : Bytes}
    (fitting : FittingFrame bufferSize frame) :
    Reads ReadError.onEnd (readPacket codec bufferSize : PacketReader τ Packet) frame (decodeFrame codec frame) := by
  obtain ⟨header, remaining, fixed, length, fits⟩ := fitting
  obtain ⟨body, rfl⟩ := fixed.front
  rw [List.length_append] at length fits
  obtain rfl : body.length = remaining := by omega
  exact fixed.reads fits

theorem readPackets_frames (codec : Codec) {bufferSize : Nat} {frames : List Bytes}
    (fitting : ∀ frame ∈ frames, FittingFrame bufferSize frame) {chunks : List Bytes} (nonempty : [] ∉ chunks)
    (joined : chunks.flatten = frames.flatten) :
    readPackets codec bufferSize frames.length chunks =
      frames.map fun frame => (frame, (ofExcept (decodeFrame codec frame) : PacketReader τ Packet)) := by
  induction frames generalizing chunks with
  | nil => rfl
  | cons frame rest ih =>
    have reads : Reads ReadError.onEnd (readPacket codec bufferSize : PacketReader τ Packet) frame _ :=
      (fitting frame List.mem_cons_self).reads
    obtain ⟨left, polled, later, chunked⟩ := reads.poll_whole (some .closed) nonempty joined
    rw [List.length_cons, readPackets, polled, List.map_cons]
    exact congrArg _ (ih (fun other member => fitting other (List.mem_cons_of_mem _ member)) chunked later)

structure StreamRead (codec : Codec) (bufferSize : Nat) (stream : Bytes)
    (polled : Resumption.Polled τ UInt8 (ReadError τ) Packet) : Prop where
  returns : ∃ result, polled.reader = ofExcept result
  conserved : stream = polled.taken ++ polled.left.flatten
  consumes : ∀ header remaining, FixedHeader stream header remaining →
    header.length + remaining ≤ bufferSize → header.length + remaining ≤ stream.length →
    polled.taken = stream.take (header.length + remaining) ∧
      polled.reader = ofExcept (decodeFrame codec polled.taken)
  tooLarge : (∃ packetSize limit, polled.reader = .fail (.packetTooLarge packetSize limit)) ↔
    ∃ header remaining, FixedHeader stream header remaining ∧ bufferSize < header.length + remaining
  invalidHeader : polled.reader = .fail (.protocol .invalidHeader) ↔
    Unterminated stream ∨ ∃ header remaining, FixedHeader stream header remaining ∧
      header.length + remaining ≤ bufferSize ∧ header.length + remaining ≤ stream.length ∧
      codec.decodeSlice (stream.take (header.length + remaining)) = .error .invalidHeader
  eof : polled.reader = .fail .eof ↔ EndsFirst bufferSize stream
  inBounds : polled.reader ≠ .fail .outOfBounds

structure ChunkingIndependent (τ : Type) (codec : Codec) (bufferSize : Nat) : Prop where
  lengths : ∀ length < 2 ^ 28, decodeRemainingLength (Mqtt311.lengthField length) = .ok length
  noOverflow : ∀ field, checkedLengthFrom (2 ^ 32) 0 1 0 field = some (decodeRemainingLength field)
  totals : ∀ stream header remaining, FixedHeader stream header remaining → header.length + remaining < 2 ^ 32
  stream : ∀ chunks : List Bytes, [] ∉ chunks → StreamRead codec bufferSize chunks.flatten
    ((readPacket codec bufferSize : PacketReader τ Packet).poll (some .closed) chunks)
  chunking : ∀ chunks others : List Bytes, [] ∉ chunks → [] ∉ others → chunks.flatten = others.flatten →
    let polled := (readPacket codec bufferSize : PacketReader τ Packet).poll (some .closed) chunks
    let again := (readPacket codec bufferSize : PacketReader τ Packet).poll (some .closed) others
    polled.reader = again.reader ∧ polled.taken = again.taken ∧ polled.left.flatten = again.left.flatten
  frames : ∀ (frames chunks : List Bytes), (∀ frame ∈ frames, FittingFrame bufferSize frame) → [] ∉ chunks →
    chunks.flatten = frames.flatten → readPackets codec bufferSize frames.length chunks =
      frames.map fun frame => (frame, (ofExcept (decodeFrame codec frame) : PacketReader τ Packet))

theorem ofExcept_eq_fail {result : Except (ReadError τ) Packet} {error : ReadError τ} :
    (ofExcept result : PacketReader τ Packet) = .fail error ↔ result = .error error := by
  cases result <;> simp [Resumption.ofExcept]

theorem streamRead (codec : Codec) {bufferSize : Nat} (enough : 5 ≤ bufferSize) {chunks : List Bytes}
    (nonempty : [] ∉ chunks) :
    StreamRead codec bufferSize chunks.flatten
      ((readPacket codec bufferSize : PacketReader τ Packet).poll (some .closed) chunks) := by
  obtain ⟨taken, result, readAs, framed⟩ := stream_framed (τ := τ) codec enough chunks.flatten
  obtain ⟨left, polled, conserved, _⟩ := readAs chunks nonempty rfl
  rw [polled]
  refine ⟨⟨result, rfl⟩, conserved, ?_, ?_, ?_, ?_, ?_⟩
  · intro header remaining fixed fits there
    obtain ⟨first, decoded⟩ := framed.consumes fixed fits there
    exact ⟨first, congrArg ofExcept decoded⟩
  · simpa only [ofExcept_eq_fail] using framed.tooLarge_iff
  · simpa only [ofExcept_eq_fail] using framed.invalidHeader_iff
  · simpa only [ofExcept_eq_fail] using framed.eof_iff
  · simpa only [ne_eq, ofExcept_eq_fail] using framed.inBounds

theorem readPacket_chunkingIndependent (τ : Type) (codec : Codec) {bufferSize : Nat} (enough : 5 ≤ bufferSize) :
    ChunkingIndependent τ codec bufferSize where
  lengths length small := by
    obtain ⟨wellFormed, short⟩ := lengthField_encodes small
    exact decodeRemainingLength_eq wellFormed short
  noOverflow field := by
    have start : checkedLengthFrom (2 ^ 32) 0 (128 ^ 0) 0 field =
        some (decodeRemainingLengthFrom 0 (128 ^ 0) 0 field) :=
      checkedLengthFrom_eq field (by omega) (by simp)
    simpa [decodeRemainingLength] using start
  totals _ _ _ fixed := fixed.total_lt
  stream _ nonempty := streamRead codec enough nonempty
  chunking chunks others nonempty nonemptyOthers same := by
    obtain ⟨taken, result, readAs, _⟩ := stream_framed (τ := τ) codec enough chunks.flatten
    obtain ⟨left, polled, conserved, _⟩ := readAs chunks nonempty rfl
    obtain ⟨otherLeft, again, otherConserved, _⟩ := readAs others nonemptyOthers same.symm
    dsimp only
    rw [polled, again]
    exact ⟨rfl, rfl, List.append_cancel_left (conserved.symm.trans otherConserved)⟩
  frames _ _ fitting nonempty joined := readPackets_frames codec fitting nonempty joined

theorem readPacket_chunkingIndependent_1024 : 5 ≤ 1024 ∧ ChunkingIndependent Unit Mqtt311.codec 1024 :=
  ⟨by decide, readPacket_chunkingIndependent Unit Mqtt311.codec (by decide)⟩

-- The packet types 0 and 15 are reserved; `decode_slice` refuses them by the same error.
def Mqtt311.strictCodec : Codec :=
  { Mqtt311.codec with
    decodeSlice := fun frame =>
      if frame.headI.toNat / 16 = 0 ∨ frame.headI.toNat / 16 = 15 then .error .invalidHeader
      else Mqtt311.decodeSlice frame }

-- Two bytes and a length of zero: no length byte asks for another one.
theorem readPacket_invalidHeader_of_decoder :
    let polled := (readPacket Mqtt311.strictCodec 1024 : PacketReader Unit Packet).poll (some .closed) [[0, 0]]
    polled.reader = .fail (.protocol .invalidHeader) ∧ ¬ Unterminated [0, 0] ∧
      ¬ (polled.reader = .fail (.protocol .invalidHeader) ↔ Unterminated [0, 0]) := by
  have fixed : FixedHeader [0, 0] [0, 0] 0 := ⟨List.prefix_rfl, 0, [0], rfl, by decide, .last (by decide)⟩
  have enough : 5 ≤ 1024 := by decide
  have nonempty : [] ∉ [([0, 0] : Bytes)] := by decide
  have read : StreamRead Mqtt311.strictCodec 1024 [0, 0]
      ((readPacket Mqtt311.strictCodec 1024 : PacketReader Unit Packet).poll (some .closed) [[0, 0]]) :=
    streamRead Mqtt311.strictCodec enough nonempty
  have refused := read.invalidHeader.mpr (.inr ⟨[0, 0], 0, fixed, by decide, by decide, rfl⟩)
  exact ⟨refused, fixed.not_unterminated, fun same => fixed.not_unterminated (same.mp refused)⟩

end PicoBroker
