import Mathlib.Tactic.Ring
import PicoBroker.Broker.Mqttrs
import PicoBroker.Shared.Resumption

set_option autoImplicit false

namespace PicoBroker

variable {τ : Type}

-- `outOfBounds` is not an error of the code: slicing `buf` beyond its end panics.
inductive ReadError (τ : Type) where
  | eof
  | packetTooLarge (packetSize bufferSize : Nat)
  | transport (error : τ)
  | protocol (error : MqttrsError)
  | outOfBounds
deriving DecidableEq

abbrev PacketReader (τ : Type) := Resumption τ UInt8 (ReadError τ)

def readExact (length : Nat) : PacketReader τ Bytes :=
  if length = 0 then .done []
  else .read length fun
    | .error error => .fail (.transport error)
    | .ok [] => .fail .eof
    | .ok (byte :: bytes) => do
        let rest ← readExact (length - (bytes.length + 1))
        return byte :: bytes ++ rest
termination_by length

-- `read_exact(transport, &mut buf[start..stop])`
def readSlice (bufferSize start stop : Nat) : PacketReader τ Bytes :=
  if stop ≤ bufferSize then readExact (stop - start) else .fail .outOfBounds

def decodeRemainingLengthFrom (index multiplier value : Nat) : Bytes → Except MqttrsError Nat
  | [] => .error .invalidHeader
  | byte :: bytes =>
      let value := value + (byte &&& 0x7F).toNat * multiplier
      if byte &&& 0x80 = 0 then .ok value
      else
        let multiplier := multiplier * 128
        if index = 3 ∨ multiplier > 128 * 128 * 128 * 128 then .error .invalidHeader
        else decodeRemainingLengthFrom (index + 1) multiplier value bytes

def decodeRemainingLength (bytes : Bytes) : Except MqttrsError Nat := decodeRemainingLengthFrom 0 1 0 bytes

-- `(buf[header_len - 1] & 0x80) != 0`
def Continued (header : Bytes) : Prop := header.getLast?.getD 0 &&& 0x80 ≠ 0

instance (header : Bytes) : Decidable (Continued header) := inferInstanceAs (Decidable (¬ _))

-- The first argument is `5 - header_len`.
def readHeader (bufferSize : Nat) : Nat → Bytes → PacketReader τ Bytes
  | 0, header => if Continued header then .fail (.protocol .invalidHeader) else .done header
  | spare + 1, header =>
      if Continued header then do
        let byte ← readSlice bufferSize header.length (header.length + 1)
        readHeader bufferSize spare (header ++ byte)
      else .done header

def readPacket (codec : Codec) (bufferSize : Nat) : PacketReader τ Packet := do
  let start ← readSlice bufferSize 0 2
  let header ← readHeader bufferSize 3 start
  match decodeRemainingLength header.tail with
  | .error error => .fail (.protocol error)
  | .ok remainingLength =>
      let totalLen := header.length + remainingLength
      if totalLen > bufferSize then .fail (.packetTooLarge totalLen bufferSize)
      else do
        let body ← readSlice bufferSize header.length totalLen
        match codec.decodeSlice (header ++ body) with
        | .error error => .fail (.protocol error)
        | .ok none => .fail (.protocol .invalidLength)
        | .ok (some packet) => return packet

inductive LengthField : Bytes → Nat → Prop
  | last {byte : UInt8} (small : byte.toNat < 128) : LengthField [byte] byte.toNat
  | more {byte : UInt8} {bytes : Bytes} {value : Nat} (large : 128 ≤ byte.toNat)
      (field : LengthField bytes value) : LengthField (byte :: bytes) (byte.toNat % 128 + 128 * value)

structure IsFrame (codec : Codec) (bufferSize : Nat) (frame : Bytes) (packet : Packet) : Prop where
  layout : ∃ kind field body, frame = kind :: field ++ body ∧ field.length ≤ 4 ∧
    LengthField field body.length
  fits : frame.length ≤ bufferSize
  decodes : codec.decodeSlice frame = .ok (some packet)

theorem IsFrame.nonempty {codec : Codec} {bufferSize : Nat} {frame : Bytes} {packet : Packet}
    (framed : IsFrame codec bufferSize frame packet) : frame ≠ [] := by
  obtain ⟨kind, field, body, rfl, _⟩ := framed.layout
  simp

theorem and_127 (byte : UInt8) : (byte &&& 0x7F).toNat = byte.toNat % 128 := by
  rw [UInt8.toNat_and]
  exact Nat.and_two_pow_sub_one_eq_mod byte.toNat 7

theorem and_128_eq_zero (byte : UInt8) : byte &&& 0x80 = 0 ↔ byte.toNat < 128 := by
  have checked : ∀ value : Fin 256, UInt8.ofNat value &&& 0x80 = 0 ↔ value.val < 128 := by decide +kernel
  simpa using checked ⟨byte.toNat, byte.toNat_lt⟩

theorem decodeRemainingLengthFrom_eq {field : Bytes} {value : Nat} (wellFormed : LengthField field value)
    (index sum : Nat) (short : index + field.length ≤ 4) :
    decodeRemainingLengthFrom index (128 ^ index) sum field = .ok (sum + value * 128 ^ index) := by
  induction wellFormed generalizing index sum with
  | @last byte small =>
    rw [decodeRemainingLengthFrom, if_pos ((and_128_eq_zero byte).mpr small), and_127, Nat.mod_eq_of_lt small]
  | @more byte bytes value large field ih =>
    rw [List.length_cons] at short
    have continued : byte &&& 0x80 ≠ 0 := by
      rw [ne_eq, and_128_eq_zero]
      omega
    have next : 0 < bytes.length := by cases field <;> simp
    have bounded : 128 ^ index * 128 ≤ 128 ^ 4 := by
      rw [← Nat.pow_succ]
      exact Nat.pow_le_pow_right (by omega) (by omega)
    have room : ¬ (index = 3 ∨ 128 ^ index * 128 > 128 * 128 * 128 * 128) := by omega
    rw [decodeRemainingLengthFrom, if_neg continued, if_neg room, and_127, ← Nat.pow_succ,
      ih _ _ (by omega)]
    congr 1
    ring

theorem decodeRemainingLength_eq {field : Bytes} {value : Nat} (wellFormed : LengthField field value)
    (short : field.length ≤ 4) : decodeRemainingLength field = .ok value := by
  simpa [decodeRemainingLength] using decodeRemainingLengthFrom_eq wellFormed 0 0 (by omega)

def ReadError.onEnd : Ending τ → ReadError τ
  | .closed => .eof
  | .failed error => .transport error

open Resumption (Reads ofExcept)

theorem readExact_eq (length : Nat) :
    (readExact length : PacketReader τ Bytes) = .exactly ReadError.onEnd length := by
  induction length using Nat.strongRecOn with
  | _ n ih =>
    unfold readExact Resumption.exactly
    split
    · rfl
    · next positive =>
      refine congrArg (Resumption.read n) (funext fun answer => ?_)
      rcases answer with error | (_ | ⟨byte, bytes⟩)
      · rfl
      · rfl
      · simp only [ih (n - (bytes.length + 1)) (by omega)]

theorem readExact_reads (frame : Bytes) :
    Reads ReadError.onEnd (readExact frame.length : PacketReader τ Bytes) frame (.ok frame) := by
  rw [readExact_eq]
  exact Resumption.exactly_reads ReadError.onEnd frame

theorem readSlice_reads {bufferSize start stop : Nat} {frame : Bytes} (length : stop = start + frame.length)
    (bounded : stop ≤ bufferSize) :
    Reads ReadError.onEnd (readSlice bufferSize start stop : PacketReader τ Bytes) frame (.ok frame) := by
  rw [readSlice, if_pos bounded, length, Nat.add_sub_cancel_left]
  exact readExact_reads frame

theorem continued_append (start : Bytes) (byte : UInt8) :
    Continued (start ++ [byte]) ↔ 128 ≤ byte.toNat := by
  rw [Continued, List.getLast?_concat, Option.getD_some, ne_eq, and_128_eq_zero, Nat.not_lt]

theorem readHeader_reads {bufferSize value : Nat} {bytes : Bytes} {byte : UInt8} (start : Bytes)
    (spare : Nat) (field : LengthField (byte :: bytes) value) (short : bytes.length ≤ spare)
    (bounded : start.length + 1 + bytes.length ≤ bufferSize) :
    Reads ReadError.onEnd (readHeader bufferSize spare (start ++ [byte]) : PacketReader τ Bytes) bytes
      (.ok (start ++ byte :: bytes)) := by
  induction bytes generalizing start byte spare value with
  | nil =>
    have last : ¬ Continued (start ++ [byte]) := by
      rw [continued_append]
      cases field with
      | last small => omega
      | more _ field => cases field
    cases spare <;> rw [readHeader, if_neg last] <;> exact ⟨rfl, rfl⟩
  | cons next rest ih =>
    cases field with
    | more large field =>
      rw [List.length_cons] at short bounded
      obtain ⟨left, rfl⟩ : ∃ left, spare = left + 1 := ⟨spare - 1, by omega⟩
      rw [readHeader, if_pos ((continued_append start byte).mpr large)]
      have later := ih (start ++ [byte]) left field (by omega) (by simp; omega)
      rw [List.append_assoc start [byte] (next :: rest)] at later
      have read : Reads ReadError.onEnd (readSlice bufferSize (start ++ [byte]).length
          ((start ++ [byte]).length + 1) : PacketReader τ Bytes) [next] (.ok [next]) :=
        readSlice_reads rfl (by simp; omega)
      exact read.bind later

def decodeFrame (codec : Codec) (frame : Bytes) : Except (ReadError τ) Packet :=
  match codec.decodeSlice frame with
  | .error error => .error (.protocol error)
  | .ok none => .error (.protocol .invalidLength)
  | .ok (some packet) => .ok packet

def readBody (codec : Codec) (bufferSize : Nat) (header : Bytes) : PacketReader τ Packet :=
  match decodeRemainingLength header.tail with
  | .error error => .fail (.protocol error)
  | .ok remainingLength =>
      if header.length + remainingLength > bufferSize then
        .fail (.packetTooLarge (header.length + remainingLength) bufferSize)
      else
        (readSlice bufferSize header.length (header.length + remainingLength)).bind fun body =>
          ofExcept (decodeFrame codec (header ++ body))

theorem readPacket_eq (codec : Codec) (bufferSize : Nat) :
    (readPacket codec bufferSize : PacketReader τ Packet) =
      (readSlice bufferSize 0 2).bind fun start =>
        (readHeader bufferSize 3 start).bind (readBody codec bufferSize) := by
  refine congrArg (Resumption.bind _) (funext fun start => congrArg (Resumption.bind _) (funext fun header => ?_))
  unfold readBody
  cases decodeRemainingLength header.tail with
  | error => rfl
  | ok remaining =>
    dsimp only
    split
    · rfl
    · refine congrArg (Resumption.bind _) (funext fun body => ?_)
      unfold decodeFrame
      rcases codec.decodeSlice (header ++ body) with _ | _ | _ <;> rfl

theorem readPacket_header {codec : Codec} {bufferSize : Nat} {kind : UInt8} {field rest : Bytes}
    {remaining : Nat} (room : field.length + 1 ≤ bufferSize) (short : field.length ≤ 4)
    (wellFormed : LengthField field remaining) {result : Except (ReadError τ) Packet}
    (later : Reads ReadError.onEnd (readBody codec bufferSize (kind :: field)) rest result) :
    Reads ReadError.onEnd (readPacket codec bufferSize : PacketReader τ Packet) (kind :: field ++ rest) result := by
  cases field with
  | nil => cases wellFormed
  | cons byte bytes =>
    rw [List.length_cons] at short room
    have start : Reads ReadError.onEnd (readSlice bufferSize 0 2 : PacketReader τ Bytes) [kind, byte]
        (.ok [kind, byte]) := readSlice_reads rfl (by omega)
    have header : Reads ReadError.onEnd (readHeader bufferSize 3 [kind, byte] : PacketReader τ Bytes) bytes
        (.ok (kind :: byte :: bytes)) :=
      readHeader_reads [kind] 3 wellFormed (by omega) (by simp; omega)
    rw [readPacket_eq]
    exact start.bind (header.bind later)

theorem readPacket_frame {codec : Codec} {bufferSize : Nat} {kind : UInt8} {field body : Bytes}
    (short : field.length ≤ 4) (wellFormed : LengthField field body.length)
    (fits : (kind :: field).length + body.length ≤ bufferSize) :
    Reads ReadError.onEnd (readPacket codec bufferSize : PacketReader τ Packet) (kind :: field ++ body)
      (decodeFrame codec (kind :: field ++ body)) := by
  refine readPacket_header (by rw [List.length_cons] at fits; omega) short wellFormed ?_
  simp only [readBody, List.tail_cons, decodeRemainingLength_eq wellFormed short, if_neg (Nat.not_lt.mpr fits)]
  have read : Reads ReadError.onEnd (readSlice bufferSize (kind :: field).length
      ((kind :: field).length + body.length) : PacketReader τ Bytes) body (.ok body) :=
    readSlice_reads rfl fits
  refine read.bind_last ?_
  cases decodeFrame codec (kind :: field ++ body) <;> exact ⟨rfl, rfl⟩

theorem readPacket_reads {codec : Codec} {bufferSize : Nat} {frame : Bytes} {packet : Packet}
    (framed : IsFrame codec bufferSize frame packet) :
    Reads ReadError.onEnd (readPacket codec bufferSize : PacketReader τ Packet) frame (.ok packet) := by
  obtain ⟨⟨kind, field, body, rfl, short, wellFormed⟩, fits, decodes⟩ := framed
  have room : (kind :: field).length + body.length ≤ bufferSize := by rwa [← List.length_append]
  have reads : Reads ReadError.onEnd (readPacket codec bufferSize : PacketReader τ Packet) _ _ :=
    readPacket_frame short wellFormed room
  rwa [decodeFrame, decodes] at reads

-- Without any bytes nothing is read.
theorem readPacket_poll_nil (codec : Codec) (bufferSize : Nat) (ending : Option (Ending τ)) :
    (∃ error, (readPacket codec bufferSize).poll ending [] = ⟨.fail error, [], []⟩) ∨
      ∃ room next, readPacket codec bufferSize = .read room next ∧
        (readPacket codec bufferSize).poll ending [] = ⟨.read room next, [], []⟩ := by
  by_cases enough : 2 ≤ bufferSize
  · have first : (readSlice bufferSize 0 2 : PacketReader τ Bytes) = readExact 2 := if_pos enough
    rw [readExact, if_neg (by omega)] at first
    rw [readPacket, first]
    cases ending with
    | none => exact .inr ⟨_, _, rfl, rfl⟩
    | some reason => cases reason <;> exact .inl ⟨_, rfl⟩
  · have first : (readSlice bufferSize 0 2 : PacketReader τ Bytes) = .fail .outOfBounds := if_neg enough
    rw [readPacket, first]
    exact .inl ⟨_, rfl⟩

theorem IsFrame.eq_of_prefix {codec : Codec} {bufferSize : Nat} {short long : Bytes} {packet other : Packet}
    (first : IsFrame codec bufferSize short packet) (second : IsFrame codec bufferSize long other)
    (front : short <+: long) : short = long :=
  Reads.eq_of_prefix (readPacket_reads (τ := Unit) first) (readPacket_reads second) front

end PicoBroker
