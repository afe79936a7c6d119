import PicoBroker.Broker.Mqttrs
import PicoBroker.Shared.Fields
import PicoBroker.Shared.Resumption

set_option autoImplicit false

namespace PicoBroker

open Fields

inductive TlsError where
  | insufficientSpace
  | other (code : Nat)
deriving DecidableEq

inductive SessionError (τ : Type) where
  | transport (error : τ)
  | tls (error : TlsError)
  | eof
  | recordTooLarge (advertised capacity : Nat)
  | unexpectedRecordType (contentType : UInt8)
  | handshakeIncomplete
  | closed
deriving DecidableEq

inductive AlertLevel where
  | warning
  | fatal
deriving DecidableEq

inductive AlertDescription where
  | closeNotify
  | other (code : UInt8)
deriving DecidableEq

inductive AppDataOrAlert (capacity : Nat) where
  | appData (plaintext : Text capacity)
  | alert (level : AlertLevel) (description : AlertDescription)
deriving DecidableEq

-- The keys and sequence numbers of `gatopsktls`. Each call gets the size of the buffer it writes to.
structure TlsServerSession (σ : Type) where
  decryptAppDataOrAlert : (capacity : Nat) → σ → Bytes → Except TlsError (AppDataOrAlert capacity) × σ
  encryptAppData : (capacity : Nat) → σ → Bytes → Except TlsError (Text capacity) × σ
  encryptAlert : (capacity : Nat) → σ → AlertLevel → AlertDescription → Except TlsError (Text capacity) × σ

def recordHeaderLen : Nat := 5

def tlsCtChangeCipherSpec : UInt8 := 20
def tlsCtAlert : UInt8 := 21
def tlsCtApplicationData : UInt8 := 23

structure PlainBuffer (capacity : Nat) where
  bytes : Bytes
  len : Nat
  offset : Nat
  sized : bytes.length = capacity
  within : len ≤ capacity
  ordered : offset ≤ len
deriving DecidableEq

namespace PlainBuffer

variable {capacity : Nat}

def new : PlainBuffer capacity := ⟨.replicate capacity 0, 0, 0, List.length_replicate, Nat.zero_le _, Nat.le_refl _⟩

-- What the new plaintext does not cover stays in the buffer.
def fill (plain : PlainBuffer capacity) (plaintext : Text capacity) : PlainBuffer capacity where
  bytes := plaintext.items ++ plain.bytes.drop plaintext.items.length
  len := plaintext.items.length
  offset := 0
  sized := by
    have fits := plaintext.fits
    have sized := plain.sized
    simp only [List.length_append, List.length_drop]
    omega
  within := plaintext.fits
  ordered := Nat.zero_le _

def copy (plain : PlainBuffer capacity) (room : Nat) : Bytes × PlainBuffer capacity :=
  let available := plain.len - plain.offset
  let n := min room available
  (slice plain.bytes plain.offset (plain.offset + n),
    { plain with
      offset := plain.offset + n
      ordered := by
        have ordered := plain.ordered
        omega })

def unread (plain : PlainBuffer capacity) : Bytes := slice plain.bytes plain.offset plain.len

@[simp] theorem unread_new : (new : PlainBuffer capacity).unread = [] := by
  simp [unread, new, slice]

@[simp] theorem unread_fill (plain : PlainBuffer capacity) (plaintext : Text capacity) :
    (plain.fill plaintext).unread = plaintext.items := by
  simp [unread, fill, slice]

theorem length_unread (plain : PlainBuffer capacity) : plain.unread.length = plain.len - plain.offset :=
  length_slice (by rw [plain.sized]; exact plain.within)

theorem unread_eq_nil {plain : PlainBuffer capacity} (drained : plain.len ≤ plain.offset) : plain.unread = [] :=
  List.eq_nil_of_length_eq_zero (by rw [length_unread]; omega)

-- The two cursors cut the plaintext into what was copied and what is left.
theorem copy_fst (plain : PlainBuffer capacity) (room : Nat) : (plain.copy room).1 = plain.unread.take room := by
  simp only [copy, unread, slice, List.take_take]
  congr 1
  omega

theorem copy_unread (plain : PlainBuffer capacity) (room : Nat) :
    (plain.copy room).2.unread = plain.unread.drop room := by
  rcases Nat.le_total room (plain.len - plain.offset) with less | more
  · simp only [copy, unread, slice, Nat.min_eq_left less, ← List.drop_drop, List.drop_take]
    congr 1
    omega
  · rw [List.drop_eq_nil_of_le (by rwa [length_unread])]
    refine unread_eq_nil ?_
    simp only [copy, Nat.min_eq_right more]
    omega

end PlainBuffer

variable {τ σ ω : Type} {bufferSize : Nat}

abbrev RecordReader (τ : Type) := Resumption τ UInt8 (SessionError τ)

def SessionError.onEnd : Ending τ → SessionError τ
  | .closed => .eof
  | .failed error => .transport error

def readExactInto (bufferSize start length : Nat) : RecordReader τ Bytes :=
  let stop := start + length
  if stop > bufferSize then .fail (.recordTooLarge stop bufferSize) else .exactly SessionError.onEnd length

def fetchRecord (bufferSize : Nat) : RecordReader τ Bytes := do
  let header ← readExactInto bufferSize 0 recordHeaderLen
  let bodyLen := ofBigEndian (slice header 3 5)
  let total := recordHeaderLen + bodyLen
  if total > bufferSize then .fail (.recordTooLarge total bufferSize)
  else do
    let body ← readExactInto bufferSize recordHeaderLen bodyLen
    return header ++ body

def recordType (record : Bytes) : UInt8 := record.head?.getD 0

structure EmbeddedTlsPskSession (σ : Type) (bufferSize : Nat) where
  inner : σ
  plain : PlainBuffer bufferSize
  handshakeDone : Bool
  closed : Bool
deriving DecidableEq

namespace EmbeddedTlsPskSession

variable (server : TlsServerSession σ) (session : EmbeddedTlsPskSession σ bufferSize)

-- Without a result the loop of `refill_plaintext` fetches another record.
def refillPlaintext (fetched : Except (SessionError τ) Bytes) :
    Option (Except (SessionError τ) Unit) × EmbeddedTlsPskSession σ bufferSize :=
  match fetched with
  | .error error => (some (.error error), session)
  | .ok record =>
      let contentType := recordType record
      if contentType = tlsCtChangeCipherSpec then (none, session)
      else if contentType = tlsCtApplicationData then
        match server.decryptAppDataOrAlert bufferSize session.inner record with
        | (.error error, inner) => (some (.error (.tls error)), { session with inner := inner })
        | (.ok (.appData plaintext), inner) =>
            (some (.ok ()), { session with inner := inner, plain := session.plain.fill plaintext })
        | (.ok (.alert _ _), inner) => (some (.error .closed), { session with inner := inner, closed := true })
      else if contentType = tlsCtAlert then (some (.error .closed), { session with closed := true })
      else (some (.error (.unexpectedRecordType contentType)), session)

def copyPlaintext (room : Nat) : Except (SessionError τ) Bytes × EmbeddedTlsPskSession σ bufferSize :=
  (.ok (session.plain.copy room).1, { session with plain := (session.plain.copy room).2 })

-- `read` up to its first await. Without a result it has to refill the plaintext.
def beginRead (room : Nat) :
    Option (Except (SessionError τ) Bytes × EmbeddedTlsPskSession σ bufferSize) :=
  if !session.handshakeDone then some (.error .handshakeIncomplete, session)
  else if session.closed then some (.ok [], session)
  else if session.plain.offset ≥ session.plain.len then none
  else some (session.copyPlaintext room)

def endRead (room : Nat) (refilled : Except (SessionError τ) Unit) :
    Except (SessionError τ) Bytes × EmbeddedTlsPskSession σ bufferSize :=
  match refilled with
  | .ok () => session.copyPlaintext room
  | .error .closed => (.ok [], session)
  | .error .eof => (.ok [], session)
  | .error other => (.error other, session)

def close : Option (Text bufferSize) × EmbeddedTlsPskSession σ bufferSize :=
  if session.closed then (none, session)
  else if !session.handshakeDone then (none, { session with closed := true })
  else
    match server.encryptAlert bufferSize session.inner .warning .closeNotify with
    | (.ok record, inner) => (some record, { session with inner := inner, closed := true })
    | (.error _, inner) => (none, { session with inner := inner, closed := true })

end EmbeddedTlsPskSession

structure Outgoing (σ ω : Type) (bufferSize : Nat) where
  session : EmbeddedTlsPskSession σ bufferSize
  transport : ω
  encrypted : List Bytes

namespace Outgoing

variable (server : TlsServerSession σ) (send : ω → Bytes → Except τ Unit × ω)

def chunkLen (bufferSize : Nat) (buf : Bytes) : Nat :=
  let maxChunk := bufferSize - (recordHeaderLen + 1 + 16)
  min buf.length maxChunk

def write (outgoing : Outgoing σ ω bufferSize) (buf : Bytes) :
    Except (SessionError τ) Nat × Outgoing σ ω bufferSize :=
  if !outgoing.session.handshakeDone then (.error .handshakeIncomplete, outgoing)
  else if outgoing.session.closed then (.error .closed, outgoing)
  else
    let chunk := chunkLen bufferSize buf
    if chunk = 0 then (.error (.tls .insufficientSpace), outgoing)
    else
      let plaintext := buf.take chunk
      let encrypted := outgoing.encrypted ++ [plaintext]
      match server.encryptAppData bufferSize outgoing.session.inner plaintext with
      | (.error error, inner) =>
          (.error (.tls error), ⟨{ outgoing.session with inner := inner }, outgoing.transport, encrypted⟩)
      | (.ok record, inner) =>
          let session := { outgoing.session with inner := inner }
          match send outgoing.transport record.items with
          | (.error error, transport) => (.error (.transport error), ⟨session, transport, encrypted⟩)
          | (.ok (), transport) => (.ok chunk, ⟨session, transport, encrypted⟩)

-- Records are sent inside `write`.
def flush (outgoing : Outgoing σ ω bufferSize) : Except (SessionError τ) Unit × Outgoing σ ω bufferSize :=
  (.ok (), outgoing)

end Outgoing

inductive TlsTransportError (ε : Type) where
  | tls (error : ε)
  | writeZero
deriving DecidableEq

def TlsTransport.write {S ε : Type} (write : S → Bytes → Except ε Nat × S) (flush : S → Except ε Unit × S)
    (session : S) (buf : Bytes) : Except (TlsTransportError ε) Unit × S :=
  if buf = [] then
    match flush session with
    | (.error error, session) => (.error (.tls error), session)
    | (.ok (), session) => (.ok (), session)
  else
    match write session buf with
    | (.error error, session) => (.error (.tls error), session)
    | (.ok 0, session) => (.error .writeZero, session)
    | (.ok (count + 1), session) => TlsTransport.write write flush session (buf.drop (count + 1))
termination_by buf.length
decreasing_by
  have positive := List.length_pos_iff.mpr ‹buf ≠ []›
  simp only [List.length_drop]
  omega

def innerPlaintext (contentType : UInt8) (plaintext : Bytes) : Bytes :=
  plaintext ++ contentType :: List.replicate 16 0

def sealRecord (capacity : Nat) (contentType : UInt8) (plaintext : Bytes) : Except TlsError (Text capacity) :=
  let body := innerPlaintext contentType plaintext
  if body.length < 65536 then
    (Bounded.ofList? ([tlsCtApplicationData, 3, 3] ++ bigEndian 2 body.length ++ body)).elim
      (.error .insufficientSpace) .ok
  else .error .insufficientSpace

def openRecord (capacity : Nat) (record : Bytes) : Except TlsError (AppDataOrAlert capacity) :=
  let plaintext := slice record recordHeaderLen (record.length - 17)
  if record.getD (record.length - 17) 0 = tlsCtAlert then .ok (.alert .warning .closeNotify)
  else (Bounded.ofList? plaintext).elim (.error .insufficientSpace) fun plaintext => .ok (.appData plaintext)

def nullCipher : TlsServerSession Unit where
  decryptAppDataOrAlert capacity _ record := (openRecord capacity record, ())
  encryptAppData capacity _ plaintext := (sealRecord capacity tlsCtApplicationData plaintext, ())
  encryptAlert capacity _ _ _ := (sealRecord capacity tlsCtAlert [1, 0], ())

end PicoBroker
