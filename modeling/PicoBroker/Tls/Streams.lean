import PicoBroker.Shared.Execution
import PicoBroker.Tls.Session

set_option autoImplicit false

namespace PicoBroker

variable {τ σ : Type} {bufferSize : Nat}

structure PendingRead (τ : Type) where
  room : Nat
  fetch : RecordReader τ Bytes
  taken : Bytes

def PendingRead.new (bufferSize room : Nat) : PendingRead τ := ⟨room, fetchRecord bufferSize, []⟩

structure TlsStream (τ σ : Type) (bufferSize : Nat) where
  session : EmbeddedTlsPskSession σ bufferSize
  incoming : List Bytes
  ending : Option (Ending τ)
  pending : Option (PendingRead τ)

inductive StreamLabel (τ : Type) where
  | arrive (chunk : Bytes)
  | finish (ending : Ending τ)
  | read (room : Nat)
  | poll
  | drop
  | close

inductive StreamEvent (τ : Type) where
  | arrived (chunk : Bytes)
  | finished (ending : Ending τ)
  | returned (result : Except (SessionError τ) Bytes)
  | closed

namespace TlsStream

-- After the handshake.
def new (inner : σ) : TlsStream τ σ bufferSize := ⟨⟨inner, .new, true, false⟩, [], none, none⟩

-- Another turn starts with the next poll.
def refill (server : TlsServerSession σ) (stream : TlsStream τ σ bufferSize) (room : Nat)
    (fetched : Except (SessionError τ) Bytes) : TlsStream τ σ bufferSize × List (StreamEvent τ) :=
  match stream.session.refillPlaintext server fetched with
  | (none, session) => ({ stream with session := session, pending := some (.new bufferSize room) }, [])
  | (some result, session) =>
      ({ stream with session := (session.endRead room result).2, pending := none },
        [.returned (session.endRead room result).1])

def pollRead (server : TlsServerSession σ) (stream : TlsStream τ σ bufferSize) (pending : PendingRead τ) :
    TlsStream τ σ bufferSize × List (StreamEvent τ) :=
  let polled := pending.fetch.poll stream.ending stream.incoming
  let stream := { stream with incoming := polled.left }
  match polled.reader with
  | .done record => stream.refill server pending.room (.ok record)
  | .fail error => stream.refill server pending.room (.error error)
  | .read room next =>
      ({ stream with pending := some ⟨pending.room, .read room next, pending.taken ++ polled.taken⟩ }, [])

def step (server : TlsServerSession σ) : Execution.Step (TlsStream τ σ bufferSize) (StreamLabel τ) (StreamEvent τ)
  | stream, .arrive chunk =>
      if chunk = [] ∨ stream.ending.isSome then none
      else some ({ stream with incoming := stream.incoming ++ [chunk] }, [.arrived chunk])
  | stream, .finish ending =>
      if stream.ending.isSome then none else some ({ stream with ending := some ending }, [.finished ending])
  | stream, .read room =>
      match stream.pending with
      | some _ => none
      | none =>
          match stream.session.beginRead room with
          | some (result, session) => some ({ stream with session := session }, [.returned result])
          | none => some ({ stream with pending := some (.new bufferSize room) }, [])
  | stream, .poll => stream.pending.map (stream.pollRead server)
  | stream, .drop => stream.pending.map fun _ => ({ stream with pending := none }, [])
  | stream, .close =>
      match stream.pending with
      | some _ => none
      | none => some ({ stream with session := (stream.session.close server).2 }, [.closed])

def taken (stream : TlsStream τ σ bufferSize) : Bytes := stream.pending.elim [] PendingRead.taken

inductive Move (server : TlsServerSession σ) (stream : TlsStream τ σ bufferSize) :
    StreamLabel τ → TlsStream τ σ bufferSize → List (StreamEvent τ) → Prop
  | arrived {chunk : Bytes} (nonempty : chunk ≠ []) (running : stream.ending = none) :
      Move server stream (.arrive chunk) { stream with incoming := stream.incoming ++ [chunk] } [.arrived chunk]
  | finished {ending : Ending τ} (running : stream.ending = none) :
      Move server stream (.finish ending) { stream with ending := some ending } [.finished ending]
  | answered {room : Nat} {result : Except (SessionError τ) Bytes} {session : EmbeddedTlsPskSession σ bufferSize}
      (idle : stream.pending = none) (answer : stream.session.beginRead room = some (result, session)) :
      Move server stream (.read room) { stream with session := session } [.returned result]
  | started {room : Nat} (idle : stream.pending = none)
      (drained : stream.session.beginRead room =
        (none : Option (Except (SessionError τ) Bytes × EmbeddedTlsPskSession σ bufferSize))) :
      Move server stream (.read room) { stream with pending := some (.new bufferSize room) } []
  | waited {pending : PendingRead τ} {room : Nat} {next : Answer τ UInt8 → RecordReader τ Bytes} {taken : Bytes}
      {left : List Bytes} (waiting : stream.pending = some pending)
      (polled : pending.fetch.poll stream.ending stream.incoming = ⟨.read room next, taken, left⟩) :
      Move server stream .poll { stream with
        incoming := left, pending := some ⟨pending.room, .read room next, pending.taken ++ taken⟩ } []
  | skipped {pending : PendingRead τ} {fetched : Except (SessionError τ) Bytes} {taken : Bytes} {left : List Bytes}
      {session : EmbeddedTlsPskSession σ bufferSize} (waiting : stream.pending = some pending)
      (polled : pending.fetch.poll stream.ending stream.incoming = ⟨.ofExcept fetched, taken, left⟩)
      (again : stream.session.refillPlaintext server fetched = (none, session)) :
      Move server stream .poll { stream with
        session := session, incoming := left, pending := some (.new bufferSize pending.room) } []
  | refilled {pending : PendingRead τ} {fetched : Except (SessionError τ) Bytes} {taken : Bytes} {left : List Bytes}
      {session : EmbeddedTlsPskSession σ bufferSize} {result : Except (SessionError τ) Unit}
      (waiting : stream.pending = some pending)
      (polled : pending.fetch.poll stream.ending stream.incoming = ⟨.ofExcept fetched, taken, left⟩)
      (filled : stream.session.refillPlaintext server fetched = (some result, session)) :
      Move server stream .poll { stream with
        session := (session.endRead pending.room result).2, incoming := left, pending := none }
        [.returned (session.endRead pending.room result).1]
  | dropped {pending : PendingRead τ} (waiting : stream.pending = some pending) :
      Move server stream .drop { stream with pending := none } []
  | closed (idle : stream.pending = none) :
      Move server stream .close { stream with session := (stream.session.close server).2 } [.closed]

section

variable {server : TlsServerSession σ} {stream next : TlsStream τ σ bufferSize}

theorem refill_move {pending : PendingRead τ} {fetched : Except (SessionError τ) Bytes} {taken : Bytes}
    {left : List Bytes} (waiting : stream.pending = some pending)
    (polled : pending.fetch.poll stream.ending stream.incoming = ⟨.ofExcept fetched, taken, left⟩) :
    let after := ({ stream with incoming := left } : TlsStream τ σ bufferSize).refill server pending.room fetched
    Move server stream .poll after.1 after.2 := by
  intro after
  unfold after refill
  cases refilled : stream.session.refillPlaintext server fetched with
  | mk result session =>
    cases result with
    | none => exact .skipped waiting polled refilled
    | some result => exact .refilled waiting polled refilled

theorem pollRead_move {pending : PendingRead τ} (waiting : stream.pending = some pending) :
    Move server stream .poll (stream.pollRead server pending).1 (stream.pollRead server pending).2 := by
  unfold pollRead
  cases polled : pending.fetch.poll stream.ending stream.incoming with
  | mk reader taken left =>
    cases reader with
    | done record => exact refill_move waiting polled
    | fail error => exact refill_move waiting polled
    | read room next => exact .waited waiting polled

theorem step_move {label : StreamLabel τ} {new : List (StreamEvent τ)}
    (taken : step server stream label = some (next, new)) : Move server stream label next new := by
  cases label with
  | arrive chunk =>
    simp only [step] at taken
    split at taken
    · cases taken
    · next enabled =>
      cases taken
      exact .arrived (fun empty => enabled (.inl empty)) (by simpa using fun ended => enabled (.inr ended))
  | finish ending =>
    simp only [step] at taken
    split at taken
    · cases taken
    · next running =>
      cases taken
      exact .finished (by simpa using running)
  | read room =>
    simp only [step] at taken
    split at taken
    · cases taken
    · next idle =>
      split at taken
      · next answer =>
        cases taken
        exact .answered idle answer
      · next drained =>
        cases taken
        exact .started idle drained
  | poll =>
    obtain ⟨pending, waiting, same⟩ := Option.map_eq_some_iff.mp taken
    have move : Move server stream .poll _ _ := pollRead_move waiting
    rwa [same] at move
  | drop =>
    obtain ⟨pending, waiting, same⟩ := Option.map_eq_some_iff.mp taken
    cases same
    exact .dropped waiting
  | close =>
    simp only [step] at taken
    split at taken
    · cases taken
    · next idle =>
      cases taken
      exact .closed idle

end

end TlsStream

structure TlsRecord where
  contentType : UInt8
  major : UInt8
  minor : UInt8
  body : Bytes
  short : body.length < 65536

def TlsRecord.bytes (record : TlsRecord) : Bytes :=
  [record.contentType, record.major, record.minor] ++ Fields.bigEndian 2 record.body.length ++ record.body

inductive PeerRecord where
  | changeCipherSpec (record : TlsRecord)
  | appData (record : TlsRecord) (plaintext : Bytes)
  | alert (record : TlsRecord)

namespace PeerRecord

def record : PeerRecord → TlsRecord
  | changeCipherSpec record => record
  | appData record _ => record
  | alert record => record

def plaintext : PeerRecord → Bytes
  | appData _ plaintext => plaintext
  | _ => []

end PeerRecord

def wireBytes (sent : List PeerRecord) : Bytes := sent.flatMap fun item => item.record.bytes

def plaintexts (sent : List PeerRecord) : Bytes := sent.flatMap PeerRecord.plaintext

-- An alert is the last record that is read.
def Decrypts (server : TlsServerSession σ) (bufferSize : Nat) : σ → List PeerRecord → Prop
  | _, [] => True
  | inner, .changeCipherSpec record :: rest =>
      record.contentType = tlsCtChangeCipherSpec ∧ Decrypts server bufferSize inner rest
  | inner, .appData record plaintext :: rest =>
      record.contentType = tlsCtApplicationData ∧ ∃ found next,
        server.decryptAppDataOrAlert bufferSize inner record.bytes = (.ok (.appData found), next) ∧
          found.items = plaintext ∧ Decrypts server bufferSize next rest
  | inner, .alert record :: _ =>
      record.contentType = tlsCtAlert ∨
        record.contentType = tlsCtApplicationData ∧ ∃ level description next,
          server.decryptAppDataOrAlert bufferSize inner record.bytes = (.ok (.alert level description), next)

end PicoBroker
