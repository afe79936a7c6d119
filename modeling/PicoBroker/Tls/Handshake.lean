import PicoBroker.Tls.Streams

set_option autoImplicit false

namespace PicoBroker

variable {τ σ ω : Type} {bufferSize : Nat}

def tlsCtHandshake : UInt8 := 22

-- `TlsError::InvalidHandshake`
def TlsError.invalidHandshake : TlsError := .other 0

inductive HandshakeOutput (capacity : Nat) where
  | firstFlight (bytes : Text capacity)
  | helloRetryRequest (bytes : Text capacity)

-- The calls of `gatopsktls` during a handshake.
structure TlsServerHandshake (σ : Type) where
  processClientHello : (capacity : Nat) → σ → Bytes → Except TlsError (HandshakeOutput capacity) × σ
  processClientFinished : σ → Bytes → Except TlsError Unit × σ

structure Handshake (σ ω : Type) where
  inner : σ
  transport : ω

inductive Awaited where
  | clientHello
  | secondClientHello
  | clientFinished
deriving DecidableEq

inductive AcceptTurn (τ : Type) where
  | next (awaited : Awaited)
  | returned (result : Except (SessionError τ) Unit)

namespace Handshake

variable (server : TlsServerHandshake σ) (send : ω → Bytes → Except τ Unit × ω) (bufferSize : Nat)
  (handshake : Handshake σ ω)

def write (bytes : Bytes) (awaited : Awaited) : AcceptTurn τ × Handshake σ ω :=
  match send handshake.transport bytes with
  | (.error error, transport) => (.returned (.error (.transport error)), { handshake with transport := transport })
  | (.ok (), transport) => (.next awaited, { handshake with transport := transport })

def clientHello (record : Bytes) : AcceptTurn τ × Handshake σ ω :=
  if recordType record = tlsCtHandshake then
    match server.processClientHello bufferSize handshake.inner (record.drop recordHeaderLen) with
    | (.error error, inner) => (.returned (.error (.tls error)), { handshake with inner := inner })
    | (.ok (.firstFlight bytes), inner) => write send { handshake with inner := inner } bytes.items .clientFinished
    | (.ok (.helloRetryRequest bytes), inner) =>
        write send { handshake with inner := inner } bytes.items .secondClientHello
  else (.returned (.error (.unexpectedRecordType (recordType record))), handshake)

def secondClientHello (record : Bytes) : AcceptTurn τ × Handshake σ ω :=
  if recordType record = tlsCtChangeCipherSpec then (.next .secondClientHello, handshake)
  else if recordType record = tlsCtHandshake then
    match server.processClientHello bufferSize handshake.inner (record.drop recordHeaderLen) with
    | (.error error, inner) => (.returned (.error (.tls error)), { handshake with inner := inner })
    | (.ok (.firstFlight bytes), inner) => write send { handshake with inner := inner } bytes.items .clientFinished
    | (.ok (.helloRetryRequest _), inner) =>
        (.returned (.error (.tls .invalidHandshake)), { handshake with inner := inner })
  else (.returned (.error (.unexpectedRecordType (recordType record))), handshake)

def clientFinished (record : Bytes) : AcceptTurn τ × Handshake σ ω :=
  if recordType record = tlsCtChangeCipherSpec then (.next .clientFinished, handshake)
  else if recordType record = tlsCtApplicationData then
    match server.processClientFinished handshake.inner record with
    | (.error error, inner) => (.returned (.error (.tls error)), { handshake with inner := inner })
    | (.ok (), inner) => (.returned (.ok ()), { handshake with inner := inner })
  else (.returned (.error (.unexpectedRecordType (recordType record))), handshake)

-- From one `fetch_record` of `do_accept` to the next.
def turn (awaited : Awaited) (record : Bytes) : AcceptTurn τ × Handshake σ ω :=
  match awaited with
  | .clientHello => clientHello server send bufferSize handshake record
  | .secondClientHello => secondClientHello server send bufferSize handshake record
  | .clientFinished => clientFinished server handshake record

end Handshake

inductive Acceptance (τ : Type) where
  | fetching (awaited : Awaited) (fetch : RecordReader τ Bytes) (taken : Bytes)
  | returned (result : Except (SessionError τ) Unit)

structure AcceptStream (τ σ ω : Type) where
  handshake : Handshake σ ω
  incoming : List Bytes
  ending : Option (Ending τ)
  acceptance : Acceptance τ

inductive AcceptLabel (τ : Type) where
  | arrive (chunk : Bytes)
  | finish (ending : Ending τ)
  | poll

namespace AcceptStream

def fetching (bufferSize : Nat) (awaited : Awaited) : Acceptance τ := .fetching awaited (fetchRecord bufferSize) []

def new (bufferSize : Nat) (handshake : Handshake σ ω) : AcceptStream τ σ ω :=
  ⟨handshake, [], none, fetching bufferSize .clientHello⟩

def resume (bufferSize : Nat) (stream : AcceptStream τ σ ω) : AcceptTurn τ × Handshake σ ω → AcceptStream τ σ ω
  | (.next awaited, handshake) =>
      { stream with handshake := handshake, acceptance := fetching bufferSize awaited }
  | (.returned result, handshake) => { stream with handshake := handshake, acceptance := .returned result }

def step (server : TlsServerHandshake σ) (send : ω → Bytes → Except τ Unit × ω) (bufferSize : Nat) :
    Execution.Step (AcceptStream τ σ ω) (AcceptLabel τ) Bytes
  | stream, .arrive chunk =>
      if chunk = [] ∨ stream.ending.isSome then none
      else some ({ stream with incoming := stream.incoming ++ [chunk] }, [chunk])
  | stream, .finish ending =>
      if stream.ending.isSome then none else some ({ stream with ending := some ending }, [])
  | stream, .poll =>
      match stream.acceptance with
      | .returned _ => none
      | .fetching awaited fetch taken =>
          let polled := fetch.poll stream.ending stream.incoming
          let stream := { stream with incoming := polled.left }
          match polled.reader with
          | .done record =>
              some (stream.resume bufferSize (stream.handshake.turn server send bufferSize awaited record), [])
          | .fail error => some ({ stream with acceptance := .returned (.error error) }, [])
          | .read room next =>
              some ({ stream with
                acceptance := .fetching awaited (.read room next) (taken ++ polled.taken) }, [])

def established (stream : AcceptStream τ σ ω) : TlsStream τ σ bufferSize :=
  ⟨⟨stream.handshake.inner, .new, true, false⟩, stream.incoming, stream.ending, none⟩

inductive Move (server : TlsServerHandshake σ) (send : ω → Bytes → Except τ Unit × ω) (bufferSize : Nat)
    (stream : AcceptStream τ σ ω) : AcceptLabel τ → AcceptStream τ σ ω → List Bytes → Prop
  | arrived {chunk : Bytes} (nonempty : chunk ≠ []) (running : stream.ending = none) :
      Move server send bufferSize stream (.arrive chunk)
        { stream with incoming := stream.incoming ++ [chunk] } [chunk]
  | finished {ending : Ending τ} (running : stream.ending = none) :
      Move server send bufferSize stream (.finish ending) { stream with ending := some ending } []
  | waited {awaited : Awaited} {fetch : RecordReader τ Bytes} {taken more : Bytes} {room : Nat}
      {next : Answer τ UInt8 → RecordReader τ Bytes} {left : List Bytes}
      (waiting : stream.acceptance = .fetching awaited fetch taken)
      (polled : fetch.poll stream.ending stream.incoming = ⟨.read room next, more, left⟩) :
      Move server send bufferSize stream .poll
        { stream with incoming := left, acceptance := .fetching awaited (.read room next) (taken ++ more) } []
  | failed {awaited : Awaited} {fetch : RecordReader τ Bytes} {taken more : Bytes} {error : SessionError τ}
      {left : List Bytes} (waiting : stream.acceptance = .fetching awaited fetch taken)
      (polled : fetch.poll stream.ending stream.incoming = ⟨.fail error, more, left⟩) :
      Move server send bufferSize stream .poll
        { stream with incoming := left, acceptance := .returned (.error error) } []
  | fetched {awaited : Awaited} {fetch : RecordReader τ Bytes} {taken more record : Bytes} {left : List Bytes}
      (waiting : stream.acceptance = .fetching awaited fetch taken)
      (polled : fetch.poll stream.ending stream.incoming = ⟨.done record, more, left⟩) :
      Move server send bufferSize stream .poll
        (({ stream with incoming := left } : AcceptStream τ σ ω).resume bufferSize
          (stream.handshake.turn server send bufferSize awaited record)) []

theorem step_move {server : TlsServerHandshake σ} {send : ω → Bytes → Except τ Unit × ω}
    {stream next : AcceptStream τ σ ω} {label : AcceptLabel τ} {new : List Bytes}
    (taken : step server send bufferSize stream label = some (next, new)) :
    Move server send bufferSize stream label next new := by
  cases label with
  | arrive chunk =>
    simp only [step] at taken
    split at taken
    · cases taken
    · next enabled =>
      cases taken
      exact .arrived (fun empty => enabled (.inl empty)) (by simpa using fun ended => enabled (.inr ended))
  | finish ending =>
    simp only [step] at taken
    split at taken
    · cases taken
    · next running =>
      cases taken
      exact .finished (by simpa using running)
  | poll =>
    cases waiting : stream.acceptance with
    | returned result =>
      simp only [step, waiting] at taken
      cases taken
    | fetching awaited fetch part =>
      simp only [step, waiting] at taken
      cases polled : fetch.poll stream.ending stream.incoming with
      | mk reader more left =>
        rw [polled] at taken
        cases reader with
        | done record =>
          cases taken
          exact .fetched waiting polled
        | fail error =>
          cases taken
          exact .failed waiting polled
        | read room after =>
          cases taken
          exact .waited waiting polled

end AcceptStream

def nullHandshake : TlsServerHandshake Unit where
  processClientHello _ _ hello :=
    (.ok (if hello = [] then .helloRetryRequest (.truncate [1]) else .firstFlight (.truncate [2])), ())
  processClientFinished _ _ := (.ok (), ())

end PicoBroker
