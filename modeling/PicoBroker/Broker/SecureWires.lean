import PicoBroker.Broker.Connection
import PicoBroker.Broker.Reading
import PicoBroker.Tls.Handshake

set_option autoImplicit false

namespace PicoBroker

variable {τ σ ω : Type} {bufferSize : Nat}

abbrev SecureReader (τ : Type) := PacketReader (TlsTransportError (SessionError τ)) Packet

structure SecureWire (τ σ : Type) (bufferSize : Nat) where
  stream : TlsStream τ σ bufferSize
  frameBuf : Bytes
  future : SecureReader τ

inductive SecureLabel (τ : Type) where
  | arrive (chunk : Bytes)
  | finish (ending : Ending τ)
  | poll
  | wake
  | write (buf : Bytes) (sent : Except τ Unit)

inductive SecureEvent (τ : Type) where
  | stream (event : StreamEvent τ)
  | handled (packet : Packet)

namespace SecureWire

-- What the worker passes to `connection_loop` after `accept`.
def new (env : Env) (stream : TlsStream τ σ bufferSize) : SecureWire τ σ bufferSize :=
  ⟨stream, [], readPacket env.codec env.maxPacketSize⟩

def restart (env : Env) (wire : SecureWire τ σ bufferSize) : SecureWire τ σ bufferSize := .new env wire.stream

def reading (wire : SecureWire τ σ bufferSize) (room : Nat) : StreamLabel τ :=
  if wire.stream.pending.isSome then .poll else .read room

def feed (wire : SecureWire τ σ bufferSize)
    (next : Answer (TlsTransportError (SessionError τ)) UInt8 → SecureReader τ) :
    List (StreamEvent τ) → SecureWire τ σ bufferSize
  | [.returned result] =>
      { wire with
        frameBuf := wire.frameBuf ++ result.toOption.getD []
        future := next (result.mapError .tls) }
  | _ => wire

def write (server : TlsServerSession σ) (stream : TlsStream τ σ bufferSize) (buf : Bytes) (sent : Except τ Unit) :
    TlsStream τ σ bufferSize :=
  let outgoing : Outgoing σ Unit bufferSize := ⟨stream.session, (), []⟩
  { stream with session := (outgoing.write server (fun _ _ => (sent, ())) buf).2.session }

def step (env : Env) (server : TlsServerSession σ) :
    Execution.Step (SecureWire τ σ bufferSize) (SecureLabel τ) (SecureEvent τ)
  | wire, .arrive chunk =>
      (wire.stream.step server (.arrive chunk)).map fun (stream, events) =>
        ({ wire with stream := stream }, events.map .stream)
  | wire, .finish ending =>
      (wire.stream.step server (.finish ending)).map fun (stream, events) =>
        ({ wire with stream := stream }, events.map .stream)
  | wire, .poll =>
      match wire.future with
      | .done packet => some (wire.restart env, [.handled packet])
      | .fail _ => none
      | .read room next =>
          (wire.stream.step server (wire.reading room)).map fun (stream, events) =>
            (({ wire with stream := stream } : SecureWire τ σ bufferSize).feed next events, events.map .stream)
  | wire, .wake =>
      (wire.stream.step server .drop).map fun (stream, events) => (.new env stream, events.map .stream)
  | wire, .write buf sent =>
      if wire.stream.pending.isSome then none
      else some ({ wire with stream := write server wire.stream buf sent }, [])

inductive Move (env : Env) (server : TlsServerSession σ) (wire : SecureWire τ σ bufferSize) :
    SecureLabel τ → SecureWire τ σ bufferSize → List (SecureEvent τ) → Prop
  | arrived {chunk : Bytes} {stream : TlsStream τ σ bufferSize} {events : List (StreamEvent τ)}
      (moved : TlsStream.Move server wire.stream (.arrive chunk) stream events) :
      Move env server wire (.arrive chunk) { wire with stream := stream } (events.map .stream)
  | finished {ending : Ending τ} {stream : TlsStream τ σ bufferSize} {events : List (StreamEvent τ)}
      (moved : TlsStream.Move server wire.stream (.finish ending) stream events) :
      Move env server wire (.finish ending) { wire with stream := stream } (events.map .stream)
  | handled {packet : Packet} (ready : wire.future = .done packet) :
      Move env server wire .poll (wire.restart env) [.handled packet]
  | waited {room : Nat} {stream : TlsStream τ σ bufferSize}
      {next : Answer (TlsTransportError (SessionError τ)) UInt8 → SecureReader τ}
      (asks : wire.future = .read room next) (moved : TlsStream.Move server wire.stream (wire.reading room) stream []) :
      Move env server wire .poll { wire with stream := stream } []
  | read {room : Nat} {stream : TlsStream τ σ bufferSize} {result : Except (SessionError τ) Bytes}
      {next : Answer (TlsTransportError (SessionError τ)) UInt8 → SecureReader τ}
      (asks : wire.future = .read room next)
      (moved : TlsStream.Move server wire.stream (wire.reading room) stream [.returned result]) :
      Move env server wire .poll
        ⟨stream, wire.frameBuf ++ result.toOption.getD [], next (result.mapError .tls)⟩ [.stream (.returned result)]
  | woken {stream : TlsStream τ σ bufferSize} (moved : TlsStream.Move server wire.stream .drop stream []) :
      Move env server wire .wake (.new env stream) []
  | wrote {buf : Bytes} {sent : Except τ Unit} (idle : wire.stream.pending = none) :
      Move env server wire (.write buf sent) { wire with stream := write server wire.stream buf sent } []

section

variable {env : Env} {server : TlsServerSession σ} {wire next : SecureWire τ σ bufferSize}

-- A `read` shows nothing until it returns.
theorem reading_shows {room : Nat} {stream : TlsStream τ σ bufferSize} {events : List (StreamEvent τ)}
    (moved : TlsStream.Move server wire.stream (wire.reading room) stream events) :
    events = [] ∨ ∃ result, events = [.returned result] := by
  unfold reading at moved
  split at moved
  · cases moved with
    | waited | skipped => exact .inl rfl
    | refilled => exact .inr ⟨_, rfl⟩
  · cases moved with
    | answered => exact .inr ⟨_, rfl⟩
    | started => exact .inl rfl

theorem step_move {label : SecureLabel τ} {new : List (SecureEvent τ)}
    (taken : step env server wire label = some (next, new)) : Move env server wire label next new := by
  cases label with
  | arrive chunk =>
    obtain ⟨⟨stream, events⟩, stepped, same⟩ := Option.map_eq_some_iff.mp taken
    cases same
    exact .arrived (TlsStream.step_move stepped)
  | finish ending =>
    obtain ⟨⟨stream, events⟩, stepped, same⟩ := Option.map_eq_some_iff.mp taken
    cases same
    exact .finished (TlsStream.step_move stepped)
  | poll =>
    cases asks : wire.future with
    | done packet =>
      simp only [step, asks] at taken
      cases taken
      exact .handled asks
    | fail error =>
      simp only [step, asks] at taken
      cases taken
    | read room continues =>
      simp only [step, asks] at taken
      obtain ⟨⟨stream, events⟩, stepped, same⟩ := Option.map_eq_some_iff.mp taken
      have moved := TlsStream.step_move stepped
      rcases reading_shows moved with rfl | ⟨result, rfl⟩
      · cases same
        have move : Move env server wire .poll _ _ := .waited asks moved
        rwa [asks] at move
      · cases same
        exact .read asks moved
  | wake =>
    obtain ⟨⟨stream, events⟩, stepped, same⟩ := Option.map_eq_some_iff.mp taken
    cases same
    have moved := TlsStream.step_move stepped
    cases moved with
    | dropped waiting => exact .woken (.dropped waiting)
  | write buf sent =>
    simp only [step] at taken
    split at taken
    · cases taken
    · next idle =>
      cases taken
      exact .wrote (by simpa using idle)

end

def streamed (events : List (SecureEvent τ)) : List (StreamEvent τ) :=
  events.filterMap fun
    | .stream event => some event
    | .handled _ => none

def packets (events : List (SecureEvent τ)) : List Packet :=
  events.filterMap fun
    | .stream _ => none
    | .handled packet => some packet

end SecureWire

end PicoBroker
