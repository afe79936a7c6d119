import PicoBroker.Broker.Steps
import PicoBroker.Contracts.Framing
import PicoBroker.Invariants.ReferenceCounts

set_option autoImplicit false

namespace PicoBroker

open Execution (Run Anything)

variable {maxSessions maxSubs maxInflight maxRetained : Nat} {env : Env}

theorem Consistent.connected {broker : Broker maxSessions maxSubs maxInflight maxRetained} {id : Nat}
    {packet : Connect} {now : Instant} {result : Result maxSessions maxSubs maxInflight maxRetained}
    (consistent : Consistent broker.registry) (connected : Connected env broker id packet now result) :
    Consistent result.broker.registry := by
  cases connected with
  | accepted admission present => exact (consistent.admission admission).put present rfl
  | refused admission _ _ => exact consistent.admission admission

theorem Consistent.deliverLwt {codec : Codec} {lwt : LwtMessage}
    {state : SessionRegistry maxSessions maxSubs maxInflight × SessionSignals maxSessions}
    (consistent : Consistent state.1) (delivery : SessionId × QoS) :
    Consistent (deliverLwt codec lwt state delivery).1 := by
  unfold PicoBroker.deliverLwt
  split
  · exact consistent
  · next target found =>
    split
    · exact consistent
    · split
      · exact consistent
      · exact consistent.put found rfl

theorem Consistent.deliverLwts {codec : Codec} {lwt : LwtMessage}
    {state : SessionRegistry maxSessions maxSubs maxInflight × SessionSignals maxSessions}
    (consistent : Consistent state.1) (deliveries : List (SessionId × QoS)) :
    Consistent (deliverLwts codec lwt state deliveries).1 := by
  induction deliveries generalizing state with
  | nil => exact consistent
  | cons delivery rest ih => exact ih (consistent.deliverLwt delivery)

theorem Consistent.turn {broker : Broker maxSessions maxSubs maxInflight maxRetained} {id : Nat}
    {conn : Conn} {input : Input} {result : Result maxSessions maxSubs maxInflight maxRetained}
    (consistent : Consistent broker.registry) (turn : Turn env broker id conn input result) :
    Consistent result.broker.registry := by
  have touched {slot : SessionId} {session : SessionState maxSubs maxInflight}
      (present : broker.registry.get slot = some session) (now : Instant) :
      Consistent (touchedBroker broker slot session now).registry :=
    consistent.put present rfl
  cases turn with
  | connect _ => exact consistent.connected (connectStep_connected ..)
  | abandoned | unanswered | moved | flushed | wrote | announced => exact consistent
  | popped _ present _ => exact consistent.put present rfl
  | drained _ present => exact consistent.put present rfl
  | served _ retries _ => exact consistent.retried retries.retried
  | published _ present handled _ =>
    rw [handled]
    exact Consistent.handlePublishAt (touched present _)
  | acknowledged _ present => exact (touched present _).acknowledge _ _
  | handled _ present => exact consistent.put present rfl
  | delivered _ sent =>
    rw [sent]
    exact Consistent.deliverLwts consistent _
  | removed _ => exact consistent.remove _

theorem step_consistent {system next : System maxSessions maxSubs maxInflight maxRetained} {label : Label}
    {new : List Event} (consistent : Consistent system.broker.registry)
    (taken : System.step env system label = some (next, new)) : Consistent next.broker.registry := by
  cases step_transition taken with
  | spawned => exact consistent
  | outbound sent =>
    rw [sent]
    exact Consistent.processOutboundPublish consistent
  | connected _ _ connected => exact consistent.connected connected
  | removed _ _ => exact consistent.remove _
  | ordinary _ turn _ => exact consistent.turn turn

theorem run_consistent {allowed : System maxSessions maxSubs maxInflight maxRetained → Label → Prop}
    {labels : List Label} {events : List Event} {system : System maxSessions maxSubs maxInflight maxRetained}
    (run : Run (System.step env) allowed .new labels events system) : Consistent system.broker.registry :=
  run.invariant (P := fun _ system => Consistent system.broker.registry) consistent_new
    fun _ _ _ _ _ consistent _ taken => step_consistent consistent taken

theorem references_exact_in_runs {labels : List WireLabel} {events : List WireEvent}
    {wired : Wired maxSessions maxSubs maxInflight maxRetained}
    (run : Run (Wired.step env) Anything (.new env) labels events wired) :
    ReferencesExact env.codec wired.system.broker.registry := by
  obtain ⟨_, above⟩ := Wired.run_system run
  exact (run_consistent above).referencesExact env.codec

-- A subscriber at QoS 1 has not acknowledged a message yet.
def awaitedPuback : List WireLabel :=
  clientStarts.take 6 ++ [.arrive 0 [130, 6, 0, 1, 0, 1, 116, 1], .poll 0 none 0 0 true,
    .broker (.outbound ⟨.truncate [116], .truncate [120], .atLeastOnce, false⟩ 0)]

theorem references_exact_in_flight :
    ∃ (wired : Wired 1 1 1 1) (events : List WireEvent),
      Run (Wired.step gatomqttEnv) Anything (.new gatomqttEnv) awaitedPuback events wired ∧
      (wired.system.broker.registry.storedPublishes.get 0).isSome = true ∧
      ReferencesExact gatomqttEnv.codec wired.system.broker.registry := by
  obtain ⟨wired, events, run, stored⟩ : ∃ (wired : Wired 1 1 1 1) (events : List WireEvent),
      Run (Wired.step gatomqttEnv) Anything (.new gatomqttEnv) awaitedPuback events wired ∧
      (wired.system.broker.registry.storedPublishes.get 0).isSome = true :=
    Execution.exists_run (by decide +kernel)
  exact ⟨wired, events, run, stored, references_exact_in_runs run⟩

end PicoBroker
