import PicoBroker.Broker.Topics

set_option autoImplicit false

namespace PicoBroker

abbrev Instant := Nat
abbrev Duration := Nat

def tickHz : Nat := 1000000
def instantMax : Instant := UInt64.size - 1

def fromSecs (secs : Nat) : Duration := secs * tickHz
def fromMillis (millis : Nat) : Duration := millis * (tickHz / 1000)
def asSecs (duration : Duration) : Nat := duration / tickHz

def checkedDurationSince (now earlier : Instant) : Option Duration :=
  if earlier ≤ now then some (now - earlier) else none

def checkedAdd (instant : Instant) (duration : Duration) : Option Instant :=
  if instant + duration ≤ instantMax then some (instant + duration) else none

structure BrokerConfig where
  houseTokenUsername : Bytes
  houseTokenPassword : Bytes
  rateCapacity : Nat
  ratePerSec : Nat
  maxViolations : Nat
  maxOutboxDrops : Nat
  qos1RetryMs : Nat
  qos1MaxRetries : Nat
deriving DecidableEq

def gatomqttConfig : BrokerConfig where
  houseTokenUsername := [104, 111, 117, 115, 101]
  houseTokenPassword := [115, 101, 99, 114, 101, 116]
  rateCapacity := 20
  ratePerSec := 10
  maxViolations := 50
  maxOutboxDrops := 16
  qos1RetryMs := 5000
  qos1MaxRetries := 3

def saturatingAddU8 (value amount : Nat) : Nat := min (value + amount) 255

structure TokenBucket where
  tokens : Nat
  capacity : Nat
  ratePerSec : Nat
  lastRefill : Instant
  violations : Nat
deriving DecidableEq

namespace TokenBucket

def new (capacity ratePerSec : Nat) : TokenBucket := ⟨capacity, capacity, ratePerSec, 0, 0⟩

def refill (bucket : TokenBucket) (now : Instant) : TokenBucket :=
  match checkedDurationSince now bucket.lastRefill with
  | none => bucket
  | some elapsed =>
      if asSecs elapsed > 0 then
        let refill := min (min (asSecs elapsed * bucket.ratePerSec) (UInt64.size - 1)) 255
        { bucket with
          tokens := min (saturatingAddU8 bucket.tokens refill) bucket.capacity
          lastRefill := now }
      else bucket

def tryConsume (bucket : TokenBucket) (now : Instant) : Bool × TokenBucket :=
  let bucket := bucket.refill now
  if bucket.tokens > 0 then
    (true, { bucket with tokens := bucket.tokens - 1, violations := 0 })
  else (false, { bucket with violations := saturatingAddU8 bucket.violations 1 })

end TokenBucket

def maxOutboundFrameSize : Nat := 192
def maxOutboxDepth : Nat := 8

abbrev SessionId := Nat
abbrev ClientId := Text 64

structure Subscription where
  filter : Text 128
  qos : QoS
deriving DecidableEq

structure StoredPublishHandle where
  slot : Nat
  generation : Nat
deriving DecidableEq

structure InflightEntry where
  packetId : Nat
  publish : StoredPublishHandle
  qos : QoS
  sentAt : Instant
  retries : Nat
deriving DecidableEq

structure LwtMessage where
  topic : Text 128
  payload : Text 512
  qos : QoS
  retain : Bool
deriving DecidableEq

structure OutboundPacket where
  bytes : Text maxOutboundFrameSize
deriving DecidableEq

-- `packetIdCounter` is the private field `next_packet_id`, which holds the id given out last.
structure SessionState (maxSubs maxInflight : Nat) where
  clientId : ClientId
  subscriptions : Bounded Subscription maxSubs
  inflight : Bounded InflightEntry maxInflight
  outbox : Bounded OutboundPacket maxOutboxDepth
  rate : TokenBucket
  keepaliveSecs : Nat
  lastActivity : Instant
  lwt : Option LwtMessage
  outboxDrops : Nat
  quarantined : Bool
  packetIdCounter : Nat
deriving DecidableEq

namespace SessionState

variable {maxSubs maxInflight : Nat}

def new (clientId : ClientId) (keepaliveSecs : Nat) : SessionState maxSubs maxInflight where
  clientId := clientId
  subscriptions := .empty
  inflight := .empty
  outbox := .empty
  rate := .new gatomqttConfig.rateCapacity gatomqttConfig.ratePerSec
  keepaliveSecs := keepaliveSecs
  lastActivity := 0
  lwt := none
  outboxDrops := 0
  quarantined := false
  packetIdCounter := 0

def inflightAdd (session : SessionState maxSubs maxInflight) (entry : InflightEntry) :
    Option (SessionState maxSubs maxInflight) :=
  (session.inflight.push entry).map fun inflight => { session with inflight := inflight }

def inflightRemove (session : SessionState maxSubs maxInflight) (packetId : Nat) :
    Option (InflightEntry × SessionState maxSubs maxInflight) :=
  match session.inflight.items.findIdx? fun entry => entry.packetId == packetId with
  | none => none
  | some index =>
      session.inflight.items[index]?.map fun entry =>
        (entry, { session with inflight := session.inflight.eraseIdx index })

def updateActivityAt (session : SessionState maxSubs maxInflight) (now : Instant) :
    SessionState maxSubs maxInflight :=
  { session with lastActivity := now }

def keepaliveDeadline (session : SessionState maxSubs maxInflight) : Instant :=
  if session.keepaliveSecs = 0 then instantMax
  else (checkedAdd session.lastActivity (fromSecs (session.keepaliveSecs * 3 / 2))).getD instantMax

def isKeepaliveExpired (session : SessionState maxSubs maxInflight) (now : Instant) : Bool :=
  if session.keepaliveSecs = 0 then false else decide (now > session.keepaliveDeadline)

def retryRemaining (now : Instant) (retryTimeout : Duration) (entry : InflightEntry) : Duration :=
  let elapsed := (checkedDurationSince now entry.sentAt).getD 0
  if elapsed ≥ retryTimeout then 0 else retryTimeout - elapsed

def nextWakeupAfter (session : SessionState maxSubs maxInflight) (now : Instant) (qos1RetryMs : Nat)
    (maxWait : Duration) : Duration :=
  let retries (wait : Duration) : Duration :=
    max (session.inflight.items.foldl
      (fun wait entry => min wait (retryRemaining now (fromMillis qos1RetryMs) entry)) wait) 1
  if session.keepaliveSecs > 0 then
    match checkedDurationSince session.keepaliveDeadline now with
    | some remaining => retries (min maxWait remaining)
    | none => 1
  else retries maxWait

-- `wrapping_add` on a `u16`, with zero skipped.
def succPacketId (counter : Nat) : Nat :=
  if (counter + 1) % 65536 = 0 then 1 else (counter + 1) % 65536

def nextPacketId (session : SessionState maxSubs maxInflight) :
    Nat × SessionState maxSubs maxInflight :=
  (succPacketId session.packetIdCounter,
    { session with packetIdCounter := succPacketId session.packetIdCounter })

theorem succPacketId_pos (counter : Nat) : 0 < succPacketId counter := by
  unfold succPacketId
  split <;> omega

theorem succPacketId_lt (counter : Nat) : succPacketId counter < 65536 := by
  unfold succPacketId
  split <;> omega

theorem succPacketId_ne (counter : Nat) : succPacketId counter ≠ counter := by
  unfold succPacketId
  split <;> omega

theorem succPacketId_of_lt {counter : Nat} (below : counter < 65535) :
    succPacketId counter = counter + 1 := by
  unfold succPacketId
  split <;> omega

theorem inflightRemove_eq_some {session removed : SessionState maxSubs maxInflight} {packetId : Nat}
    {entry : InflightEntry} (found : session.inflightRemove packetId = some (entry, removed)) :
    ∃ before after, session.inflight.items = before ++ entry :: after ∧ entry.packetId = packetId ∧
      removed.inflight.items = before ++ after ∧
      removed = { session with inflight := removed.inflight } := by
  unfold inflightRemove at found
  split at found
  · cases found
  · next index located =>
    obtain ⟨inside, matched, _⟩ := List.findIdx?_eq_some_iff_getElem.mp located
    simp only [List.getElem?_eq_getElem inside, Option.map_some, Option.some.injEq, Prod.mk.injEq]
      at found
    obtain ⟨rfl, rfl⟩ := found
    refine ⟨session.inflight.items.take index, session.inflight.items.drop (index + 1), ?_, ?_, ?_, rfl⟩
    · simp
    · simpa using matched
    · simp [List.eraseIdx_eq_take_drop_succ]

theorem inflightRemove_eq_none {session : SessionState maxSubs maxInflight} {packetId : Nat} :
    session.inflightRemove packetId = none ↔
      ∀ entry ∈ session.inflight.items, entry.packetId ≠ packetId := by
  unfold inflightRemove
  split
  · next missing =>
    rw [List.findIdx?_eq_none_iff] at missing
    simpa using missing
  · next index located =>
    obtain ⟨inside, matched, _⟩ := List.findIdx?_eq_some_iff_getElem.mp located
    simp only [List.getElem?_eq_getElem inside, Option.map_some, reduceCtorEq, false_iff]
    intro absent
    exact absent _ (List.getElem_mem inside) (by simpa using matched)

end SessionState

end PicoBroker
