import PicoBroker.Broker.Mqttrs

set_option autoImplicit false

namespace PicoBroker

def qosRank : QoS → Nat
  | .atMostOnce => 0
  | .atLeastOnce => 1
  | .exactlyOnce => 2

def maxQos (lhs rhs : QoS) : QoS := if qosRank lhs ≥ qosRank rhs then lhs else rhs

def minQos (lhs rhs : QoS) : QoS := if qosRank lhs ≤ qosRank rhs then lhs else rhs

def slash : UInt8 := 47
def plus : UInt8 := 43
def hash : UInt8 := 35
def dollar : UInt8 := 36

def levels (name : Bytes) : List Bytes := name.splitOn slash

def containsWildcards (filter : Bytes) : Bool := filter.any fun byte => byte == plus || byte == hash

-- The loop of `topic_matches` over the two level iterators.
def matchLevels : List Bytes → List Bytes → Bool
  | filterLevel :: filters, topics =>
      if filterLevel = [hash] then true
      else
        match topics with
        | [] => false
        | level :: rest =>
            if filterLevel = [plus] ∧ level ≠ [] then matchLevels filters rest
            else if filterLevel = level then matchLevels filters rest
            else false
  | [], [] => true
  | [], _ :: _ => false

def topicMatches (filter pubTopic : Bytes) : Bool :=
  if filter = pubTopic then true
  else if pubTopic.head? = some dollar ∧ containsWildcards filter then false
  else matchLevels (levels filter) (levels pubTopic)

-- "sb/+/device/+/set"
def commandFilter : Bytes :=
  [115, 98, 47, 43, 47, 100, 101, 118, 105, 99, 101, 47, 43, 47, 115, 101, 116]

def isCommandTopic (topic : Bytes) : Bool := topicMatches commandFilter topic

end PicoBroker
