/-
The rule engine (`internal/rule/rule.go`, `internal/rule/engine.go`).

A rule has a topic filter, a condition in CEL and actions.  `Evaluate` goes through the rules
whose filter matches a topic and hands the actions of those whose condition holds to the executor.
What a compiled condition says about a message is a parameter.
-/
import Dmqtt.Matching

namespace Dmqtt.Rule

open Lib

/-- What happens when a rule matches. -/
structure Action where
  type : Str
  targetTopic : Str := []
  webhookURL : Str := []
deriving DecidableEq

/-- The topic filter of a rule. -/
structure Source where
  topic : Str
deriving DecidableEq

/-- A rule that is enabled, with its condition compiled. -/
structure CompiledRule where
  id : Str
  source : Source
  actions : List Action
  evaluate : (topic : Str) → (payload : Bytes) → (qos : UInt8) → (clientID : Str) → Except Str Bool

/-- How many calls of `Evaluate` may be under way; the source takes them for nested ones. -/
def maxHopCount : ℤ := 5

/-- The rules whose actions `Evaluate` hands to the executor, when `depth` calls are under way. -/
def evaluate (rules : List CompiledRule) (depth : ℤ) (topic : Str) (payload : Bytes) (qos : UInt8)
    (clientID : Str) : List CompiledRule :=
  if depth > maxHopCount then []
  else
    rules.filter fun r =>
      topicMatch r.source.topic topic &&
        match r.evaluate topic payload qos clientID with
        | .ok matched => matched
        | .error _ => false

end Dmqtt.Rule
