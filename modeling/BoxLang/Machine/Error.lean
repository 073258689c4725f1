/-!
# Evaluation errors

Why an evaluation ends without a value.
-/

namespace BoxLang

inductive EvalError
  | variableNotFound (name : String)
  /-- The method found for a call has no body. -/
  | notCallable
  /-- The chain of delegates of a call never ends. -/
  | delegationCycle
  | unsupported (feature : String)
  | frameLimit (maxFrames : Nat)
  | stepLimit (maxSteps : Nat)
  /-- The machine is in a state that no evaluation reaches. -/
  | internal (message : String)
  deriving DecidableEq

namespace EvalError

def message : EvalError → String
  | .variableNotFound name => s!"Variable `{name}` not found"
  | .notCallable => "Call target has no callable method"
  | .delegationCycle => "`call` delegation chain forms a cycle"
  | .unsupported feature => s!"Unsupported: {feature}"
  | .frameLimit maxFrames =>
      s!"Evaluation frame stack exceeds maximum of {maxFrames} frames"
  | .stepLimit maxSteps => s!"Evaluation exceeds maximum of {maxSteps} steps"
  | .internal message => s!"Internal evaluator error: {message}"

end EvalError

end BoxLang
