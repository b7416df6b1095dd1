import ApiMock.Definition.Basic

/-!
# Running contexts

A running context begins with all counters at zero and all sequences at their first step. When it
ends, the counted calls are compared with the expected ones, children before their parents.
-/

set_option autoImplicit false

namespace ApiMock

def Dispatcher.reset : Dispatcher → Dispatcher
  | sequence _ => sequence 0
  | dispatcher => dispatcher

mutual

def Definition.reset : Definition → Definition
  | ⟨path, constraints, strategy, expectedCalls, _⟩ =>
    ⟨path, constraints, strategy.reset, expectedCalls, 0⟩

def Strategy.reset : Strategy → Strategy
  | .dispatch dispatcher children => .dispatch dispatcher.reset (resetChildren children)
  | .unset => .unset
  | .nop => .nop
  | .dropRequest => .dropRequest
  | .constant head body => .constant head body
  | .template head template => .template head template

def resetChildren : List (String × Definition) → List (String × Definition)
  | [] => []
  | (key, child) :: rest => (key, child.reset) :: resetChildren rest

end

def callCountFailures (path : String) (expected : Option Nat) (actual : Nat) : List Failure :=
  match expected.filter (· ≠ actual) with
  | some expected => [.callCount path expected actual]
  | none => []

mutual

def Definition.contextFailures : Definition → List Failure
  | ⟨path, _, strategy, expectedCalls, calls⟩ =>
    strategy.contextFailures ++ callCountFailures path expectedCalls calls

def Strategy.contextFailures : Strategy → List Failure
  | .dispatch _ children => childrenFailures children
  | .unset | .nop | .dropRequest | .constant .. | .template .. => []

def childrenFailures : List (String × Definition) → List Failure
  | [] => []
  | (_, child) :: rest => child.contextFailures ++ childrenFailures rest

end

end ApiMock
