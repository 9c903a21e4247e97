import ShaderFlow.Fault
import ShaderFlow.Graph.Basic

/-!
# Faults of control flow
-/

namespace ShaderFlow

/-- Why a control-flow instruction is refused. -/
inductive FlowFault where
  | missingCondition
  | missingSelector
  /-- One more scope would exceed the limit. -/
  | tooDeep (limit : Nat)
  | elseOutsideIf
  | secondElse
  | endIfOutsideIf
  | endLoopOutsideLoop
  | breakOutsideLoopOrSwitch
  | continueOutsideLoop
  | caseNotScalar
  | caseOutsideSwitch
  | duplicateCase (value : UInt32)
  | defaultOutsideSwitch
  | secondDefault
  | endSwitchOutsideSwitch
  /-- Only pixel shaders can discard. -/
  | discardOutsidePixel
  | notControlFlow
  | terminated (e : AlreadyTerminated)
  deriving DecidableEq

namespace FlowFault

/-- A discard elsewhere is legal in the format but not handled; all else breaks its rules. -/
def kind : FlowFault → FaultKind
  | .discardOutsidePixel => .unsupported
  | _ => .malformed

/-- What is wrong with an instruction of the given name. -/
def reason (name : String) : FlowFault → String
  | .missingCondition => "missing condition operand"
  | .missingSelector => "missing selector operand"
  | .tooDeep limit => s!"control flow nesting exceeds maximum {limit} levels"
  | .elseOutsideIf => "else without matching if"
  | .secondElse => "second else for the same if"
  | .endIfOutsideIf => "endif without matching if"
  | .endLoopOutsideLoop => "endloop without matching loop"
  | .breakOutsideLoopOrSwitch => name ++ " outside of loop or switch"
  | .continueOutsideLoop => name ++ " outside of loop"
  | .caseNotScalar => "case label must be a scalar immediate"
  | .caseOutsideSwitch => "case outside of switch"
  | .duplicateCase value => s!"duplicate case {value}"
  | .defaultOutsideSwitch => "default outside of switch"
  | .secondDefault => "second default in the same switch"
  | .endSwitchOutsideSwitch => "endswitch without matching switch"
  | .discardOutsidePixel => "only valid in pixel shaders"
  | .notControlFlow => name ++ " is not a control flow opcode"
  | .terminated e => e.message

/-- The message about an instruction with the given opcode. -/
def message (op : Opcode) (f : FlowFault) : String := op.name ++ ": " ++ f.reason op.name

end FlowFault

end ShaderFlow
