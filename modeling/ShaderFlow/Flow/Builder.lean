import ShaderFlow.Flow.Fault
import ShaderFlow.Flow.Scope

/-!
# Building a graph from structured control flow

A `Builder` reads a stream of instructions once, from the front. It keeps the block that is being
filled and the scopes that are open. Ordinary instructions go to the current block
(`Builder.append`); a control-flow instruction closes it and goes on in another one
(`Builder.control`).

Steps run in a state monad whose state survives a refusal: blocks allocated and scopes entered
before the refusal stay.
-/

namespace ShaderFlow

/-- A graph under construction. -/
structure Builder (L : Type) where
  graph : Graph L
  /-- The block that is being filled. -/
  current : BlockId
  /-- The open scopes, the innermost first. -/
  scopes : List Scope
  /-- The number of scopes that may be open at once. -/
  maxNesting : Nat
  /-- Whether the function has returned outside of all scopes. -/
  returned : Bool
  deriving DecidableEq

/-- A step of a builder. A refused step leaves a state behind as well. -/
abbrev Build (L : Type) := EStateM FlowFault (Builder L)

namespace Builder

variable {L : Type}

/-- A builder at the start of a function. -/
def start (maxNesting : Nat) : Builder L where
  graph := .initial
  current := (Graph.initial : Graph L).entry
  scopes := []
  maxNesting
  returned := false

/-- The number of open scopes. -/
def depth (b : Builder L) : Nat := b.scopes.length

/-- Where `break` leads: behind the innermost loop or switch. -/
def breakTarget? (b : Builder L) : Option BlockId := b.scopes.findSome? Scope.breakTarget?

/-- Where `continue` leads: to the entrance of the innermost loop. -/
def continueTarget? (b : Builder L) : Option BlockId := b.scopes.findSome? Scope.continueTarget?

/-- Puts a lowered instruction into the current block. -/
def append (b : Builder L) (value : L) : Builder L :=
  { b with graph := b.graph.push b.current (.lowered value) }

/-! ## Elementary steps -/

/-- Allocates an open block. -/
def newBlock (name : String) : Build L BlockId :=
  modifyGet fun b =>
    let (id, graph) := b.graph.addBlock name
    (id, { b with graph })

/-- Goes on in another block. -/
def moveTo (block : BlockId) : Build L Unit :=
  modify fun b => { b with current := block }

/-- Gives a block its terminator. -/
def terminate (block : BlockId) (t : Terminator) : Build L Unit := do
  let b ← get
  match b.graph.terminate block t with
  | .ok graph => set { b with graph }
  | .error e => throw (.terminated e)

/-- Closes the current block. -/
def close (t : Terminator) : Build L Unit := do
  terminate (← get).current t

/-- Closes the current block with a jump. -/
def jump (target : BlockId) : Build L Unit := close (.jump target)

/-- Opens a scope, within the limit. -/
def enter (scope : Scope) : Build L Unit := do
  let b ← get
  require (b.depth < b.maxNesting) (.tooDeep b.maxNesting)
  set { b with scopes := scope :: b.scopes }

/-- Replaces the innermost scope. -/
def replaceTop (scope : Scope) : Build L Unit :=
  modify fun b => { b with scopes := scope :: b.scopes.tail }

/-- Drops the innermost scope. -/
def leave : Build L Unit :=
  modify fun b => { b with scopes := b.scopes.tail }

/-! ### Their effect on the state -/

section

variable (b : Builder L)

@[simp] theorem newBlock_apply (name : String) :
    newBlock name b =
      .ok (.ofIndex b.graph.size) { b with graph := (b.graph.addBlock name).2 } :=
  rfl

@[simp] theorem moveTo_apply (block : BlockId) :
    moveTo block b = .ok () { b with current := block } :=
  rfl

/-- A scope is opened if the limit allows one more. -/
theorem enter_apply (scope : Scope) :
    enter scope b =
      if b.depth < b.maxNesting then .ok () { b with scopes := scope :: b.scopes }
      else .error (.tooDeep b.maxNesting) b := by
  have henter : enter scope b = ((require (b.depth < b.maxNesting) (.tooDeep b.maxNesting) >>=
      fun _ => set { b with scopes := scope :: b.scopes }) : Build L Unit) b := rfl
  rw [henter]
  by_cases h : b.depth < b.maxNesting
  · rw [if_pos h]
    exact bind_of_ok (by rw [require_apply, if_pos h])
  · rw [if_neg h]
    exact bind_of_error (by rw [require_apply, if_neg h])

@[simp] theorem replaceTop_apply (scope : Scope) :
    replaceTop scope b = .ok () { b with scopes := scope :: b.scopes.tail } :=
  rfl

@[simp] theorem leave_apply : leave b = .ok () { b with scopes := b.scopes.tail } :=
  rfl

/-- A block is given a terminator, or the step is refused and changes nothing. -/
theorem terminate_apply (block : BlockId) (t : Terminator) :
    terminate block t b =
      match b.graph.terminate block t with
      | .ok graph => .ok () { b with graph }
      | .error e => .error (.terminated e) b := by
  have hterminate : terminate block t b = (match b.graph.terminate block t with
      | .ok graph => set { b with graph }
      | .error e => throw (.terminated e) : Build L Unit) b := rfl
  rw [hterminate]
  cases b.graph.terminate block t <;> rfl

@[simp] theorem close_apply (t : Terminator) : close t b = terminate b.current t b :=
  rfl

end

/-! ## Reading instructions -/

/-- The condition of a conditional instruction. -/
def condition (i : Instruction) : Except FlowFault Condition := do
  let operand ← orFault (i.operand? 0) .missingCondition
  return ⟨operand, i.test⟩

/-- The value of a `case` label: a single immediate. -/
def caseValue (i : Instruction) : Except FlowFault UInt32 := do
  let operand ← orFault (i.operand? 0) .caseNotScalar
  require (operand.kind = .immediate32 ∧ operand.components = 1) .caseNotScalar
  return operand.immediate.x

/-! ## Leaving the current block -/

/-- Closes the current block with a jump that is taken if the condition holds, and goes on in a new
block otherwise. -/
def branchOut (i : Instruction) (target : BlockId) (name : String) : Build L Unit := do
  let condition ← condition i
  let otherwise ← newBlock name
  close (.branch condition target otherwise)
  moveTo otherwise

/-- Closes the current block with a jump and goes on in a new, unreachable block. -/
def jumpOut (target : BlockId) (name : String) : Build L Unit := do
  jump target
  moveTo (← newBlock name)

/-! ## Conditionals -/

/-- Opens an `if`. -/
def beginIf (i : Instruction) : Build L Unit := do
  let condition ← condition i
  let ifTrue ← newBlock "if_true"
  let alternative ← newBlock "if_alternative"
  enter (.branch alternative none)
  close (.branch condition ifTrue alternative)
  moveTo ifTrue

/-- Ends the first arm of an `if` and goes on in the second. -/
def elseArm : Build L Unit := do
  match (← get).scopes.head? with
  | some (.branch alternative none) =>
    let merge ← newBlock "endif"
    jump merge
    replaceTop (.branch alternative (some merge))
    moveTo alternative
  | some (.branch _ (some _)) => throw .secondElse
  | _ => throw .elseOutsideIf

/-- Closes an `if`; without an `else` the block for a failed test is the block behind it. -/
def endIf : Build L Unit := do
  match (← get).scopes.head? with
  | some (.branch alternative merge) =>
    let target := merge.getD alternative
    jump target
    leave
    moveTo target
  | _ => throw .endIfOutsideIf

/-! ## Loops -/

/-- Opens a loop. -/
def beginLoop : Build L Unit := do
  let entrance ← newBlock "loop_entrance"
  let exit ← newBlock "endloop"
  enter (.loop entrance exit)
  jump entrance
  moveTo entrance

/-- Closes a loop: control goes back to its entrance. -/
def endLoop : Build L Unit := do
  match (← get).scopes.head? with
  | some (.loop entrance exit) =>
    jump entrance
    leave
    moveTo exit
  | _ => throw .endLoopOutsideLoop

/-! ## Switches -/

/-- Opens a switch. The current block stays open, because its targets are known only at the end.
Code before the first label goes to a block that nothing leads to. -/
def beginSwitch (i : Instruction) : Build L Unit := do
  let selector ← orFault (i.operand? 0) .missingSelector
  let exit ← newBlock "endswitch"
  let unlabelled ← newBlock "switch_empty"
  let dispatch := (← get).current
  enter (.switch { dispatch, exit, selector, cases := ∅, fallback := none })
  moveTo unlabelled

/-- Starts a case. Code before the label falls through to it. A repeated value is refused, and the
scope then holds the later label. -/
def caseLabel (i : Instruction) : Build L Unit := do
  let value ← caseValue i
  match (← get).scopes.head? with
  | some (.switch s) =>
    let body ← newBlock "switch_case"
    replaceTop (.switch { s with cases := s.cases.insert value body })
    require (value ∉ s.cases) (.duplicateCase value)
    jump body
    moveTo body
  | _ => throw .caseOutsideSwitch

/-- Starts the default case. -/
def defaultLabel : Build L Unit := do
  match (← get).scopes.head? with
  | some (.switch s) =>
    require (s.fallback = none) .secondDefault
    let body ← newBlock "switch_default"
    replaceTop (.switch { s with fallback := some body })
    jump body
    moveTo body
  | _ => throw .defaultOutsideSwitch

/-- Closes a switch and its dispatching block. The innermost scope is dropped in any case, also if
it is no switch. -/
def endSwitch : Build L Unit := do
  let scope := (← get).scopes.head?
  leave
  match scope with
  | some (.switch s) =>
    jump s.exit
    terminate s.dispatch (.switch s.selector s.cases s.default)
    moveTo s.exit
  | _ => throw .endSwitchOutsideSwitch

/-! ## Jumps -/

/-- Returns. Outside of all scopes this ends the function. -/
def ret : Build L Unit := do
  let b ← get
  jump b.graph.exit
  if b.scopes.isEmpty then modify fun b => { b with returned := true }
  else moveTo (← newBlock "after_ret")

/-- Discards the pixel if the condition holds, and goes on in either case. -/
def discard (stage : Stage) (i : Instruction) : Build L Unit := do
  require (stage = .pixel) .discardOutsidePixel
  let condition ← condition i
  let fulfilled ← newBlock "discard_fulfilled"
  let otherwise ← newBlock "discard_otherwise"
  modify fun b => { b with graph := b.graph.push fulfilled .discard }
  terminate fulfilled (.jump otherwise)
  close (.branch condition fulfilled otherwise)
  moveTo otherwise

/-- Carries out one control-flow instruction. -/
def control (stage : Stage) (i : Instruction) : Build L Unit := do
  match i.opcode with
  | .flow .beginIf => beginIf i
  | .flow .elseArm => elseArm
  | .flow .endIf => endIf
  | .flow .beginLoop => beginLoop
  | .flow .endLoop => endLoop
  | .flow .beginSwitch => beginSwitch i
  | .flow .caseLabel => caseLabel i
  | .flow .defaultLabel => defaultLabel
  | .flow .endSwitch => endSwitch
  | .flow .breakOut =>
    jumpOut (← orFault (← get).breakTarget? .breakOutsideLoopOrSwitch) "after_break"
  | .flow .breakIf =>
    branchOut i (← orFault (← get).breakTarget? .breakOutsideLoopOrSwitch) "after_breakc"
  | .flow .continueLoop =>
    jumpOut (← orFault (← get).continueTarget? .continueOutsideLoop) "after_continue"
  | .flow .continueIf =>
    branchOut i (← orFault (← get).continueTarget? .continueOutsideLoop) "after_continuec"
  | .flow .ret => ret
  | .flow .retIf => branchOut i (← get).graph.exit "after_retc"
  | .flow .discard => discard stage i
  | _ => throw .notControlFlow

/-- The finished graph, once the function has returned. -/
def finish? (b : Builder L) : Option (Graph L) :=
  if b.returned then some b.graph else none

end Builder

end ShaderFlow
