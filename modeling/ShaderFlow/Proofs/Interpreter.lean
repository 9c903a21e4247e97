import ShaderFlow.Proofs.Reading
import ShaderFlow.Proofs.Trace

/-!
# Walking a graph and interpreting a stream

`Graph.walk` executes a block and follows its terminator. `Cursor.interpret` executes the
instruction stream itself: it knows no blocks and keeps no stack, but finds the place where control
goes on by looking through the instructions, forwards or backwards, for the one that matches
(`Search.find`).
-/

namespace ShaderFlow

/-! ## Graphs -/

/-- What is seen of an item of a block. -/
def BlockItem.event : BlockItem Instruction → Event
  | .lowered i => .exec i
  | .discard => .discard

/-- What is seen of a block before its terminator. -/
def Block.events (block : Block Instruction) : List Event := block.items.toList.map BlockItem.event

/-- Executes the block at a position and follows its terminator. -/
def Graph.walk (g : Graph Instruction) (oracle : Oracle) : Move BlockId := fun b past =>
  match g.block? b with
  | none => ([], .stuck)
  | some block =>
    let now := past ++ block.events
    match block.terminator with
    | none => (block.events, .stuck)
    | some (.jump target) => (block.events, .running target)
    | some (.branch condition ifTrue ifFalse) =>
      let outcome := oracle.test now condition
      (block.events ++ [.test condition outcome], .running (if outcome then ifTrue else ifFalse))
    | some (.switch selector cases default) =>
      let value := oracle.select now selector
      (block.events ++ [.select selector value], .running (cases[value]?.getD default))
    | some .ret => (block.events ++ [.ret], .returned)

/-! ## Searching a stream -/

/-- What an instruction is to a search that looks for the end of the scope at hand. -/
inductive Role where
  /-- It opens a scope of the kind. -/
  | opens
  /-- It closes a scope of the kind. -/
  | closes
  /-- Directly in the scope at hand, it is looked for as well. -/
  | accepts
  | other
  deriving DecidableEq

/-- What to look for in a stream. -/
abbrev Search := Instruction → Role

namespace Search

/-- Looks through a list from its front, with a number of scopes to leave before the one at hand.
The result is what was passed, the last first, and what is left, beginning with the instruction that
was looked for. -/
def find (q : Search) :
    Nat → List Instruction → List Instruction → Option (List Instruction × List Instruction)
  | _, _, [] => none
  | depth, passed, i :: rest =>
    match q i, depth with
    | .closes, 0 | .accepts, 0 => some (passed, i :: rest)
    | .closes, depth + 1 => q.find depth (i :: passed) rest
    | .opens, depth => q.find (depth + 1) (i :: passed) rest
    | .accepts, depth + 1 => q.find (depth + 1) (i :: passed) rest
    | .other, depth => q.find depth (i :: passed) rest

/-- A search that looks at control flow only. -/
def ofFlow (role : Instruction → FlowOp → Role) : Search := fun i =>
  match i.opcode with
  | .flow op => role i op
  | _ => .other

/-- The `else` or `endif` of an `if`. -/
def elseOrEndIf : Search := .ofFlow fun
  | _, .beginIf => .opens
  | _, .endIf => .closes
  | _, .elseArm => .accepts
  | _, _ => .other

/-- The `endif` of an `else`. -/
def endIf : Search := .ofFlow fun
  | _, .beginIf => .opens
  | _, .endIf => .closes
  | _, _ => .other

/-- The end of the innermost loop or switch. -/
def endLoopOrSwitch : Search := .ofFlow fun
  | _, .beginLoop | _, .beginSwitch => .opens
  | _, .endLoop | _, .endSwitch => .closes
  | _, _ => .other

/-- The `case` label of a value in a switch, or the end of the switch. -/
def caseOrEnd (value : UInt32) : Search := .ofFlow fun
  | _, .beginSwitch => .opens
  | _, .endSwitch => .closes
  | i, .caseLabel => if (i.operand? 0).any (·.immediate.x = value) then .accepts else .other
  | _, _ => .other

/-- The `default` label in a switch, or the end of the switch. -/
def defaultOrEnd : Search := .ofFlow fun
  | _, .beginSwitch => .opens
  | _, .endSwitch => .closes
  | _, .defaultLabel => .accepts
  | _, _ => .other

/-- The beginning of the innermost loop, looked for backwards. -/
def loopBackwards : Search := .ofFlow fun
  | _, .endLoop => .opens
  | _, .beginLoop => .closes
  | _, _ => .other

end Search

/-! ## Interpreting a stream -/

/-- A place in a stream of instructions. -/
structure Cursor where
  /-- The instructions before the place, the nearest first. -/
  before : List Instruction
  after : List Instruction
  deriving DecidableEq

/-- The condition that an instruction tests. -/
def Instruction.condition? (i : Instruction) : Option Condition :=
  (i.operand? 0).map fun operand => ⟨operand, i.test⟩

namespace Cursor

/-- The beginning of a stream. -/
def start (is : List Instruction) : Cursor := ⟨[], is⟩

/-- Goes on behind the next instruction that is looked for. -/
def goBehind (q : Search) (c : Cursor) : Status Cursor :=
  match q.find 0 c.before c.after with
  | some (passed, i :: rest) => .running ⟨i :: passed, rest⟩
  | _ => .stuck

/-- Goes back to the first instruction of the innermost loop. -/
def goBack (c : Cursor) : Status Cursor :=
  match Search.loopBackwards.find 0 c.after c.before with
  | some (passed, rest) => .running ⟨rest, passed⟩
  | none => .stuck

/-- Goes on behind the label that a switch selects: the `case` label of the value, or else the
`default` label, or else the end of the switch. -/
def goToLabel (value : UInt32) (c : Cursor) : Status Cursor :=
  match (Search.caseOrEnd value).find 0 c.before c.after with
  | some (passed, i :: rest) =>
    if Search.caseOrEnd value i = .accepts then .running ⟨i :: passed, rest⟩
    else c.goBehind .defaultOrEnd
  | _ => .stuck

/-- Tests the operand of an instruction and does what belongs to the outcome. -/
def choose (oracle : Oracle) (past : List Event) (i : Instruction)
    (yes no : List Event × Status Cursor) : List Event × Status Cursor :=
  match i.condition? with
  | none => ([], .stuck)
  | some condition =>
    let outcome := oracle.test past condition
    let (events, status) := if outcome then yes else no
    (.test condition outcome :: events, status)

/-- Executes the instruction at a place. -/
def interpret (oracle : Oracle) : Move Cursor := fun c past =>
  match c.after with
  | [] => ([], .stuck)
  | i :: rest =>
    let next : Cursor := ⟨i :: c.before, rest⟩
    let goOn : List Event × Status Cursor := ([], .running next)
    match i.opcode with
    | .flow .beginIf => choose oracle past i goOn ([], next.goBehind .elseOrEndIf)
    | .flow .elseArm => ([], next.goBehind .endIf)
    | .flow .endIf | .flow .beginLoop | .flow .caseLabel | .flow .defaultLabel | .flow .endSwitch =>
      goOn
    | .flow .endLoop | .flow .continueLoop => ([], c.goBack)
    | .flow .continueIf => choose oracle past i ([], c.goBack) goOn
    | .flow .breakOut => ([], next.goBehind .endLoopOrSwitch)
    | .flow .breakIf => choose oracle past i ([], next.goBehind .endLoopOrSwitch) goOn
    | .flow .ret => ([.ret], .returned)
    | .flow .retIf => choose oracle past i ([.ret], .returned) goOn
    | .flow .discard => choose oracle past i ([.discard], .running next) goOn
    | .flow .beginSwitch =>
      match i.operand? 0 with
      | none => ([], .stuck)
      | some selector =>
        let value := oracle.select past selector
        ([.select selector value], next.goToLabel value)
    | _ => (if i.opcode.isOrdinary then [.exec i] else [], .running next)

end Cursor

end ShaderFlow
