import ShaderFlow.Proofs.Step

/-!
# Structured code

A `Body` is the syntax tree of a stretch of structured code, with the instructions it was written
with; `Body.tokens` is that writing. What a single instruction must be like is part of its type
(`Token`, `OperandToken`, `CaseToken`, `Straight`). What depends on the scopes around it is
`Body.Legal`: which jumps and labels may stand there, how deep scopes may nest, and that the labels
of a switch differ.
-/

namespace ShaderFlow

/-! ## Instructions by their role -/

/-- An instruction with a given control-flow opcode. -/
structure Token (op : FlowOp) where
  instruction : Instruction
  opcode_eq : instruction.opcode = .flow op

/-- An instruction with a given control-flow opcode and an operand that it tests or selects by. -/
structure OperandToken (op : FlowOp) extends Token op where
  operand : Operand
  operand_eq : instruction.operand? 0 = some operand

/-- The condition of an instruction that tests its operand. -/
def OperandToken.condition {op : FlowOp} (i : OperandToken op) : Condition :=
  ⟨i.operand, i.instruction.test⟩

/-- A `case` label with a single immediate. -/
structure CaseToken extends OperandToken .caseLabel where
  isScalar : operand.kind = .immediate32 ∧ operand.components = 1

/-- The value of a `case` label. -/
def CaseToken.value (i : CaseToken) : UInt32 := i.operand.immediate.x

/-- An instruction that is no control flow. -/
structure Straight where
  instruction : Instruction
  isStraight : instruction.opcode.isControlFlow = false

/-! ## Trees -/

/-- Structured code. Each constructor is a first statement and the code behind it. -/
inductive Body where
  | nil
  | straight (i : Straight) (rest : Body)
  /-- `break`, `continue` or a `ret` inside of scopes. -/
  | leave (way : Leave) (i : Token way.op) (rest : Body)
  /-- `breakc`, `continuec` or `retc`. -/
  | leaveIf (way : Leave) (i : OperandToken way.opIf) (rest : Body)
  | discard (i : OperandToken .discard) (rest : Body)
  | caseLabel (i : CaseToken) (rest : Body)
  | defaultLabel (i : Token .defaultLabel) (rest : Body)
  | branch (i : OperandToken .beginIf) (body : Body) (close : Token .endIf) (rest : Body)
  | branchElse (i : OperandToken .beginIf) (body : Body) (divide : Token .elseArm) (other : Body)
      (close : Token .endIf) (rest : Body)
  | loop (i : Token .beginLoop) (body : Body) (close : Token .endLoop) (rest : Body)
  | switch (i : OperandToken .beginSwitch) (body : Body) (close : Token .endSwitch) (rest : Body)

namespace Body

/-- The instructions of code, in the order of the program. -/
def tokens : Body → List Instruction
  | .nil => []
  | .straight i rest => i.instruction :: rest.tokens
  | .leave _ i rest => i.instruction :: rest.tokens
  | .leaveIf _ i rest => i.instruction :: rest.tokens
  | .discard i rest => i.instruction :: rest.tokens
  | .caseLabel i rest => i.instruction :: rest.tokens
  | .defaultLabel i rest => i.instruction :: rest.tokens
  | .branch i body close rest =>
    i.instruction :: (body.tokens ++ close.instruction :: rest.tokens)
  | .branchElse i body divide other close rest =>
    i.instruction :: (body.tokens ++ divide.instruction ::
      (other.tokens ++ close.instruction :: rest.tokens))
  | .loop i body close rest => i.instruction :: (body.tokens ++ close.instruction :: rest.tokens)
  | .switch i body close rest => i.instruction :: (body.tokens ++ close.instruction :: rest.tokens)

/-- The values of the `case` labels that lie directly in code, not in a scope of its own. -/
def caseValues : Body → List UInt32
  | .nil => []
  | .caseLabel i rest => i.value :: rest.caseValues
  | .straight _ rest | .leave _ _ rest | .leaveIf _ _ rest | .discard _ rest | .defaultLabel _ rest
  | .branch _ _ _ rest | .branchElse _ _ _ _ _ rest | .loop _ _ _ rest | .switch _ _ _ rest =>
    rest.caseValues

/-- The number of `default` labels that lie directly in code. -/
def defaultCount : Body → Nat
  | .nil => 0
  | .defaultLabel _ rest => rest.defaultCount + 1
  | .straight _ rest | .leave _ _ rest | .leaveIf _ _ rest | .discard _ rest | .caseLabel _ rest
  | .branch _ _ _ rest | .branchElse _ _ _ _ _ rest | .loop _ _ _ rest | .switch _ _ _ rest =>
    rest.defaultCount

end Body

/-! ## Rules -/

/-- The kinds of scopes. -/
inductive ScopeKind where
  | branch | loop | switch
  deriving DecidableEq

/-- The kind of an open scope. -/
def Scope.kind : Scope → ScopeKind
  | .branch .. => .branch
  | .loop .. => .loop
  | .switch _ => .switch

/-- Whether a jump out has somewhere to lead to, by the kinds of the scopes around it. -/
def Leave.HasTarget (kinds : List ScopeKind) : Leave → Prop
  | .breakOut => .loop ∈ kinds ∨ .switch ∈ kinds
  | .continueLoop => .loop ∈ kinds
  | .ret => True

instance (kinds : List ScopeKind) (way : Leave) : Decidable (way.HasTarget kinds) :=
  match way with
  | .breakOut => inferInstanceAs (Decidable (_ ∨ _))
  | .continueLoop => inferInstanceAs (Decidable (_ ∈ _))
  | .ret => isTrue trivial

namespace Body

variable {stage : Stage} {limit : Nat}

/-- The rules for code in scopes of the given kinds, the innermost first. -/
def Legal (stage : Stage) (limit : Nat) : Body → List ScopeKind → Prop
  | .nil, _ => True
  | .straight _ rest, kinds => rest.Legal stage limit kinds
  | .leave way _ rest, kinds =>
    way.HasTarget kinds ∧ (way = .ret → kinds ≠ []) ∧ rest.Legal stage limit kinds
  | .leaveIf way _ rest, kinds => way.HasTarget kinds ∧ rest.Legal stage limit kinds
  | .discard _ rest, kinds => stage = .pixel ∧ rest.Legal stage limit kinds
  | .caseLabel _ rest, kinds => kinds.head? = some .switch ∧ rest.Legal stage limit kinds
  | .defaultLabel _ rest, kinds => kinds.head? = some .switch ∧ rest.Legal stage limit kinds
  | .branch _ body _ rest, kinds =>
    kinds.length < limit ∧ body.Legal stage limit (.branch :: kinds) ∧ rest.Legal stage limit kinds
  | .branchElse _ body _ other _ rest, kinds =>
    kinds.length < limit ∧ body.Legal stage limit (.branch :: kinds) ∧
      other.Legal stage limit (.branch :: kinds) ∧ rest.Legal stage limit kinds
  | .loop _ body _ rest, kinds =>
    kinds.length < limit ∧ body.Legal stage limit (.loop :: kinds) ∧ rest.Legal stage limit kinds
  | .switch _ body _ rest, kinds =>
    kinds.length < limit ∧ body.Legal stage limit (.switch :: kinds) ∧ body.caseValues.Nodup ∧
      body.defaultCount ≤ 1 ∧ rest.Legal stage limit kinds

/-- The rules can be checked. -/
def decideLegal (stage : Stage) (limit : Nat) :
    (t : Body) → (kinds : List ScopeKind) → Decidable (t.Legal stage limit kinds)
  | .nil, _ => isTrue trivial
  | .straight _ rest, kinds => rest.decideLegal stage limit kinds
  | .leave _ _ rest, kinds =>
    haveI := rest.decideLegal stage limit kinds
    inferInstanceAs (Decidable (_ ∧ _ ∧ _))
  | .leaveIf _ _ rest, kinds | .discard _ rest, kinds | .caseLabel _ rest, kinds
  | .defaultLabel _ rest, kinds =>
    haveI := rest.decideLegal stage limit kinds
    inferInstanceAs (Decidable (_ ∧ _))
  | .branch _ body _ rest, kinds =>
    haveI := body.decideLegal stage limit (.branch :: kinds)
    haveI := rest.decideLegal stage limit kinds
    inferInstanceAs (Decidable (_ ∧ _ ∧ _))
  | .branchElse _ body _ other _ rest, kinds =>
    haveI := body.decideLegal stage limit (.branch :: kinds)
    haveI := other.decideLegal stage limit (.branch :: kinds)
    haveI := rest.decideLegal stage limit kinds
    inferInstanceAs (Decidable (_ ∧ _ ∧ _ ∧ _))
  | .loop _ body _ rest, kinds =>
    haveI := body.decideLegal stage limit (.loop :: kinds)
    haveI := rest.decideLegal stage limit kinds
    inferInstanceAs (Decidable (_ ∧ _ ∧ _))
  | .switch _ body _ rest, kinds =>
    haveI := body.decideLegal stage limit (.switch :: kinds)
    haveI := rest.decideLegal stage limit kinds
    inferInstanceAs (Decidable (_ ∧ _ ∧ _ ∧ _ ∧ _))

instance (t : Body) (kinds : List ScopeKind) : Decidable (t.Legal stage limit kinds) :=
  t.decideLegal stage limit kinds

/-- Labels lie directly in switches only. -/
theorem Legal.no_labels {t : Body} {kinds : List ScopeKind} (h : t.Legal stage limit kinds)
    (hk : kinds.head? ≠ some .switch) : t.caseValues = [] ∧ t.defaultCount = 0 := by
  induction t with
  | nil => exact ⟨rfl, rfl⟩
  | straight _ _ ih => exact ih h
  | leave _ _ _ ih => exact ih h.2.2
  | leaveIf _ _ _ ih | discard _ _ ih => exact ih h.2
  | caseLabel | defaultLabel => exact absurd h.1 hk
  | branch _ _ _ _ _ ih | loop _ _ _ _ _ ih => exact ih h.2.2
  | branchElse _ _ _ _ _ _ _ _ ih => exact ih h.2.2.2
  | switch _ _ _ _ _ ih => exact ih h.2.2.2.2

end Body

end ShaderFlow
