import ShaderFlow.Proofs.Declaring
import ShaderFlow.Resource.Usage

/-!
# What instructions mark

An instruction marks the views among its operands in ways that depend on its opcode alone
(`ViewUse.opcodes`). So the marks of a list of instructions are known without the resources
(`Usage.of`), and `Resources.track_eq_ok_iff` says that an instruction puts its marks on what is
declared and does nothing else. Marks and declarations do not disturb each other: resources that
were declared and used in any order are those of the declarations with the marks of the uses
(`Resources.Marked`).
-/

namespace ShaderFlow

/-! ## Uses of views -/

/-- The ways of using a view that make a difference to its binding. -/
inductive ViewUse where
  | sampled | compared | read | written

namespace ViewUse

/-- The kind of register that is used in a way. -/
def register : ViewUse → OperandKind
  | .sampled | .compared => .resource
  | .read | .written => .unorderedAccessView

/-- The opcodes that use a view in a way. -/
def opcodes : ViewUse → List Opcode
  | .sampled =>
    [.sample .sample, .sample .sampleL, .sample .sampleD, .sample .sampleB, .sample .gather4,
      .sample .gather4Po, .sample .lod, .sample .sampleC, .sample .sampleCLz, .sample .gather4C,
      .sample .gather4PoC]
  | .compared =>
    [.sample .sampleC, .sample .sampleCLz, .sample .gather4C, .sample .gather4PoC]
  | .read =>
    [.view .ldUavTyped, .view .ldRaw, .view .ldStructured] ++ AtomicOp.all.map .atomic
  | .written =>
    [.view .storeUavTyped, .view .storeRaw, .view .storeStructured] ++ AtomicOp.all.map .atomic

end ViewUse

namespace Opcode

variable {op : Opcode}

/-- The use of resource views is read off the two lists of opcodes. -/
theorem resourceUse_eq :
    op.resourceUse =
      ⟨decide (op ∈ ViewUse.sampled.opcodes), decide (op ∈ ViewUse.compared.opcodes)⟩ := by
  cases op with
  | sample op => cases op <;> rfl
  | _ => simp [resourceUse, ViewUse.opcodes]

/-- The use of access views is read off the two lists of opcodes. -/
theorem accessUse_eq :
    op.accessUse =
      ⟨decide (op ∈ ViewUse.read.opcodes), decide (op ∈ ViewUse.written.opcodes)⟩ := by
  cases op with
  | view op => cases op <;> rfl
  | atomic op => cases op <;> rfl
  | _ => simp [accessUse, ViewUse.opcodes]

end Opcode

/-- Which views are used in which ways. -/
abbrev Usage := ViewUse → UInt32 → Bool

/-- Whether an operand names a register of a kind. -/
def Operand.names (o : Operand) (kind : OperandKind) (id : UInt32) : Bool :=
  o.kind = kind ∧ o.register? = some id

/-- The uses that an opcode makes of its operands. -/
def Opcode.usage (op : Opcode) (operands : List Operand) : Usage := fun use id =>
  decide (op ∈ use.opcodes) && operands.any (Operand.names · use.register id)

/-- The uses that instructions make of their operands. -/
def Usage.of (is : List Instruction) : Usage := fun use id =>
  is.any fun i => i.opcode.usage i.operands use id

/-- An instruction has an operand that names a register of a kind. -/
def Instruction.Names (i : Instruction) (kind : OperandKind) (id : UInt32) : Prop :=
  ∃ o ∈ i.operands, o.kind = kind ∧ o.register? = some id

/-- Some of the instructions uses a view in a way. -/
def ViewUse.Occurs (use : ViewUse) (is : List Instruction) (id : UInt32) : Prop :=
  ∃ i ∈ is, i.opcode ∈ use.opcodes ∧ i.Names use.register id

/-- A view is used in a way if some instruction does so. -/
theorem Usage.of_eq_true_iff {is : List Instruction} {use : ViewUse} {id : UInt32} :
    Usage.of is use id = true ↔ use.Occurs is id := by
  simp [Usage.of, Opcode.usage, Operand.names, ViewUse.Occurs, Instruction.Names]

/-- An opcode uses a view in a way if it is listed for the way and an operand names the view. -/
theorem Opcode.usage_eq {op : Opcode} {os : List Operand} {use : ViewUse} {id : UInt32} :
    op.usage os use id = (decide (op ∈ use.opcodes) &&
      decide (∃ o ∈ os, o.kind = use.register ∧ o.register? = some id)) := by
  rw [Bool.eq_iff_iff]
  simp [usage, Operand.names]

/-- The uses of operands are those of the first and those of the others. -/
theorem Opcode.usage_cons {op : Opcode} {o : Operand} {os : List Operand} :
    op.usage (o :: os) = fun use id => op.usage [o] use id || op.usage os use id := by
  funext use id
  simp [usage, Bool.and_or_distrib_left]

/-- One more instruction adds its uses. -/
theorem Usage.of_concat {is : List Instruction} {i : Instruction} :
    Usage.of (is ++ [i]) = fun use id =>
      Usage.of is use id || i.opcode.usage i.operands use id := by
  funext use id
  simp [Usage.of]

/-! ## Marks -/

namespace Resources

variable {stage : Stage} {op : Opcode} {o : Operand} {os : List Operand} {i : Instruction}
  {r r' : Resources} {a : Addition} {u v : Usage} {kind : BindingKind} {id : UInt32} {t : Unit}

/-- The resources with marks on their views. -/
def mark (r : Resources) (u : Usage) : Resources :=
  { r with
    resourceViews := r.resourceViews.map fun id view =>
      { view with use := view.use.union ⟨u .sampled id, u .compared id⟩ }
    accessViews := r.accessViews.map fun id view =>
      { view with use := view.use.union ⟨u .read id, u .written id⟩ } }

/-- A mark adds to the use of a resource view and leaves the view as it is otherwise. -/
theorem getElem?_resourceViews_mark :
    (r.mark u).resourceViews[id]? = r.resourceViews[id]?.map fun view =>
      { view with use := view.use.union ⟨u .sampled id, u .compared id⟩ } := by
  simp [mark]

/-- A mark adds to the use of an access view and leaves the view as it is otherwise. -/
theorem getElem?_accessViews_mark :
    (r.mark u).accessViews[id]? = r.accessViews[id]?.map fun view =>
      { view with use := view.use.union ⟨u .read id, u .written id⟩ } := by
  simp [mark]

/-- Marks declare nothing. -/
@[simp] theorem isDeclared_mark : (r.mark u).isDeclared kind id = r.isDeclared kind id := by
  cases kind <;> simp [mark, isDeclared]

@[simp] theorem sharedMemory_mark : (r.mark u).sharedMemory = r.sharedMemory := rfl

@[simp] theorem threadGroup_mark : (r.mark u).threadGroup = r.threadGroup := rfl

/-- Marks do not disturb the order of the bindings. -/
theorem Consistent.mark (h : r.Consistent) : (r.mark u).Consistent := by
  refine ⟨h.nodup, fun {kind id} => ?_⟩
  rw [isDeclared_mark]
  exact h.mem_order

/-- Marks that mark nothing change nothing. -/
theorem mark_of_false (h : ∀ use id, u use id = false) : r.mark u = r := by
  have hresource : (r.mark u).resourceViews = r.resourceViews := by
    refine Std.ExtTreeMap.ext_getElem? fun id => ?_
    rw [getElem?_resourceViews_mark, h, h]
    simp [ResourceUse.union]
  have haccess : (r.mark u).accessViews = r.accessViews := by
    refine Std.ExtTreeMap.ext_getElem? fun id => ?_
    rw [getElem?_accessViews_mark, h, h]
    simp [AccessUse.union]
  calc r.mark u
      = { r with resourceViews := (r.mark u).resourceViews,
                 accessViews := (r.mark u).accessViews } := rfl
    _ = r := by rw [hresource, haccess]

/-- Marks add up. -/
theorem mark_mark : (r.mark u).mark v = r.mark fun use id => u use id || v use id := by
  simp only [mark, Resources.mk.injEq, true_and, and_true]
  constructor
  · refine Std.ExtTreeMap.ext_getElem? fun id => ?_
    simp [ResourceUse.union, Bool.or_assoc]
  · refine Std.ExtTreeMap.ext_getElem? fun id => ?_
    simp [AccessUse.union, Bool.or_assoc]

/-! ### Known operands -/

/-- Whether a register is declared, if it is of a kind that has to be. -/
def Holds (r : Resources) : OperandKind → UInt32 → Prop
  | .resource, id => r.isDeclared .resource id = true
  | .unorderedAccessView, id => r.isDeclared .access id = true
  | .sampler, id => r.isDeclared .sampler id = true
  | .threadGroupSharedMemory, id => id ∈ r.sharedMemory
  | _, _ => True

/-- Whether an operand may be used: what it names is declared. -/
def Knows (r : Resources) (o : Operand) : Prop := ∀ id, o.register? = some id → r.Holds o.kind id

/-- Marks make no register known, and none unknown. -/
theorem holds_mark_iff {kind : OperandKind} : (r.mark u).Holds kind id ↔ r.Holds kind id := by
  unfold Holds
  split <;> simp

/-- Marks make no operand known, and none unknown. -/
theorem knows_mark_iff : (r.mark u).Knows o ↔ r.Knows o := by
  simp only [Knows, holds_mark_iff]

/-- What is known stays known when more is declared. -/
theorem Knows.add (h : r.Knows o) : (r.add a).Knows o := by
  intro id hid
  have hold := h id hid
  unfold Holds at hold ⊢
  split at hold
  case h_1 | h_2 | h_3 => exact isDeclared_add.2 (.inr hold)
  case h_4 => exact mem_sharedMemory_add.2 (.inr hold)
  case h_5 => trivial

/-- An operand that names a resource view marks it with the use of the opcode. -/
theorem mark_of_resource (hk : o.kind = .resource) (hid : o.register? = some id) :
    r.mark (op.usage [o]) =
      { r with resourceViews := r.resourceViews.modify id fun view =>
        { view with use := view.use.union op.resourceUse } } := by
  have hnames {kind : OperandKind} {x : UInt32} :
      o.names kind x = decide (OperandKind.resource = kind ∧ id = x) := by
    simp [Operand.names, hk, hid]
  simp only [mark, Resources.mk.injEq, true_and, and_true]
  constructor
  · refine Std.ExtTreeMap.ext_getElem? fun x => ?_
    rw [Std.ExtTreeMap.getElem?_map, Std.ExtTreeMap.getElem?_modify, Opcode.resourceUse_eq]
    by_cases hx : id = x
    · simp [Opcode.usage, hnames, ViewUse.register, hx]
    · simp [Opcode.usage, hnames, hx, ResourceUse.union]
  · refine Std.ExtTreeMap.ext_getElem? fun x => ?_
    simp [Opcode.usage, hnames, ViewUse.register, AccessUse.union]

/-- An operand that names an access view marks it with the use of the opcode. -/
theorem mark_of_access (hk : o.kind = .unorderedAccessView) (hid : o.register? = some id) :
    r.mark (op.usage [o]) =
      { r with accessViews := r.accessViews.modify id fun view =>
        { view with use := view.use.union op.accessUse } } := by
  have hnames {kind : OperandKind} {x : UInt32} :
      o.names kind x = decide (OperandKind.unorderedAccessView = kind ∧ id = x) := by
    simp [Operand.names, hk, hid]
  simp only [mark, Resources.mk.injEq, true_and, and_true]
  constructor
  · refine Std.ExtTreeMap.ext_getElem? fun x => ?_
    simp [Opcode.usage, hnames, ViewUse.register, ResourceUse.union]
  · refine Std.ExtTreeMap.ext_getElem? fun x => ?_
    rw [Std.ExtTreeMap.getElem?_map, Std.ExtTreeMap.getElem?_modify, Opcode.accessUse_eq]
    by_cases hx : id = x
    · simp [Opcode.usage, hnames, ViewUse.register, hx]
    · simp [Opcode.usage, hnames, hx, AccessUse.union]

/-- An operand that is no view marks nothing. -/
theorem mark_of_ne (hr : o.kind ≠ .resource) (ha : o.kind ≠ .unorderedAccessView) :
    r.mark (op.usage [o]) = r := by
  refine mark_of_false fun use id => ?_
  cases use <;> simp [Opcode.usage, Operand.names, ViewUse.register, hr, ha]

/-- An operand marks the view that it names, and what it names has to be declared. -/
theorem trackOperand_eq_ok_iff :
    trackOperand op o r = .ok t r' ↔ r.Knows o ∧ r' = r.mark (op.usage [o]) := by
  unfold trackOperand Knows
  cases hid : o.register? with
  | none =>
    have hmark : r.mark (op.usage [o]) = r :=
      mark_of_false fun use id => by simp [Opcode.usage, Operand.names, hid]
    rw [hmark]
    constructor
    · intro h
      cases h
      exact ⟨nofun, rfl⟩
    · rintro ⟨-, rfl⟩
      rfl
  | some id =>
    simp only [get_bind, Option.some.injEq, forall_eq']
    cases hk : o.kind with
    | resource =>
      rw [mark_of_resource hk hid, require_bind_eq_ok_iff]
      refine and_congr (by simp [Holds, isDeclared]) ?_
      exact ⟨fun h => by cases h; rfl, fun h => by rw [h]; rfl⟩
    | unorderedAccessView =>
      rw [mark_of_access hk hid, require_bind_eq_ok_iff]
      refine and_congr (by simp [Holds, isDeclared]) ?_
      exact ⟨fun h => by cases h; rfl, fun h => by rw [h]; rfl⟩
    | sampler | threadGroupSharedMemory =>
      rw [mark_of_ne (by simp [hk]) (by simp [hk]), require_eq_ok_iff]
      simp [Holds, isDeclared]
    | _ =>
      rw [mark_of_ne (by simp [hk]) (by simp [hk])]
      constructor
      · intro h
        cases h
        exact ⟨trivial, rfl⟩
      · rintro ⟨-, rfl⟩
        rfl

/-- No operands mark nothing. -/
theorem mark_usage_nil : r.mark (op.usage []) = r :=
  mark_of_false fun use id => by simp [Opcode.usage]

/-- Operands mark one after the other. -/
theorem mark_usage_cons (o : Operand) (os : List Operand) :
    r.mark (op.usage (o :: os)) = (r.mark (op.usage [o])).mark (op.usage os) := by
  rw [mark_mark, ← Opcode.usage_cons]

/-- Operands are marked one after the other; marks make no operand known that was not. -/
theorem forM_trackOperand_eq_ok_iff :
    os.forM (trackOperand op) r = .ok t r' ↔
      (∀ o ∈ os, r.Knows o) ∧ r' = r.mark (op.usage os) := by
  induction os generalizing r with
  | nil =>
    rw [mark_usage_nil, forM_nil_eq_ok_iff]
    exact (and_iff_right (List.forall_mem_nil _)).symm
  | cons o os ih =>
    rw [mark_usage_cons o os]
    simp only [forM_cons_eq_ok_iff, trackOperand_eq_ok_iff, ih, List.forall_mem_cons]
    constructor
    · rintro ⟨_, ⟨ho, rfl⟩, hos, rfl⟩
      exact ⟨⟨ho, fun o' ho' => knows_mark_iff.1 (hos o' ho')⟩, rfl⟩
    · rintro ⟨⟨ho, hos⟩, rfl⟩
      exact ⟨_, ⟨ho, rfl⟩, fun o' ho' => knows_mark_iff.2 (hos o' ho'), rfl⟩

/-- An instruction marks the views that its operands name, and what they name has to be declared. -/
theorem track_eq_ok_iff :
    track i r = .ok t r' ↔
      (∀ o ∈ i.operands, r.Knows o) ∧ r' = r.mark (i.opcode.usage i.operands) :=
  forM_trackOperand_eq_ok_iff

/-- An operand is refused if it names something that is not declared. -/
theorem trackOperand_eq_error_iff {fault : UndeclaredUse} :
    trackOperand op o r = .error fault r' ↔
      o.names fault.kind fault.id = true ∧ ¬ r.Holds fault.kind fault.id ∧ r' = r := by
  obtain ⟨kind, id⟩ := fault
  simp only [Operand.names, decide_eq_true_eq]
  unfold trackOperand
  cases hid : o.register? with
  | none =>
    refine iff_of_false (fun h => by cases h) ?_
    rintro ⟨⟨-, hnone⟩, -⟩
    cases hnone
  | some id' =>
    simp only [get_bind, Option.some.injEq]
    cases hk : o.kind with
    | resource | unorderedAccessView =>
      rw [require_bind_eq_error_iff]
      constructor
      · rintro (⟨hnot, heq, rfl⟩ | ⟨-, hset⟩)
        · cases heq
          exact ⟨⟨rfl, rfl⟩, by simpa [Holds, isDeclared] using hnot, rfl⟩
        · cases hset
      · rintro ⟨⟨rfl, rfl⟩, hnot, rfl⟩
        exact .inl ⟨by simpa [Holds, isDeclared] using hnot, rfl, rfl⟩
    | sampler | threadGroupSharedMemory =>
      rw [require_eq_error_iff]
      constructor
      · rintro ⟨hnot, heq, rfl⟩
        cases heq
        exact ⟨⟨rfl, rfl⟩, by simpa [Holds, isDeclared] using hnot, rfl⟩
      · rintro ⟨⟨rfl, rfl⟩, hnot, rfl⟩
        exact ⟨by simpa [Holds, isDeclared] using hnot, rfl, rfl⟩
    | _ =>
      refine iff_of_false (fun h => by cases h) ?_
      rintro ⟨⟨rfl, -⟩, hnot, -⟩
      exact hnot trivial

/-- Operands are marked up to the first that names something undeclared; those before it keep their
marks. -/
theorem forM_trackOperand_eq_error_iff {fault : UndeclaredUse} :
    os.forM (trackOperand op) r = .error fault r' ↔
      ∃ before o after, os = before ++ o :: after ∧ (∀ o ∈ before, r.Knows o) ∧
        o.names fault.kind fault.id = true ∧ ¬ r.Holds fault.kind fault.id ∧
        r' = r.mark (op.usage before) := by
  rw [forM_eq_error_iff]
  refine exists_congr fun before => exists_congr fun o => exists_congr fun after => ?_
  simp only [forM_trackOperand_eq_ok_iff, trackOperand_eq_error_iff]
  constructor
  · rintro ⟨_, heq, ⟨hknown, rfl⟩, hnames, hnot, rfl⟩
    exact ⟨heq, hknown, hnames, mt holds_mark_iff.2 hnot, rfl⟩
  · rintro ⟨heq, hknown, hnames, hnot, rfl⟩
    exact ⟨_, heq, ⟨hknown, rfl⟩, hnames, mt holds_mark_iff.1 hnot, rfl⟩

/-! ### Marks and declarations -/

/-- Marks take no place that a declaration could need. -/
theorem free_mark_iff : (r.mark u).Free a ↔ r.Free a := by
  cases a with
  | constantBuffer | sampler | resourceView | accessView => simp only [Free, isDeclared_mark]
  | _ => exact Iff.rfl

/-- Marks on declared views and a new declaration do not disturb each other. -/
theorem add_mark (hu : ∀ use id, u use id = true → r.Holds use.register id) (hfree : r.Free a) :
    (r.mark u).add a = (r.add a).mark u := by
  -- What is new has no marks yet.
  have hnew {use : ViewUse} {id : UInt32} (h : ¬ r.Holds use.register id) : u use id = false :=
    Bool.eq_false_iff.2 fun hused => h (hu use id hused)
  cases a with
  | resourceView view =>
    have hfresh : ¬ r.Holds .resource view.range.id := Bool.eq_false_iff.1 hfree
    have hsampled : u .sampled view.range.id = false := hnew hfresh
    have hcompared : u .compared view.range.id = false := hnew hfresh
    simp only [mark, add, Resources.mk.injEq, true_and, and_true]
    refine Std.ExtTreeMap.ext_getElem? fun x => ?_
    by_cases hx : view.range.id = x
    · simp [← hx, hsampled, hcompared, ResourceUse.union]
    · simp [Std.ExtTreeMap.getElem?_insert, hx]
  | accessView view =>
    have hfresh : ¬ r.Holds .unorderedAccessView view.range.id := Bool.eq_false_iff.1 hfree
    have hread : u .read view.range.id = false := hnew hfresh
    have hwritten : u .written view.range.id = false := hnew hfresh
    simp only [mark, add, Resources.mk.injEq, true_and, and_true]
    refine Std.ExtTreeMap.ext_getElem? fun x => ?_
    by_cases hx : view.range.id = x
    · simp [← hx, hread, hwritten, AccessUse.union]
    · simp [Std.ExtTreeMap.getElem?_insert, hx]
  | _ => rfl

/-! ## Declarations and uses in any order -/

variable {ds us : List Instruction} {base : Resources}

/-- The resources are what some declarations leave, with the marks of some instructions. -/
structure Marked (stage : Stage) (ds us : List Instruction) (base r : Resources) : Prop where
  declared : declareAll stage ds {} = .ok () base
  known : ∀ i ∈ us, ∀ o ∈ i.operands, base.Knows o
  marked : r = base.mark (.of us)

/-- At the start nothing is declared and nothing is marked. -/
theorem marked_empty : Marked stage [] [] {} {} :=
  ⟨rfl, List.forall_mem_nil _, (mark_of_false fun _ _ => rfl).symm⟩

/-- The views that are marked are declared. -/
theorem Marked.holds (h : Marked stage ds us base r) {use : ViewUse}
    (hused : Usage.of us use id = true) : base.Holds use.register id := by
  obtain ⟨i, hi, -, o, ho, hk, hid⟩ := Usage.of_eq_true_iff.1 hused
  rw [← hk]
  exact h.known i hi o ho id hid

/-- A declaration adds to the base what it adds to the resources. -/
theorem Marked.declare (h : Marked stage ds us base r)
    (hi : declare stage i r = .ok t r') :
    ∃ base', Marked stage (ds ++ [i]) us base' r' := by
  obtain ⟨a, ha, hfree, rfl⟩ := declare_eq_ok_iff.1 hi
  rw [h.marked, free_mark_iff] at hfree
  refine ⟨base.add a, ?_, fun j hj o ho => (h.known j hj o ho).add, ?_⟩
  · exact declareAll_concat_eq_ok_iff.2 ⟨base, h.declared, declare_of_adds ha hfree⟩
  · rw [h.marked]
    exact add_mark (fun use id => h.holds) hfree

/-- A use leaves the base alone. -/
theorem Marked.track (h : Marked stage ds us base r) (hi : track i r = .ok t r') :
    Marked stage ds (us ++ [i]) base r' := by
  obtain ⟨hknown, rfl⟩ := track_eq_ok_iff.1 hi
  rw [h.marked] at hknown ⊢
  refine ⟨h.declared, ?_, ?_⟩
  · rw [List.forall_mem_append]
    refine ⟨h.known, List.forall_mem_singleton.2 fun o ho => knows_mark_iff.1 (hknown o ho)⟩
  · rw [mark_mark, Usage.of_concat]

end Resources

end ShaderFlow
