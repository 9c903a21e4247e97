import ShaderFlow.Proofs.BindingTable

/-!
# Access modes

How a binding may be accessed says how the whole program uses it: the access mode of an entry is
settled by which uses there are among the instructions, wherever they stand
(`CompiledShader.Accesses`). What is used is declared before (`Program.DeclaresUses`). Both hold of
every program that compiles (`Compilation.accesses_of_result`).
-/

namespace ShaderFlow

/-! ## Views without marks -/

namespace Resources

variable {stage : Stage} {i : Instruction} {is : List Instruction} {a : Addition} {r : Resources}
  {u : Usage} {t : Unit} {id : UInt32} {b : Binding}

/-- No view is used in any way. -/
structure Unused (r : Resources) : Prop where
  resourceViews : ∀ {id : UInt32} {view}, r.resourceViews[id]? = some view → view.use = {}
  accessViews : ∀ {id : UInt32} {view}, r.accessViews[id]? = some view → view.use = {}

/-- What a declaration adds is not used. -/
theorem Unused.add (h : r.Unused) (ha : i.Adds stage a) : (r.add a).Unused := by
  cases ha with
  | resource | resourceRaw | resourceStructured =>
    refine ⟨fun {id view} hview => ?_, h.accessViews⟩
    simp only [Resources.add, Std.ExtTreeMap.getElem?_insert] at hview
    split at hview
    · cases hview
      rfl
    · exact h.resourceViews hview
  | uavTyped | uavRaw | uavStructured =>
    refine ⟨h.resourceViews, fun {id view} hview => ?_⟩
    simp only [Resources.add, Std.ExtTreeMap.getElem?_insert] at hview
    split at hview
    · cases hview
      rfl
    · exact h.accessViews hview
  | _ => exact ⟨h.resourceViews, h.accessViews⟩

/-- Declarations alone leave all views without uses. -/
theorem unused_of_declareAll (h : declareAll stage is {} = .ok t r) : r.Unused := by
  refine declareAll_induction (P := fun _ r => r.Unused) ⟨?_, ?_⟩ ?_ h
  · intro id view hview
    simp at hview
  · intro id view hview
    simp at hview
  · intro done i a r hr ha _
    exact hr.add ha

/-- Where nothing was used before, marks settle the access to a resource view. -/
theorem Unused.access_of_resource (h : r.Unused) (hb : (r.mark u).binding? .resource id = some b) :
    b.access = (if u .sampled id then .sample else .read) ∧ b.compared = u .compared id := by
  obtain ⟨view, hview, rfl⟩ := Option.map_eq_some_iff.1 hb
  rw [getElem?_resourceViews_mark] at hview
  obtain ⟨view, hunused, rfl⟩ := Option.map_eq_some_iff.1 hview
  simp [h.resourceViews hunused, ResourceUse.union, ResourceUse.access]

/-- Where nothing was used before, marks settle the access to an access view. -/
theorem Unused.access_of_access (h : r.Unused) (hb : (r.mark u).binding? .access id = some b) :
    b.access = (AccessUse.mk (u .read id) (u .written id)).access := by
  obtain ⟨view, hview, rfl⟩ := Option.map_eq_some_iff.1 hb
  rw [getElem?_accessViews_mark] at hview
  obtain ⟨view, hunused, rfl⟩ := Option.map_eq_some_iff.1 hview
  simp [h.accessViews hunused, AccessUse.union]

/-- An entry of the table is the entry of its binding. -/
theorem binding?_of_mem {e : TableEntry} (h : e ∈ r.bindingTable.entries) :
    r.binding? e.kind e.id = some e.toBinding := by
  have hmem : e.toBinding ∈ r.bindingTable.entries.map fun e => e.toBinding :=
    List.mem_map.2 ⟨e, h, rfl⟩
  rw [bindingTable, BindingTable.map_ofBindings (f := fun b => b), List.map_id',
    List.mem_filterMap] at hmem
  obtain ⟨⟨kind, id⟩, -, hb⟩ := hmem
  obtain ⟨hkind, hid⟩ := Prod.mk.inj (key_of_binding? hb)
  rw [hkind, hid]
  exact hb

end Resources

/-! ## Compiled programs -/

/-- The access modes of a compiled program say how the given instructions use its views. -/
structure CompiledShader.Accesses {L : Type} (c : CompiledShader L) (us : List Instruction) :
    Prop where
  resource : ∀ e ∈ c.table.entries, e.kind = .resource →
    (e.access = .sample ↔ ViewUse.sampled.Occurs us e.id) ∧
    (e.access = .read ↔ ¬ ViewUse.sampled.Occurs us e.id) ∧
    (e.compared = true ↔ ViewUse.compared.Occurs us e.id)
  access : ∀ e ∈ c.table.entries, e.kind = .access →
    (e.access = .readWrite ↔ ViewUse.read.Occurs us e.id ∧ ViewUse.written.Occurs us e.id) ∧
    (e.access = .write ↔ ¬ ViewUse.read.Occurs us e.id ∧ ViewUse.written.Occurs us e.id) ∧
    (e.access = .read ↔ ¬ ViewUse.written.Occurs us e.id)

/-- The kind of binding that an operand refers to. -/
def OperandKind.bindingKind? : OperandKind → Option BindingKind
  | .resource => some .resource
  | .unorderedAccessView => some .access
  | .sampler => some .sampler
  | _ => none

/-- What the instructions before a position use is declared before they use it. -/
def Program.DeclaresUses (p : Program) (n : Nat) : Prop :=
  ∀ k < n, ∀ i, p.instructions[k]? = some i → i.opcode.isLowered = true →
    ∀ o ∈ i.operands, ∀ id, o.register? = some id →
      (∀ kind, o.kind.bindingKind? = some kind →
        ∃ j < k, ∃ d, p.instructions[j]? = some d ∧ d.binding? = some (kind, id)) ∧
      (o.kind = .threadGroupSharedMemory →
        ∃ j < k, ∃ d, p.instructions[j]? = some d ∧ d.sharedMemory? = some id)

/-- The marks of the instructions settle the access modes. -/
theorem Session.accesses {σ L : Type} {s : Session σ L} (p : Program) {ds us : List Instruction}
    {base : Resources} (h : Resources.Marked p.stage ds us base s.resources) :
    (s.shader p).Accesses us := by
  have hunused := Resources.unused_of_declareAll h.declared
  have hbinding (e : TableEntry) (he : e ∈ (s.shader p).table.entries) :
      (base.mark (.of us)).binding? e.kind e.id = some e.toBinding := by
    rw [← h.marked]
    exact Resources.binding?_of_mem he
  constructor
  case resource =>
    intro e he hkind
    have hb := hbinding e he
    rw [hkind] at hb
    obtain ⟨haccess, hcompared⟩ := hunused.access_of_resource hb
    simp only [haccess, hcompared, ← Usage.of_eq_true_iff]
    cases Usage.of us .sampled e.id <;> simp
  case access =>
    intro e he hkind
    have hb := hbinding e he
    rw [hkind] at hb
    simp only [hunused.access_of_access hb, ← Usage.of_eq_true_iff]
    cases Usage.of us .read e.id <;> cases Usage.of us .written e.id <;> simp [AccessUse.access]

/-- An operand that is known names what was declared. -/
theorem Resources.Knows.exists_declaration {stage : Stage} {ds : List Instruction}
    {base : Resources} {o : Operand} {id : UInt32} (h : base.Knows o)
    (hds : declareAll stage ds {} = .ok () base) (hid : o.register? = some id) :
    (∀ kind, o.kind.bindingKind? = some kind → ∃ d ∈ ds, d.binding? = some (kind, id)) ∧
      (o.kind = .threadGroupSharedMemory → ∃ d ∈ ds, d.sharedMemory? = some id) := by
  have hholds := h id hid
  constructor
  · intro kind hkind
    refine exists_binding_of_declareAll hds ?_
    unfold OperandKind.bindingKind? at hkind
    split at hkind
    case h_1 hk | h_2 hk | h_3 hk =>
      cases hkind
      rw [hk] at hholds
      exact hholds
    case h_4 => cases hkind
  · intro hk
    rw [hk] at hholds
    exact (exists_sharedMemory_of_declareAll hds hholds).2

namespace Compilation

variable {σ L : Type} {C : Compilation σ L} {c : CompiledShader L} {final : σ}

/-- An instruction that is lowered uses what was declared before it. -/
theorem History.declaresUses {H : C.History} {n : Nat} (hn : n ≤ H.length) :
    C.program.DeclaresUses n := by
  intro k hk i hi hl o ho id hid
  have hlt := Nat.lt_of_lt_of_le hk hn
  obtain ⟨base, hmarked⟩ := H.marked (Nat.le_of_lt hlt)
  have hknows : base.Knows o := by
    obtain ⟨i', hi', hs⟩ := H.step hlt
    cases hi.symm.trans hi'
    have htrack := (Session.step_eq_ok_iff.1 hs).advances.track hl
    have hknown := (Resources.track_eq_ok_iff.1 htrack).1 o ho
    rw [hmarked.marked] at hknown
    exact Resources.knows_mark_iff.1 hknown
  obtain ⟨hbinding, hshared⟩ := hknows.exists_declaration hmarked.declared hid
  have hearlier {d : Instruction}
      (hd : d ∈ C.program.select (Instruction.isIn .resources) k) :
      ∃ j < k, C.program.instructions[j]? = some d := (Program.mem_select_iff.1 hd).1
  refine ⟨fun kind hkind => ?_, fun hkind => ?_⟩
  · obtain ⟨d, hd, hb⟩ := hbinding kind hkind
    obtain ⟨j, hj, hd⟩ := hearlier hd
    exact ⟨j, hj, d, hd, hb⟩
  · obtain ⟨d, hd, hb⟩ := hshared hkind
    obtain ⟨j, hj, hd⟩ := hearlier hd
    exact ⟨j, hj, d, hd, hb⟩

/-- The access modes of a program that compiles say how the program uses its views before its
return, and what it uses is declared earlier. -/
theorem accesses_of_result (h : C.result = .ok (c, final)) :
    ∃ n, C.program.returnAt? = some n ∧
      c.Accesses (C.program.select (·.opcode.isLowered) n) ∧ C.program.DeclaresUses n := by
  obtain ⟨H, rfl, -⟩ := exists_outcome h
  obtain ⟨n, hn⟩ := H.exists_last
  obtain ⟨base, hmarked⟩ := H.marked (Nat.le_refl _)
  rw [H.select_last (q := (·.opcode.isLowered)) hn fun i hop => by rw [hop]; rfl] at hmarked
  exact ⟨n, H.returnAt?_eq hn, Session.accesses C.program hmarked,
    H.declaresUses (Nat.le_of_lt (hn ▸ Nat.lt_succ_self n))⟩

/-- A pixel shader that uses views under a condition, behind a return inside of it, and after the
views have been used in other ways; one view is not used at all. -/
def ofAccessProgram : Compilation Unit Instruction where
  program := {
    stage := .pixel
    model := .sm51
    instructions := [
      { opcode := .resourceDcl .resourceRaw, operands := [.register .resource (.d1 0)],
        declaration := some (.resourceRaw 0) },
      { opcode := .resourceDcl .uavRaw, operands := [.register .unorderedAccessView (.d1 0)],
        declaration := some (.uavRaw 0 0) },
      { opcode := .flow .beginIf, operands := [.register .temp (.d1 0)] },
      { opcode := .view .storeRaw, operands := [.register .unorderedAccessView (.d1 0)] },
      { opcode := .flow .ret },
      { opcode := .sample .sampleC, operands := [.register .resource (.d1 0)] },
      { opcode := .flow .endIf },
      { opcode := .resourceDcl .uavRaw, operands := [.register .unorderedAccessView (.d1 1)],
        declaration := some (.uavRaw 0 0) },
      { opcode := .view .ldRaw, operands := [.register .unorderedAccessView (.d1 0)] },
      { opcode := .flow .ret },
      { opcode := .view .storeRaw, operands := [.register .unorderedAccessView (.d1 1)] }] }
  signatures := ⟨[], []⟩
  lower := .passthrough
  initial := ()
  options := {}

/-- The first view is sampled with a comparison, the second is read and written. -/
theorem accesses_ofAccessProgram :
    ∃ c, ofAccessProgram.result = .ok (c, ()) ∧
      c.table.entries.map (fun e => (e.access, e.compared)) =
        [(.sample, true), (.readWrite, false), (.read, false)] ∧
      c.Accesses (ofAccessProgram.program.select (·.opcode.isLowered) 9) ∧
      ofAccessProgram.program.DeclaresUses 9 := by
  obtain ⟨c, ⟨⟩, hc⟩ := exists_result (C := ofAccessProgram) (by decide +kernel)
  obtain ⟨n, hn, haccesses⟩ := accesses_of_result hc
  have hnine : ofAccessProgram.program.returnAt? = some 9 := by decide
  cases hnine.symm.trans hn
  have hmodes : ofAccessProgram.result.toOption.map
      (fun r => r.1.table.entries.map fun e => (e.access, e.compared)) =
        some [(.sample, true), (.readWrite, false), (.read, false)] := by decide +kernel
  rw [hc] at hmodes
  exact ⟨c, hc, Option.some.inj hmodes, haccesses⟩

end Compilation

end ShaderFlow
