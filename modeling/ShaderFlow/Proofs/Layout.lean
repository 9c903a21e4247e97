import ShaderFlow.Proofs.Ownership
import ShaderFlow.Proofs.Syntax

/-!
# Laying out structured code

`Body.lay` turns a syntax tree into blocks by recursion on the tree: it is given the block in which
the code starts and the blocks to which `break` and `continue` lead, and it returns the block in
which the code behind goes on. It keeps no stack of scopes. A builder that reads the tokens of legal
code arrives at the same graph, block for block (`Builder.reads_tokens`).
-/

namespace ShaderFlow

/-- Where jumps out of the code at hand lead. -/
structure Exits where
  breakTo : Option BlockId
  continueTo : Option BlockId

/-- The target of a jump out; a return leads to the exit of the function. -/
def Exits.target? (e : Exits) (exit : BlockId) : Leave → Option BlockId
  | .breakOut => e.breakTo
  | .continueLoop => e.continueTo
  | .ret => some exit

/-- The labels met in the body of a switch. -/
structure Labels where
  cases : IdMap BlockId := ∅
  fallback : Option BlockId := none

/-- What laying out code results in. -/
structure Layout (L : Type) where
  graph : Graph L
  /-- The block in which the code behind goes on. -/
  current : BlockId
  /-- The labels that lie directly in the code, and those met before it. -/
  labels : Labels

namespace Body

variable {L : Type}

/-- Lays out code that starts in the block `cur`, with the given values for the instructions that
are no control flow. -/
def lay (value : Instruction → Option L) :
    Body → Exits → Graph L → BlockId → Labels → Layout L
  | .nil, _, g, cur, labels => ⟨g, cur, labels⟩
  | .straight i rest, e, g, cur, labels =>
    let g' := match value i.instruction with
      | some v => g.push cur (.lowered v)
      | none => g
    rest.lay value e g' cur labels
  | .leave way _ rest, e, g, cur, labels =>
    match e.target? g.exit way with
    | some target =>
      rest.lay value e ((g.close cur (.jump target)).alloc way.name) g.size labels
    | none => rest.lay value e g cur labels
  | .leaveIf way i rest, e, g, cur, labels =>
    match e.target? g.exit way with
    | some target =>
      rest.lay value e ((g.alloc way.nameIf).close cur (.branch i.condition target g.size)) g.size
        labels
    | none => rest.lay value e g cur labels
  | .discard i rest, e, g, cur, labels =>
    rest.lay value e (g.allocDiscard.close cur (.branch i.condition g.size (g.size + 1)))
      (g.size + 1) labels
  | .caseLabel i rest, e, g, cur, labels =>
    rest.lay value e ((g.alloc "switch_case").close cur (.jump g.size)) g.size
      { labels with cases := labels.cases.insert i.value g.size }
  | .defaultLabel _ rest, e, g, cur, labels =>
    rest.lay value e ((g.alloc "switch_default").close cur (.jump g.size)) g.size
      { labels with fallback := some g.size }
  | .branch i body _ rest, e, g, cur, labels =>
    let arm := body.lay value e (((g.alloc "if_true").alloc "if_alternative").close cur
      (.branch i.condition g.size (g.size + 1))) g.size {}
    rest.lay value e (arm.graph.close arm.current (.jump (g.size + 1))) (g.size + 1) labels
  | .branchElse i body _ other _ rest, e, g, cur, labels =>
    let arm := body.lay value e (((g.alloc "if_true").alloc "if_alternative").close cur
      (.branch i.condition g.size (g.size + 1))) g.size {}
    let arm' := other.lay value e
      ((arm.graph.alloc "endif").close arm.current (.jump arm.graph.size)) (g.size + 1) {}
    rest.lay value e (arm'.graph.close arm'.current (.jump arm.graph.size)) arm.graph.size labels
  | .loop _ body _ rest, e, g, cur, labels =>
    let round := body.lay value ⟨some (g.size + 1), some g.size⟩
      (((g.alloc "loop_entrance").alloc "endloop").close cur (.jump g.size)) g.size {}
    rest.lay value e (round.graph.close round.current (.jump g.size)) (g.size + 1) labels
  | .switch i body _ rest, e, g, cur, labels =>
    let arms := body.lay value ⟨some g.size, e.continueTo⟩
      ((g.alloc "endswitch").alloc "switch_empty") (g.size + 1) {}
    rest.lay value e
      ((arms.graph.close arms.current (.jump g.size)).close cur
        (.switch i.operand arms.labels.cases (arms.labels.fallback.getD g.size))) g.size labels

/-- The graph of a function with the given body, which returns behind it. -/
def graph (value : Instruction → Option L) (t : Body) : Graph L :=
  let all := t.lay value ⟨none, none⟩ .initial (Graph.initial : Graph L).entry {}
  all.graph.close all.current (.jump (Graph.initial : Graph L).exit)

end Body

/-! ## Builders and trees -/

/-- Further labels fit to those met before: no value and no default label occurs twice. -/
structure Labels.Fits (labels : Labels) (values : List UInt32) (defaults : Nat) : Prop where
  nodup : values.Nodup
  fresh : ∀ v ∈ values, v ∉ labels.cases
  default_le : defaults ≤ 1
  default_fresh : labels.fallback ≠ none → defaults = 0

/-- The labels of a switch fit where none was met. -/
theorem Labels.fits_empty {values : List UInt32} {defaults : Nat} (hn : values.Nodup)
    (hd : defaults ≤ 1) : ({} : Labels).Fits values defaults where
  nodup := hn
  fresh _ _ := Std.ExtTreeMap.not_mem_empty
  default_le := hd
  default_fresh h := absurd rfl h

/-- A `case` label fits if it is new and those behind it fit to it. -/
theorem Labels.fits_cons_iff {labels : Labels} {v : UInt32} {values : List UInt32} {defaults : Nat}
    (block : BlockId) :
    labels.Fits (v :: values) defaults ↔ v ∉ labels.cases ∧
      ({ labels with cases := labels.cases.insert v block } : Labels).Fits values defaults := by
  constructor
  · intro h
    obtain ⟨hv, hn⟩ := List.nodup_cons.1 h.nodup
    refine ⟨h.fresh v List.mem_cons_self, hn, fun w hw => ?_, h.default_le, h.default_fresh⟩
    have hne : v ≠ w := fun he => hv (he ▸ hw)
    have hold : w ∉ labels.cases := h.fresh w (List.mem_cons_of_mem _ hw)
    simp [Std.ExtTreeMap.mem_insert, hne, hold]
  · rintro ⟨hv, h⟩
    have hnew : ∀ w ∈ values, v ≠ w ∧ w ∉ labels.cases := by
      intro w hw
      simpa [Std.ExtTreeMap.mem_insert] using h.fresh w hw
    refine ⟨List.nodup_cons.2 ⟨fun hmem => (hnew v hmem).1 rfl, h.nodup⟩, ?_, h.default_le,
      h.default_fresh⟩
    exact List.forall_mem_cons.2 ⟨hv, fun w hw => (hnew w hw).2⟩

/-- A default label fits if it is new and those behind it fit to it. -/
theorem Labels.fits_succ_iff {labels : Labels} {values : List UInt32} {defaults : Nat}
    (block : BlockId) :
    labels.Fits values (defaults + 1) ↔ labels.fallback = none ∧
      ({ labels with fallback := some block } : Labels).Fits values defaults := by
  constructor
  · intro h
    have hzero : defaults = 0 := Nat.le_zero.1 (Nat.le_of_succ_le_succ h.default_le)
    refine ⟨?_, h.nodup, h.fresh, by omega, fun _ => hzero⟩
    refine Decidable.byContradiction fun hne => ?_
    exact absurd (h.default_fresh hne) (Nat.succ_ne_zero _)
  · rintro ⟨hnone, h⟩
    have hzero : defaults = 0 := h.default_fresh nofun
    exact ⟨h.nodup, h.fresh, by omega, fun hne => absurd hnone hne⟩

/-- The labels of legal code that lies directly in no switch fit: there are none. -/
theorem Body.Legal.fits {stage : Stage} {limit : Nat} {t : Body} {kinds : List ScopeKind}
    (h : t.Legal stage limit kinds) (hk : kinds.head? ≠ some .switch) :
    ({} : Labels).Fits t.caseValues t.defaultCount := by
  obtain ⟨hv, hd⟩ := h.no_labels hk
  rw [hv, hd]
  exact Labels.fits_empty List.nodup_nil (Nat.zero_le 1)

namespace Builder

variable {L : Type} {stage : Stage} {b : Builder L} {way : Leave} {value : Instruction → Option L}

/-- Where jumps out of the code at hand lead. -/
def exits (b : Builder L) : Exits := ⟨b.breakTarget?, b.continueTarget?⟩

/-- The labels of the switch that the code at hand lies directly in, if it lies in one. -/
def labels (b : Builder L) : Labels :=
  match b.scopes with
  | .switch s :: _ => ⟨s.cases, s.fallback⟩
  | _ => {}

/-- Open scopes in which the labels of an innermost switch are replaced. -/
def relabel (labels : Labels) : List Scope → List Scope
  | .switch s :: rest =>
    .switch { s with cases := labels.cases, fallback := labels.fallback } :: rest
  | scopes => scopes

/-- The builder that goes on where code has been laid out. -/
def adopt (b : Builder L) (r : Layout L) : Builder L :=
  { b with graph := r.graph, current := r.current, scopes := relabel r.labels b.scopes }

/-- A builder that goes on where it is stays what it is. -/
theorem adopt_self : b.adopt ⟨b.graph, b.current, b.labels⟩ = b := by
  obtain ⟨g, cur, scopes, limit, returned⟩ := b
  rcases scopes with _ | ⟨_ | _ | s, rest⟩ <;> rfl

/-- The exits of a builder lead where its own jumps lead. -/
theorem target?_exits : b.exits.target? b.graph.exit way = b.target? way := by
  cases way <;> rfl

/-- Which jumps out lead somewhere depends on the kinds of the open scopes only. -/
theorem exists_target_iff :
    (∃ target, b.target? way = some target) ↔ way.HasTarget (b.scopes.map Scope.kind) := by
  cases way with
  | breakOut =>
    unfold target? breakTarget? Leave.HasTarget
    rw [← Option.isSome_iff_exists, List.findSome?_isSome_iff]
    constructor
    · rintro ⟨s, hs, hs'⟩
      cases s with
      | branch => cases hs'
      | loop => exact .inl (List.mem_map.2 ⟨_, hs, rfl⟩)
      | switch => exact .inr (List.mem_map.2 ⟨_, hs, rfl⟩)
    · rintro (h | h)
      all_goals
        obtain ⟨s, hs, hk⟩ := List.mem_map.1 h
        cases s <;> cases hk
        exact ⟨_, hs, rfl⟩
  | continueLoop =>
    unfold target? continueTarget? Leave.HasTarget
    rw [← Option.isSome_iff_exists, List.findSome?_isSome_iff]
    constructor
    · rintro ⟨s, hs, hs'⟩
      cases s with
      | branch | switch => cases hs'
      | loop => exact List.mem_map.2 ⟨_, hs, rfl⟩
    · intro h
      obtain ⟨s, hs, hk⟩ := List.mem_map.1 h
      cases s <;> cases hk
      exact ⟨_, hs, rfl⟩
  | ret => exact ⟨fun _ => trivial, fun _ => ⟨_, rfl⟩⟩

/-! ## Reading the tokens of a tree -/

/-- Labels may stand in scopes that begin with a switch. -/
theorem exists_switch (h : (b.scopes.map Scope.kind).head? = some .switch) :
    ∃ s outer, b.scopes = .switch s :: outer := by
  rcases hs : b.scopes with _ | ⟨_ | _ | s, outer⟩
  · simp [hs] at h
  · simp [hs, Scope.kind] at h
  · simp [hs, Scope.kind] at h
  · exact ⟨s, outer, rfl⟩

/-- A token with an operand has a condition that can be read. -/
theorem condition_token {op : FlowOp} (i : OperandToken op) :
    condition i.instruction = .ok i.condition :=
  condition_eq_ok_iff.2 ⟨_, i.operand_eq, rfl⟩

/-- The token of a label has a value that can be read. -/
theorem caseValue_token (i : CaseToken) : caseValue i.instruction = .ok i.value :=
  caseValue_eq_ok_iff.2 ⟨_, i.operand_eq, i.isScalar, rfl⟩

/-- The blocks of the tree at hand are what the builder makes of its tokens. The induction is on the
tree, for every builder that is sound: soundness after a part has been read says that the current
block, and the dispatching block of a switch, can be closed. -/
theorem reads_tokens {t : Body} {b : Builder L} (hb : b.Sound) (hr : b.returned = false)
    (hlegal : t.Legal stage b.maxNesting (b.scopes.map Scope.kind))
    (hfit : b.labels.Fits t.caseValues t.defaultCount) :
    Reads stage (.of value) b t.tokens
      (b.adopt (t.lay value b.exits b.graph b.current b.labels)) := by
  induction t generalizing b with
  | nil =>
    rw [Body.lay, adopt_self]
    exact .nil
  | straight i rest ih =>
    have ht : Takes stage (.of value) b i.instruction
        { b with graph := match value i.instruction with
          | some v => b.graph.push b.current (.lowered v)
          | none => b.graph } := by
      cases hv : value i.instruction with
      | some v => exact .put i.isStraight hv.symm
      | none => exact .skip i.isStraight hv.symm
    have h := ih (ht.sound hr hb) hr hlegal hfit
    exact .cons hr ht h
  | leave way i rest ih =>
    obtain ⟨hto, hin, hrest⟩ := hlegal
    obtain ⟨target, ht⟩ := exists_target_iff.2 hto
    have hstep : Takes stage (.of value) b i.instruction _ :=
      .control (.leave way i.opcode_eq ht (fun h => by simpa using hin h)
        (hb.closable_current hr))
    have h := ih (hstep.sound hr hb) hr hrest hfit
    simp only [Body.lay, target?_exits, ht]
    exact .cons hr hstep h
  | leaveIf way i rest ih =>
    obtain ⟨hto, hrest⟩ := hlegal
    obtain ⟨target, ht⟩ := exists_target_iff.2 hto
    have hstep : Takes stage (.of value) b i.instruction _ :=
      .control (.leaveIf way i.opcode_eq ht (condition_token i)
        (hb.closable_current hr))
    have h := ih (hstep.sound hr hb) hr hrest hfit
    simp only [Body.lay, target?_exits, ht]
    exact .cons hr hstep h
  | discard i rest ih =>
    obtain ⟨hst, hrest⟩ := hlegal
    have hstep : Takes stage (.of value) b i.instruction _ :=
      .control (.discard i.opcode_eq hst (condition_token i) Graph.closable_pushDiscard
        (Graph.isOpen_allocDiscard.2 (.inr (hb.isOpen_current hr))).closable)
    have h := ih (hstep.sound hr hb) hr hrest hfit
    exact .cons hr hstep h
  | caseLabel i rest ih =>
    obtain ⟨hk, hrest⟩ := hlegal
    obtain ⟨s, outer, hs⟩ := exists_switch hk
    obtain ⟨g, cur, scopes, limit, returned⟩ := b
    cases hs
    obtain ⟨hnew, hfit⟩ := (Labels.fits_cons_iff g.size).1 hfit
    have hstep : Takes stage (.of value) _ i.instruction _ :=
      .control (.caseLabel i.opcode_eq (caseValue_token i) rfl hnew (hb.closable_current hr))
    have h := ih (hstep.sound hr hb) hr hrest hfit
    exact .cons hr hstep h
  | defaultLabel i rest ih =>
    obtain ⟨hk, hrest⟩ := hlegal
    obtain ⟨s, outer, hs⟩ := exists_switch hk
    obtain ⟨g, cur, scopes, limit, returned⟩ := b
    cases hs
    obtain ⟨hnew, hfit⟩ := (Labels.fits_succ_iff g.size).1 hfit
    have hstep : Takes stage (.of value) _ i.instruction _ :=
      .control (.defaultLabel i.opcode_eq rfl hnew (hb.closable_current hr))
    have h := ih (hstep.sound hr hb) hr hrest hfit
    exact .cons hr hstep h
  | branch i body close rest ihb ih =>
    obtain ⟨hdepth, hbody, hrest⟩ := hlegal
    have hfirst : Takes stage (.of value) b i.instruction _ :=
      .control (.beginIf i.opcode_eq (condition_token i) (by simpa [depth] using hdepth)
        (hb.closable_current hr))
    have hfirst' := hfirst.sound hr hb
    have harm := ihb hfirst' hr hbody (hbody.fits (by simp))
    have harm' := harm.sound hfirst'
    have hlast : Takes stage (.of value) _ close.instruction _ :=
      .control (.endIf close.opcode_eq (by rfl) (harm'.closable_current hr))
    have h := ih (hlast.sound hr harm') hr hrest hfit
    exact .cons hr hfirst (harm.append (.cons hr hlast h))
  | branchElse i body divide other close rest ihb iho ih =>
    obtain ⟨hdepth, hbody, hother, hrest⟩ := hlegal
    have hfirst : Takes stage (.of value) b i.instruction _ :=
      .control (.beginIf i.opcode_eq (condition_token i) (by simpa [depth] using hdepth)
        (hb.closable_current hr))
    have hfirst' := hfirst.sound hr hb
    have harm := ihb hfirst' hr hbody (hbody.fits (by simp))
    have harm' := harm.sound hfirst'
    have hmid : Takes stage (.of value) _ divide.instruction _ :=
      .control (.elseArm divide.opcode_eq (by rfl) (harm'.closable_current hr))
    have hmid' := hmid.sound hr harm'
    have hsecond := iho hmid' hr hother (hother.fits (by simp))
    have hsecond' := hsecond.sound hmid'
    have hlast : Takes stage (.of value) _ close.instruction _ :=
      .control (.endIf close.opcode_eq (by rfl) (hsecond'.closable_current hr))
    have h := ih (hlast.sound hr hsecond') hr hrest hfit
    exact .cons hr hfirst (harm.append (.cons hr hmid (hsecond.append (.cons hr hlast h))))
  | loop i body close rest ihb ih =>
    obtain ⟨hdepth, hbody, hrest⟩ := hlegal
    have hfirst : Takes stage (.of value) b i.instruction _ :=
      .control (.beginLoop i.opcode_eq (by simpa [depth] using hdepth) (hb.closable_current hr))
    have hfirst' := hfirst.sound hr hb
    have hround := ihb hfirst' hr hbody (hbody.fits (by simp))
    have hround' := hround.sound hfirst'
    have hlast : Takes stage (.of value) _ close.instruction _ :=
      .control (.endLoop close.opcode_eq (by rfl) (hround'.closable_current hr))
    have h := ih (hlast.sound hr hround') hr hrest hfit
    exact .cons hr hfirst (hround.append (.cons hr hlast h))
  | switch i body close rest ihb ih =>
    obtain ⟨hdepth, hbody, hvalues, hdefaults, hrest⟩ := hlegal
    have hfirst : Takes stage (.of value) b i.instruction _ :=
      .control (.beginSwitch i.opcode_eq i.operand_eq (by simpa [depth] using hdepth))
    have hfirst' := hfirst.sound hr hb
    -- The arms start with no labels, and the dispatching block is open until the switch ends.
    have harms := ihb hfirst' hr hbody (Labels.fits_empty hvalues hdefaults)
    have harms' := harms.sound hfirst'
    have hlast : Takes stage (.of value) _ close.instruction _ :=
      .control (.endSwitch close.opcode_eq (by rfl) (harms'.closable_current hr)
        (harms'.isOpen_dispatch hr (by rfl) _).closable)
    have h := ih (hlast.sound hr harms') hr hrest hfit
    exact .cons hr hfirst (harms.append (.cons hr hlast h))

/-- Legal code and a return behind it are read to the end. Besides the two blocks that are there
from the start, there are those that the code allocates. -/
theorem reads_function (value : Instruction → Option L) {limit : Nat} {t : Body}
    (h : t.Legal stage limit []) (r : Token .ret) :
    ∃ b, Reads stage (.of value) (.start limit) (t.tokens ++ [r.instruction]) b ∧
      b.returned = true ∧ b.graph = t.graph value ∧ b.graph.size = 2 + allocated t.tokens := by
  have hbody : Reads stage (.of value) (.start limit) t.tokens _ :=
    reads_tokens (sound_start limit) rfl h (h.fits nofun)
  have hsound := hbody.sound (sound_start limit)
  have hret : Takes stage (.of value) _ r.instruction _ :=
    .control (.ret r.opcode_eq (by rfl) (hsound.closable_current rfl))
  refine ⟨_, hbody.snoc rfl hret, rfl, ?_, ?_⟩
  · have hexit := hsound.graph.exit_eq
    rw [hexit]
    rfl
  · rw [Graph.size_close]
    exact hbody.size_eq rfl

end Builder

end ShaderFlow
