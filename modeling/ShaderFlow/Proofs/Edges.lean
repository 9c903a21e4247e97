import Mathlib.Tactic.MkIffOfInductiveProp
import ShaderFlow.Proofs.Alignment

/-!
# The edges of a finished graph

Each control-flow instruction adds edges, and none is added otherwise (`Builder.Adds`,
`Compilation.History.mem_successors_iff`). Which blocks an edge joins is decided by the builder's
scopes, and these are the scopes of the program. So the edges can be read off the program:
`Compilation.History.Link` lists them by the instructions they come from, without the builder, and
`Compilation.History.link_iff` says that the list is complete.
-/

namespace ShaderFlow

namespace Graph

variable {L : Type} {g : Graph L} {b u x : BlockId} {t : Terminator}

/-- The edges out of a block are those of its terminator. -/
theorem mem_successors_iff_terminatorAt :
    x ∈ g.successors u ↔ ∃ t, g.terminatorAt u = some t ∧ x ∈ t.successors := by
  rw [mem_successors_iff]
  simp only [terminatorAt, Option.bind_eq_some_iff]
  constructor
  · rintro ⟨block, t, hblock, ht, hx⟩
    exact ⟨t, ⟨block, hblock, ht⟩, hx⟩
  · rintro ⟨t, ⟨block, hblock, ht⟩, hx⟩
    exact ⟨block, t, hblock, ht, hx⟩

@[simp] theorem mem_successors_alloc {name : String} :
    x ∈ (g.alloc name).successors u ↔ x ∈ g.successors u := by
  simp [mem_successors_iff_terminatorAt]

@[simp] theorem mem_successors_push {item : BlockItem L} :
    x ∈ (g.push b item).successors u ↔ x ∈ g.successors u := by
  simp [mem_successors_iff_terminatorAt]

/-- Closing a block adds the edges of its terminator. -/
theorem mem_successors_close (ho : g.IsOpen b) :
    x ∈ (g.close b t).successors u ↔ x ∈ g.successors u ∨ u = b ∧ x ∈ t.successors := by
  rw [mem_successors_iff_terminatorAt, mem_successors_iff_terminatorAt]
  by_cases hu : u = b
  · subst hu
    simp [terminatorAt_close_self ho.lt_size, ho.terminatorAt_eq_none]
  · simp [terminatorAt_close_of_ne hu, hu]

/-- A `discard` adds the edge between its two blocks. -/
theorem mem_successors_allocDiscard :
    x ∈ g.allocDiscard.successors u ↔ x ∈ g.successors u ∨ u = g.size ∧ x = g.size + 1 := by
  have ho : (g.pushDiscard g.size).IsOpen g.size := isOpen_pushDiscard.2 (.inr (.inl rfl))
  rw [allocDiscard, allocDiscardAs, mem_successors_close ho]
  simp [pushDiscard, Terminator.successors]

end Graph

/-- Which of the blocks that an instruction allocates the block it ends leads to. -/
def FlowOp.entered : FlowOp → List Nat
  | .beginIf | .discard => [0, 1]
  | .elseArm | .beginLoop | .caseLabel | .defaultLabel | .breakIf | .continueIf | .retIf => [0]
  | .endIf | .endLoop | .beginSwitch | .endSwitch | .breakOut | .continueLoop | .ret => []

/-- A block that is entered at once is one that the opcode allocates, and a return has none. -/
theorem FlowOp.lt_of_mem_entered {op : FlowOp} {t : Nat} (h : t ∈ op.entered) :
    t < op.blocks.length ∧ op ≠ .ret := by
  cases op <;> simp_all [entered, blocks] <;> omega

/-- There are three ways to leave the code at hand. -/
theorem Leave.exists_iff {P : Leave → Prop} :
    (∃ way, P way) ↔ P .breakOut ∨ P .continueLoop ∨ P .ret :=
  ⟨fun ⟨way, h⟩ => by cases way <;> simp [h], fun h => by rcases h with h | h | h <;> exact ⟨_, h⟩⟩

namespace Builder

variable {L : Type} {stage : Stage} {b b' : Builder L} {i : Instruction} {op : FlowOp}
  {u x : BlockId}

/-- The edges that a control-flow instruction adds. -/
@[mk_iff]
inductive Adds (b : Builder L) (op : FlowOp) : BlockId → BlockId → Prop where
  /-- To a block that the instruction allocates. -/
  | fresh {t : Nat} (ht : t ∈ op.entered) : Adds b op b.current (b.graph.size + t)
  /-- Between the two blocks of a `discard`. -/
  | discarded (hop : op = .discard) : Adds b op b.graph.size (b.graph.size + 1)
  /-- Behind a scope that ends. -/
  | land {s : Scope} {rest : List Scope} (hop : op = .endIf ∨ op = .endSwitch)
      (hs : b.scopes = s :: rest) : Adds b op b.current s.landing
  /-- Back to the entrance of a loop that ends. -/
  | again {entrance exit : BlockId} {rest : List Scope} (hop : op = .endLoop)
      (hs : b.scopes = .loop entrance exit :: rest) : Adds b op b.current entrance
  /-- Out of the code at hand. -/
  | leave (way : Leave) {target : BlockId} (hop : op = way.op ∨ op = way.opIf)
      (ht : b.target? way = some target) : Adds b op b.current target
  /-- To the labels of a switch that ends. -/
  | dispatch {s : SwitchScope} {rest : List Scope} {x : BlockId} (hop : op = .endSwitch)
      (hs : b.scopes = .switch s :: rest) (hx : x ∈ s.cases.values ∨ x = s.default) :
      Adds b op s.dispatch x

/-- A step adds these edges and no others. -/
theorem Step.mem_successors_iff (h : Step stage b i b') (hb : b.Sound) (hr : b.returned = false)
    (hop : i.opcode = .flow op) :
    x ∈ b'.graph.successors u ↔ x ∈ b.graph.successors u ∨ b.Adds op u x := by
  have ho := hb.isOpen_current hr
  have ho₁ {n : String} : (b.graph.alloc n).IsOpen b.current := Graph.isOpen_alloc.2 (.inr ho)
  have ho₂ {n n' : String} : ((b.graph.alloc n).alloc n').IsOpen b.current :=
    Graph.isOpen_alloc.2 (.inr ho₁)
  cases h with
  | beginIf hop' | beginLoop hop' =>
    cases hop'.symm.trans hop
    simp [Graph.mem_successors_close ho₂, Terminator.successors, adds_iff, FlowOp.entered,
      Leave.exists_iff, Leave.op, Leave.opIf, and_or_left]
  | elseArm hop' | caseLabel hop' | defaultLabel hop' =>
    cases hop'.symm.trans hop
    simp [Graph.mem_successors_close ho₁, Terminator.successors, adds_iff, FlowOp.entered,
      Leave.exists_iff, Leave.op, Leave.opIf]
  | endIf hop' hs | endLoop hop' hs =>
    cases hop'.symm.trans hop
    simp [Graph.mem_successors_close ho, Terminator.successors, adds_iff, FlowOp.entered,
      Leave.exists_iff, Leave.op, Leave.opIf, hs, Scope.landing, and_comm, eq_comm]
  | beginSwitch hop' =>
    cases hop'.symm.trans hop
    simp [adds_iff, FlowOp.entered, Leave.exists_iff, Leave.op, Leave.opIf]
  | @endSwitch s rest hop' hs =>
    cases hop'.symm.trans hop
    have hdispatch := hb.isOpen_dispatch hr hs (.jump s.exit)
    simp [Graph.mem_successors_close hdispatch, Graph.mem_successors_close ho,
      Terminator.successors, adds_iff, FlowOp.entered, Leave.exists_iff, Leave.op, Leave.opIf, hs,
      Scope.landing, or_assoc, and_comm]
  | leave way hop' ht =>
    cases way <;> cases hop'.symm.trans hop <;>
    simp [Graph.mem_successors_close ho, Terminator.successors, adds_iff, FlowOp.entered,
      Leave.exists_iff, Leave.op, Leave.opIf, ht, and_comm, eq_comm]
  | leaveIf way hop' ht =>
    cases way <;> cases hop'.symm.trans hop <;>
    simp [Graph.mem_successors_close ho₁, Terminator.successors, adds_iff, FlowOp.entered,
      Leave.exists_iff, Leave.op, Leave.opIf, ht, and_or_left, and_comm, or_comm, eq_comm]
  | ret hop' =>
    cases hop'.symm.trans hop
    simp [Graph.mem_successors_close ho, Terminator.successors, adds_iff, FlowOp.entered,
      Leave.exists_iff, Leave.op, Leave.opIf, target?, and_comm, eq_comm]
  | discard hop' =>
    cases hop'.symm.trans hop
    have ho' : b.graph.allocDiscard.IsOpen b.current := Graph.isOpen_allocDiscard.2 (.inr ho)
    rw [Graph.mem_successors_close ho', Graph.mem_successors_allocDiscard, or_assoc]
    refine or_congr_right ?_
    simp [Terminator.successors, adds_iff, FlowOp.entered, Leave.exists_iff, Leave.op, Leave.opIf,
      and_or_left, or_comm]

end Builder

namespace Compilation.History

variable {σ L : Type} {C : Compilation σ L} {H : C.History} {j k : Nat} {op : FlowOp}
  {o : Opening} {u x : BlockId} {s s' : Scope}

/-- The edges of a graph under construction are those that the instructions so far have added. -/
theorem mem_successors_builder_iff (hk : k ≤ H.length) :
    x ∈ (H.builder k).graph.successors u ↔
      ∃ j < k, ∃ op, C.program.flowAt? j = some op ∧ (H.builder j).Adds op u x := by
  induction k with
  | zero =>
    have hnone : x ∉ (Builder.start C.options.maxNesting : Builder L).graph.successors u := by
      match u with
      | 0 | 1 | _ + 2 => exact List.not_mem_nil
    rw [builder_zero]
    simpa using hnone
  | succ k ih =>
    have hsplit : (∃ j < k + 1, ∃ op, C.program.flowAt? j = some op ∧ (H.builder j).Adds op u x) ↔
        x ∈ (H.builder k).graph.successors u ∨
          ∃ op, C.program.flowAt? k = some op ∧ (H.builder k).Adds op u x := by
      rw [ih (Nat.le_of_lt hk)]
      simp only [Nat.lt_succ_iff_lt_or_eq, or_and_right, exists_or, exists_eq_left]
    rw [hsplit]
    cases hop : C.program.flowAt? k with
    | none =>
      simp [Graph.mem_successors_iff_terminatorAt, (quiet hk hop).terminatorAt]
    | some op =>
      obtain ⟨i, hi, hstep⟩ := control hk hop
      rw [hstep.mem_successors_iff (sound (Nat.le_of_lt hk)) (H.running hk) hi]
      simp

/-- The edges of the finished graph are those that the instructions have added. -/
theorem mem_successors_iff :
    x ∈ H.graph.successors u ↔
      ∃ k < H.length, ∃ op, C.program.flowAt? k = some op ∧ (H.builder k).Adds op u x :=
  mem_successors_builder_iff (Nat.le_refl _)

/-! ## The list of edges -/

/-- The edges of a finished graph, by the instructions that they come from. -/
inductive Link (H : C.History) : BlockId → BlockId → Prop where
  /-- To a block that the instruction allocates. -/
  | fresh {k : Nat} {op : FlowOp} {t : Nat} {x : BlockId} (hx : H.Allots k op t x)
      (ht : t ∈ op.entered) : Link H (H.current k) x
  /-- Between the two blocks of a `discard`. -/
  | discarded {k : Nat} {u x : BlockId} (hu : H.Allots k .discard 0 u)
      (hx : H.Allots k .discard 1 x) : Link H u x
  /-- Behind a conditional or a switch that ends. -/
  | land {k : Nat} {o : Opening} {x : BlockId} (hk : k < H.length)
      (hop : C.program.Marks o .endIf k ∨ C.program.Marks o .endSwitch k) (hx : H.Lands k o x) :
      Link H (H.current k) x
  /-- Back to the entrance of a loop that ends or goes on. -/
  | again {j k : Nat} {x : BlockId} (hk : k < H.length)
      (hop : C.program.Marks ⟨j, .loop⟩ .endLoop k ∨
        C.program.Leaves .continueLoop k ∧ C.program.loopScope? k = some ⟨j, .loop⟩)
      (hx : H.Allots j .beginLoop 0 x) : Link H (H.current k) x
  /-- Out of a loop or a switch. -/
  | breakOut {k : Nat} {o : Opening} {x : BlockId} (hk : k < H.length)
      (hop : C.program.Leaves .breakOut k) (ho : C.program.breakScope? k = some o)
      (hx : H.Lands k o x) : Link H (H.current k) x
  /-- Out of the function. -/
  | ret {k : Nat} (hk : k < H.length) (hop : C.program.Leaves .ret k) :
      Link H (H.current k) H.graph.exit
  /-- To a label of a switch. -/
  | label {k e : Nat} {op : FlowOp} {x : BlockId} (hop : op = .caseLabel ∨ op = .defaultLabel)
      (hmark : C.program.Marks ⟨k, .switch⟩ op e) (hx : H.Allots e op 0 x) : Link H (H.current k) x
  /-- Behind a switch for the values that it does not list. -/
  | unlisted {k : Nat} {x : BlockId} (hno : ∀ e, ¬ C.program.Marks ⟨k, .switch⟩ .defaultLabel e)
      (hx : H.Allots k .beginSwitch 0 x) : Link H (H.current k) x

/-- The exit stays the same. -/
theorem exit_builder (hk : k ≤ H.length) : (H.builder k).graph.exit = H.graph.exit := by
  rw [(sound hk).graph.exit_eq, graph, (sound (Nat.le_refl _)).graph.exit_eq]

/-- The edges of a dispatching block lead to the labels of its switch, and behind the switch if no
label is the default. -/
theorem link_dispatch {s : SwitchScope} (hk : k < H.length)
    (hmark : C.program.Marks o .endSwitch k) (hs : H.Opens k o (.switch s))
    (hx : x ∈ s.cases.values ∨ x = s.default) : H.Link s.dispatch x := by
  obtain ⟨position, kind⟩ := o
  obtain ⟨rfl, hdispatch, hexit, hcases, hfallback⟩ := hs
  have hlabel {op : FlowOp} {y : BlockId} (hop : op = .caseLabel ∨ op = .defaultLabel)
      (hy : H.Marked k ⟨position, .switch⟩ op y) : H.Link s.dispatch y := by
    obtain ⟨e, he, hmark, rfl⟩ := hy
    have hlt : e + 1 < H.length :=
      succ_lt_of_ne_ret (Nat.lt_trans he hk) hmark.1 (by rcases hop with rfl | rfl <;> nofun)
    rw [hdispatch]
    refine .label hop hmark ⟨hlt, hmark.1, ?_, rfl⟩
    rcases hop with rfl | rfl <;> exact Nat.one_pos
  rcases hx with hx | rfl
  · exact hlabel (.inl rfl) ((hcases x).1 hx)
  · unfold SwitchScope.default
    cases hf : s.fallback with
    | some y => exact hlabel (.inr rfl) ((hfallback y).1 hf)
    | none =>
      rw [hdispatch, Option.getD_none, hexit]
      refine .unlisted (fun e he => ?_)
        (allots_opening hk (Program.mem_openAt_of_scope? hmark.2) Nat.two_pos)
      have hend : C.program.Marks ⟨position, .switch⟩ ScopeKind.switch.closing k := hmark
      have hlt : e < k := lt_end he hend nofun
      have hsome := (hfallback _).2 ⟨e, hlt, he, rfl⟩
      rw [hf] at hsome
      cases hsome

/-- Every edge is listed. -/
theorem link_of_adds (hk : k < H.length) (hop : C.program.flowAt? k = some op)
    (h : (H.builder k).Adds op u x) : H.Link u x := by
  have halign := aligned (Nat.le_of_lt hk)
  cases h with
  | @fresh t ht =>
    obtain ⟨hlt, hne⟩ := FlowOp.lt_of_mem_entered ht
    exact .fresh ⟨succ_lt_of_ne_ret hk hop hne, hop, hlt, rfl⟩ ht
  | discarded hop' =>
    subst hop'
    have hlt := succ_lt_of_ne_ret hk hop nofun
    exact .discarded ⟨hlt, hop, Nat.two_pos, rfl⟩ ⟨hlt, hop, Nat.one_lt_two, rfl⟩
  | @land s rest hop' hs =>
    have hmem : s ∈ (H.builder k).scopes := hs ▸ List.mem_cons_self
    rw [hs] at halign
    obtain ⟨o, os, -, hscope, hopens, -⟩ := exists_top halign
    refine .land (o := o) hk ?_ ⟨s, hmem, hopens, rfl⟩
    rcases hop' with rfl | rfl
    · exact .inl ⟨hop, hscope⟩
    · exact .inr ⟨hop, hscope⟩
  | again hop' hs =>
    subst hop'
    rw [hs] at halign
    obtain ⟨⟨position, kind⟩, os, -, hscope, ⟨rfl, rfl, -⟩, -⟩ := exists_top halign
    exact .again hk (.inl ⟨hop, hscope⟩)
      (allots_opening hk (Program.mem_openAt_of_scope? hscope) Nat.two_pos)
  | leave way hop' ht =>
    have hleaves : C.program.Leaves way k := by
      rcases hop' with rfl | rfl
      · exact .inl hop
      · exact .inr hop
    cases way with
    | breakOut =>
      rw [Builder.target?, breakTarget?_eq (Nat.le_of_lt hk)] at ht
      obtain ⟨o, ho, rfl⟩ := Option.map_eq_some_iff.1 ht
      have hkind : o.kind ≠ .branch := by simpa using List.find?_some ho
      refine .breakOut hk hleaves ho ?_
      exact (lands_iff_of_ne (Nat.le_of_lt hk) (Program.mem_openAt_of_breakScope? ho) hkind).2 rfl
    | continueLoop =>
      rw [Builder.target?, continueTarget?_eq (Nat.le_of_lt hk)] at ht
      obtain ⟨⟨position, kind⟩, ho, rfl⟩ := Option.map_eq_some_iff.1 ht
      obtain rfl : kind = .loop := by simpa using List.find?_some ho
      exact .again hk (.inr ⟨hleaves, ho⟩)
        (allots_opening hk (Program.mem_openAt_of_loopScope? ho) Nat.two_pos)
    | ret =>
      cases ht
      rw [exit_builder (Nat.le_of_lt hk)]
      exact .ret hk hleaves
  | dispatch hop' hs hx =>
    subst hop'
    rw [hs] at halign
    obtain ⟨o, os, -, hscope, hopens, -⟩ := exists_top halign
    exact link_dispatch hk ⟨hop, hscope⟩ hopens hx

/-- An instruction that leaves the code at hand, with a condition or without, adds the edge to its
target. -/
theorem adds_of_leaves {way : Leave} (hk : k < H.length) (h : C.program.Leaves way k)
    (ht : (H.builder k).target? way = some x) :
    ∃ j < H.length, ∃ op, C.program.flowAt? j = some op ∧
      (H.builder j).Adds op (H.current k) x := by
  rcases h with hop | hop
  · exact ⟨k, hk, _, hop, .leave way (.inl rfl) ht⟩
  · exact ⟨k, hk, _, hop, .leave way (.inr rfl) ht⟩

/-- Every listed edge is there. -/
theorem adds_of_link (h : H.Link u x) :
    ∃ k < H.length, ∃ op, C.program.flowAt? k = some op ∧ (H.builder k).Adds op u x := by
  cases h with
  | @fresh k op t _ hx ht =>
    refine ⟨k, Nat.lt_of_succ_lt hx.succ_lt, op, hx.flowAt, ?_⟩
    rw [hx.eq]
    exact .fresh ht
  | @discarded k _ _ hu hx =>
    refine ⟨k, Nat.lt_of_succ_lt hx.succ_lt, _, hx.flowAt, ?_⟩
    rw [hu.eq, hx.eq]
    exact .discarded rfl
  | @land k o _ hk hop hx =>
    obtain ⟨s', -, hopens', rfl⟩ := hx
    have hscope : C.program.scope? k = some o := hop.elim And.right And.right
    obtain ⟨s, rest, hs, hopens⟩ := exists_scopes_eq (Nat.le_of_lt hk) hscope
    rw [hopens'.landing_eq hopens]
    rcases hop with hmark | hmark
    · exact ⟨k, hk, _, hmark.1, .land (.inl rfl) hs⟩
    · exact ⟨k, hk, _, hmark.1, .land (.inr rfl) hs⟩
  | @again j k _ hk hop hx =>
    rw [hx.eq, Nat.add_zero]
    rcases hop with hmark | ⟨hleaves, ho⟩
    · obtain ⟨s, rest, hs, hopens⟩ := exists_scopes_eq (Nat.le_of_lt hk) hmark.2
      cases s with
      | loop entrance exit =>
        obtain ⟨-, rfl, -⟩ := hopens
        exact ⟨k, hk, _, hmark.1, .again rfl hs⟩
      | branch | switch => cases hopens.1
    · have htarget : (H.builder k).target? .continueLoop = some (H.size j) := by
        rw [Builder.target?, continueTarget?_eq (Nat.le_of_lt hk), ho]
        rfl
      exact adds_of_leaves hk hleaves htarget
  | @breakOut k o _ hk hop ho hx =>
    have hkind : o.kind ≠ .branch := by simpa using List.find?_some ho
    have hmem := Program.mem_openAt_of_breakScope? ho
    have heq := (lands_iff_of_ne (Nat.le_of_lt hk) hmem hkind).1 hx
    have htarget : (H.builder k).target? .breakOut = some x := by
      rw [Builder.target?, breakTarget?_eq (Nat.le_of_lt hk), ho, heq]
      rfl
    exact adds_of_leaves hk hop htarget
  | @ret k hk hop =>
    rw [← exit_builder (Nat.le_of_lt hk)]
    exact adds_of_leaves hk hop rfl
  | @label k e op _ hop hmark hx =>
    have he := Nat.le_of_lt (Nat.lt_of_succ_lt hx.succ_lt)
    obtain ⟨n, s, rest, -, hn, hend, hs, hopens⟩ :=
      exists_dispatch (Program.mem_openAt_of_scope? hmark.2) he
    refine ⟨n, hn, _, hend.1, ?_⟩
    obtain ⟨-, hdispatch, -, hcases, hfallback⟩ := hopens
    have hend' : C.program.Marks ⟨k, .switch⟩ ScopeKind.switch.closing n := hend
    have hlt : e < n := lt_end hmark hend' (by rcases hop with rfl | rfl <;> decide)
    rw [← hdispatch, hx.eq, Nat.add_zero]
    refine .dispatch rfl hs ?_
    rcases hop with rfl | rfl
    · exact .inl ((hcases _).2 ⟨e, hlt, hmark, rfl⟩)
    · have hsome := (hfallback _).2 ⟨e, hlt, hmark, rfl⟩
      exact .inr (by simp [SwitchScope.default, hsome])
  | @unlisted k _ hno hx =>
    have ho : (⟨k, .switch⟩ : Opening) ∈ C.program.openAt (k + 1) := by
      have hopen : C.program.openAt (k + 1) = ⟨k, .switch⟩ :: C.program.openAt k :=
        Program.openAt_succ_of_opening hx.flowAt
      rw [hopen]
      exact List.mem_cons_self
    obtain ⟨e, s, rest, -, he, hend, hs, hopens⟩ :=
      exists_dispatch ho (Nat.le_of_lt hx.succ_lt)
    refine ⟨e, he, _, hend.1, ?_⟩
    obtain ⟨-, hdispatch, hexit, -, hfallback⟩ := hopens
    have hnone : s.fallback = none := by
      cases hf : s.fallback with
      | none => rfl
      | some y =>
        obtain ⟨e', -, hmark, -⟩ := (hfallback y).1 hf
        exact absurd hmark (hno e')
    have hdefault : x = s.default := by
      rw [SwitchScope.default, hnone, Option.getD_none, hexit, hx.eq, Nat.add_zero]
    rw [← hdispatch]
    exact .dispatch rfl hs (.inr hdefault)

/-- The edges of the finished graph are the listed ones. -/
theorem link_iff : x ∈ H.graph.successors u ↔ H.Link u x := by
  rw [mem_successors_iff]
  constructor
  · rintro ⟨k, hk, op, hop, hadds⟩
    exact link_of_adds hk hop hadds
  · exact adds_of_link

end Compilation.History

end ShaderFlow
