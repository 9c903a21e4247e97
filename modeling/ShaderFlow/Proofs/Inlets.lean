import ShaderFlow.Proofs.Edges
import ShaderFlow.Proofs.WellFormed

/-!
# The ways into a block

Which blocks lead to the entrance of a loop, behind a loop or a switch, to a label and out of the
function is read off the program: `Compilation.Inlets` says it for each of them, by the instructions
that end the blocks. A finished graph has these incoming edges and no others
(`Compilation.inlets_of_result`). The entry and the blocks for code that nothing leads to have none.
-/

namespace ShaderFlow

/-- A block is among the predecessors of its targets, if all blocks have ids. -/
theorem Graph.mem_predecessors_iff {L : Type} {g : Graph L} {u x : BlockId}
    (hfit : g.size ≤ UInt32.size) : u ∈ g.predecessors x ↔ x ∈ g.successors u := by
  have hid {p : BlockId} (h : p < g.size) : BlockId.ofIndex p = p :=
    BlockId.ofIndex_of_lt (Nat.lt_of_lt_of_le h hfit)
  simp only [predecessors, List.mem_map, List.mem_filter, List.mem_range, List.contains_iff_mem]
  constructor
  · rintro ⟨p, ⟨hlt, hx⟩, rfl⟩
    rw [hid hlt]
    exact hx
  · intro hx
    obtain ⟨block, -, hblock, -⟩ := mem_successors_iff.1 hx
    have hlt := lt_size_of_block? hblock
    exact ⟨u, ⟨hlt, hx⟩, hid hlt⟩

/-- The instruction that opens a scope tells the kind of the scope. -/
theorem ScopeKind.opening_injective {kind kind' : ScopeKind} (h : kind.opening = kind'.opening) :
    kind = kind' := by
  cases kind <;> cases kind' <;> simp_all [opening]

/-- The opcode that allocates blocks of a name, and their number among the blocks that it
allocates. -/
def FlowOp.origin? (name : String) : Option (FlowOp × Nat) :=
  FlowOp.all.findSome? fun op => (op.blocks.idxOf? name).map (op, ·)

/-- Blocks that are allocated for different reasons have different names. -/
theorem FlowOp.origin?_eq {op : FlowOp} {t : Nat} {name : String} (h : op.blocks[t]? = some name) :
    origin? name = some (op, t) := by
  match t with
  | 0 => cases op <;> cases h <;> decide
  | 1 => cases op <;> cases h <;> decide
  | t + 2 => cases op <;> cases h

namespace Compilation

variable {σ L : Type} {C : Compilation σ L}

/-- The edges into the blocks of a graph that have a role of their own. -/
structure Inlets (C : Compilation σ L) (g : Graph L) : Prop where
  /-- Control flow that does not end the function allocates its blocks. -/
  blocks : ∀ {k op name}, C.program.flowAt? k = some op → C.blockAt? (k + 1) ≠ none →
    name ∈ op.blocks → ∃ x, C.Allocates k name x
  /-- Every block but the entry and the exit is allocated by an instruction. -/
  allocated : ∀ {x name}, x ≠ g.entry → x ≠ g.exit → g.nameAt x = some name →
    ∃ k, C.Allocates k name x
  /-- Behind a loop lead the `break`s out of it. -/
  endLoop : ∀ {k x}, C.Allocates k "endloop" x → ∀ u, u ∈ g.predecessors x ↔
    ∃ j, C.Ends [.breakOut, .breakIf] j u ∧ C.program.breakScope? j = some ⟨k, .loop⟩
  /-- To the entrance of a loop lead the code before the loop, the `continue`s in it and its end. -/
  loopEntrance : ∀ {k x}, C.Allocates k "loop_entrance" x → ∀ u, u ∈ g.predecessors x ↔
    C.Ends [.beginLoop] k u ∨
    (∃ j, C.Ends [.continueLoop, .continueIf] j u ∧ C.program.loopScope? j = some ⟨k, .loop⟩) ∨
    ∃ j, C.Ends [.endLoop] j u ∧ C.program.scope? j = some ⟨k, .loop⟩
  /-- Behind a switch lead the `break`s out of it, its end and, if it has no default, its
  dispatching block. -/
  endSwitch : ∀ {k x}, C.Allocates k "endswitch" x → ∀ u, u ∈ g.predecessors x ↔
    (∃ j, C.Ends [.breakOut, .breakIf] j u ∧ C.program.breakScope? j = some ⟨k, .switch⟩) ∨
    (∃ j, C.Ends [.endSwitch] j u ∧ C.program.scope? j = some ⟨k, .switch⟩) ∨
    C.Ends [.beginSwitch] k u ∧ ¬ ∃ j, C.program.Marks ⟨k, .switch⟩ .defaultLabel j
  /-- To a label lead the dispatching block of its switch and the code before the label. -/
  label : ∀ {j x}, C.Allocates j "switch_case" x ∨ C.Allocates j "switch_default" x →
    ∃ k, C.program.scope? j = some ⟨k, .switch⟩ ∧ ∀ u, u ∈ g.predecessors x ↔
      C.Ends [.beginSwitch] k u ∨ C.Ends [.caseLabel, .defaultLabel] j u
  /-- Out of the function lead its returns. -/
  exit : ∀ u, u ∈ g.predecessors g.exit ↔ ∃ j, C.Ends [.ret, .retIf] j u
  /-- Nothing leads to the entry. -/
  entry : g.predecessors g.entry = []
  /-- Nothing leads to the code behind a jump that is taken in any case, nor to the code of a
  switch before its first label. -/
  unreachable : ∀ {x name}, g.nameAt x = some name →
    name ∈ ["after_break", "after_continue", "after_ret", "switch_empty"] → g.predecessors x = []

namespace History

variable {H : C.History} {j k t : Nat} {op : FlowOp} {o : Opening} {u x : BlockId} {name : String}

/-- A name tells which of its blocks an opcode has allotted. -/
theorem allots_of_allocates (h : C.Allocates k name x)
    (hname : FlowOp.origin? name = some (op, t)) : H.Allots k op t x := by
  obtain ⟨op', t', hallots, hname'⟩ := H.allocates_iff.1 h
  cases (FlowOp.origin?_eq hname').symm.trans hname
  exact hallots

/-- Control flow that does not end the function allocates all blocks of its opcode. -/
theorem exists_allocates_of_mem (H : C.History) (hop : C.program.flowAt? k = some op)
    (hk : C.blockAt? (k + 1) ≠ none) (hname : name ∈ op.blocks) : ∃ x, C.Allocates k name x := by
  obtain ⟨u, hu⟩ := Option.ne_none_iff_exists'.1 hk
  obtain ⟨t, ht, rfl⟩ := List.getElem_of_mem hname
  have hlt := (H.blockAt?_eq_some_iff.1 hu).1
  exact ⟨_, H.allocates_iff.2 ⟨op, t, ⟨hlt, hop, ht, rfl⟩, List.getElem?_eq_getElem ht⟩⟩

/-- An instruction with the opcode ends the block that is current there. -/
theorem ends_one_iff : C.Ends [op] j u ↔
    C.program.flowAt? j = some op ∧ j < H.length ∧ u = H.current j := by
  simp [Ends, H.blockAt?_eq_some_iff]

/-- The same with two opcodes to choose from. -/
theorem ends_two_iff {op' : FlowOp} : C.Ends [op, op'] j u ↔
    (C.program.flowAt? j = some op ∨ C.program.flowAt? j = some op') ∧ j < H.length ∧
      u = H.current j := by
  simp [Ends, H.blockAt?_eq_some_iff]

/-- The exit is not allocated by an instruction. -/
theorem Allots.ne_exit (h : H.Allots k op t x) : x ≠ H.graph.exit := by
  have htwo := h.two_le
  rw [graph, (sound (Nat.le_refl _)).graph.exit_eq]
  exact Nat.ne_of_gt htwo

/-- The entry is allotted by no instruction. -/
theorem Allots.ne_entry (h : H.Allots k op t x) : x ≠ H.graph.entry := by
  have htwo := h.two_le
  rw [graph, (sound (Nat.le_refl _)).graph.entry_eq]
  exact Nat.ne_of_gt (Nat.lt_of_succ_lt htwo)

/-- Code that goes on behind a scope goes on in a block that the scope's own instructions
allocate. -/
theorem Lands.eq_of_allots {kind : ScopeKind} (h : H.Lands j o x) (hj : j < H.length)
    (ho : o ∈ C.program.openAt j) (hx : H.Allots k kind.opening t x) :
    o = ⟨k, kind⟩ ∧ t = kind.landing := by
  rcases h.allots hj ho with hallots | ⟨-, e, -, hallots⟩
  · obtain ⟨position, kind'⟩ := o
    obtain ⟨rfl, hop, rfl⟩ := hx.unique hallots
    cases ScopeKind.opening_injective hop
    exact ⟨rfl, rfl⟩
  · obtain ⟨-, hop, -⟩ := hx.unique hallots
    cases kind <;> cases hop

/-- The edges to a block that opens a scope come from the instruction that opens it, from where code
goes on behind the scope, from where a loop goes on, and from a switch without a default. -/
theorem Link.to_opening {kind : ScopeKind} (h : H.Link u x) (hx : H.Allots k kind.opening t x) :
    (t ∈ kind.opening.entered ∧ u = H.current k) ∨
    (t = kind.landing ∧ ∃ j < H.length, u = H.current j ∧
      (C.program.Marks ⟨k, kind⟩ .endIf j ∨ C.program.Marks ⟨k, kind⟩ .endSwitch j ∨
        C.program.Leaves .breakOut j ∧ C.program.breakScope? j = some ⟨k, kind⟩)) ∨
    (kind = .loop ∧ t = 0 ∧ ∃ j < H.length, u = H.current j ∧
      (C.program.Marks ⟨k, .loop⟩ .endLoop j ∨
        C.program.Leaves .continueLoop j ∧ C.program.loopScope? j = some ⟨k, .loop⟩)) ∨
    kind = .switch ∧ t = 0 ∧ u = H.current k ∧
      ∀ e, ¬ C.program.Marks ⟨k, .switch⟩ .defaultLabel e := by
  cases h with
  | fresh hy ht =>
    obtain ⟨rfl, rfl, rfl⟩ := hx.unique hy
    exact .inl ⟨ht, rfl⟩
  | @land j o _ hj hop hlands =>
    have hscope : C.program.scope? j = some o := hop.elim And.right And.right
    obtain ⟨rfl, rfl⟩ := hlands.eq_of_allots hj (Program.mem_openAt_of_scope? hscope) hx
    exact .inr (.inl ⟨rfl, j, hj, rfl, hop.imp_right .inl⟩)
  | @breakOut j o _ hj hop ho hlands =>
    obtain ⟨rfl, rfl⟩ := hlands.eq_of_allots hj (Program.mem_openAt_of_breakScope? ho) hx
    exact .inr (.inl ⟨rfl, j, hj, rfl, .inr (.inr ⟨hop, ho⟩)⟩)
  | @again _ j _ hj hop hy =>
    obtain ⟨rfl, hopening, rfl⟩ := hx.unique hy
    cases kind with
    | loop => exact .inr (.inr (.inl ⟨rfl, rfl, j, hj, rfl, hop⟩))
    | branch | switch => cases hopening
  | ret => exact absurd rfl hx.ne_exit
  | label hop hmark hy =>
    obtain ⟨-, rfl, -⟩ := hx.unique hy
    rcases hop with hop | hop <;> cases kind <;> cases hop
  | discarded _ hy =>
    obtain ⟨-, hop, -⟩ := hx.unique hy
    cases kind <;> cases hop
  | unlisted hno hy =>
    obtain ⟨rfl, hop, rfl⟩ := hx.unique hy
    cases kind with
    | switch => exact .inr (.inr (.inr ⟨rfl, rfl, rfl, hno⟩))
    | branch | loop => cases hop

/-- To the block behind a loop lead the jumps that break out of the loop, and nothing else. -/
theorem link_endLoop_iff (hx : H.Allots k .beginLoop 1 x) :
    H.Link u x ↔
      ∃ j, C.Ends [.breakOut, .breakIf] j u ∧ C.program.breakScope? j = some ⟨k, .loop⟩ := by
  have hx' : H.Allots k ScopeKind.loop.opening 1 x := hx
  constructor
  · intro h
    rcases h.to_opening hx' with ⟨ht, -⟩ | ⟨-, j, hj, rfl, hop⟩ | ⟨-, ht, -⟩ | ⟨hkind, -⟩
    · simp [ScopeKind.opening, FlowOp.entered] at ht
    · rcases hop with hmark | hmark | ⟨hop, ho⟩
      · cases kind_of_marks hj hmark rfl
      · cases kind_of_marks hj hmark rfl
      · exact ⟨j, H.ends_two_iff.2 ⟨hop, hj, rfl⟩, ho⟩
    · cases ht
    · cases hkind
  · rintro ⟨j, hends, ho⟩
    obtain ⟨hop, hj, rfl⟩ := H.ends_two_iff.1 hends
    have hmem := Program.mem_openAt_of_breakScope? ho
    have hkind : ScopeKind.loop ≠ .branch := by decide
    exact .breakOut hj hop ho ((lands_iff_of_ne (Nat.le_of_lt hj) hmem hkind).2 hx.eq)

/-- To the entrance of a loop lead the start of the loop, the jumps that continue it and its end. -/
theorem link_loopEntrance_iff (hx : H.Allots k .beginLoop 0 x) :
    H.Link u x ↔ C.Ends [.beginLoop] k u ∨
      (∃ j, C.Ends [.continueLoop, .continueIf] j u ∧ C.program.loopScope? j = some ⟨k, .loop⟩) ∨
      ∃ j, C.Ends [.endLoop] j u ∧ C.program.scope? j = some ⟨k, .loop⟩ := by
  have hx' : H.Allots k ScopeKind.loop.opening 0 x := hx
  have hk := Nat.lt_of_succ_lt hx.succ_lt
  constructor
  · intro h
    rcases h.to_opening hx' with ⟨-, rfl⟩ | ⟨ht, -⟩ | ⟨-, -, j, hj, rfl, hop⟩ | ⟨hkind, -⟩
    · exact .inl (H.ends_one_iff.2 ⟨hx.flowAt, hk, rfl⟩)
    · cases ht
    · rcases hop with hmark | ⟨hop, ho⟩
      · exact .inr (.inr ⟨j, H.ends_one_iff.2 ⟨hmark.1, hj, rfl⟩, hmark.2⟩)
      · exact .inr (.inl ⟨j, H.ends_two_iff.2 ⟨hop, hj, rfl⟩, ho⟩)
    · cases hkind
  · rintro (hends | ⟨j, hends, ho⟩ | ⟨j, hends, hscope⟩)
    · obtain ⟨-, -, rfl⟩ := H.ends_one_iff.1 hends
      exact .fresh hx List.mem_cons_self
    · obtain ⟨hop, hj, rfl⟩ := H.ends_two_iff.1 hends
      exact .again hj (.inr ⟨hop, ho⟩) hx
    · obtain ⟨hop, hj, rfl⟩ := H.ends_one_iff.1 hends
      exact .again hj (.inl ⟨hop, hscope⟩) hx

/-! ## Switches -/

/-- To the block behind a switch lead the jumps that break out of it and its end. The dispatching
block does so if there is no default. -/
theorem link_endSwitch_iff (hx : H.Allots k .beginSwitch 0 x) :
    H.Link u x ↔
      (∃ j, C.Ends [.breakOut, .breakIf] j u ∧ C.program.breakScope? j = some ⟨k, .switch⟩) ∨
      (∃ j, C.Ends [.endSwitch] j u ∧ C.program.scope? j = some ⟨k, .switch⟩) ∨
      C.Ends [.beginSwitch] k u ∧ ¬ ∃ j, C.program.Marks ⟨k, .switch⟩ .defaultLabel j := by
  have hx' : H.Allots k ScopeKind.switch.opening 0 x := hx
  have hk := Nat.lt_of_succ_lt hx.succ_lt
  constructor
  · intro h
    rcases h.to_opening hx' with ⟨ht, -⟩ | ⟨-, j, hj, rfl, hop⟩ | ⟨hkind, -⟩ | ⟨-, -, rfl, hno⟩
    · cases ht
    · rcases hop with hmark | hmark | ⟨hop, ho⟩
      · cases kind_of_marks hj hmark rfl
      · exact .inr (.inl ⟨j, H.ends_one_iff.2 ⟨hmark.1, hj, rfl⟩, hmark.2⟩)
      · exact .inl ⟨j, H.ends_two_iff.2 ⟨hop, hj, rfl⟩, ho⟩
    · cases hkind
    · exact .inr (.inr ⟨H.ends_one_iff.2 ⟨hx.flowAt, hk, rfl⟩, fun ⟨j, hmark⟩ => hno j hmark⟩)
  · rintro (⟨j, hends, ho⟩ | ⟨j, hends, hscope⟩ | ⟨hends, hno⟩)
    · obtain ⟨hop, hj, rfl⟩ := H.ends_two_iff.1 hends
      have hmem := Program.mem_openAt_of_breakScope? ho
      exact .breakOut hj hop ho ((lands_iff_of_ne (Nat.le_of_lt hj) hmem nofun).2 hx.eq)
    · obtain ⟨hop, hj, rfl⟩ := H.ends_one_iff.1 hends
      have hmem := Program.mem_openAt_of_scope? hscope
      refine .land hj (.inr ⟨hop, hscope⟩) ?_
      exact (lands_iff_of_ne (Nat.le_of_lt hj) hmem nofun).2 hx.eq
    · obtain ⟨-, -, rfl⟩ := H.ends_one_iff.1 hends
      exact .unlisted (fun e hmark => hno ⟨e, hmark⟩) hx

/-- To the block of a label lead the dispatching block and the code before the label. -/
theorem link_label_iff (hop : op = .caseLabel ∨ op = .defaultLabel) (hx : H.Allots j op 0 x)
    (hmark : C.program.Marks ⟨k, .switch⟩ op j) :
    H.Link u x ↔ u = H.current k ∨ u = H.current j := by
  have hne : ∀ kind : ScopeKind, op ≠ kind.opening := by
    rintro kind rfl
    rcases hop with hop | hop <;> cases kind <;> cases hop
  have hlands {e : Nat} {o : Opening} (he : e < H.length) (ho : o ∈ C.program.openAt e) :
      ¬ H.Lands e o x := by
    intro h
    rcases h.allots he ho with hy | ⟨-, e', -, hy⟩
    · exact hne _ (hx.unique hy).2.1
    · obtain ⟨-, rfl, -⟩ := hx.unique hy
      rcases hop with hop | hop <;> cases hop
  constructor
  · intro h
    cases h with
    | fresh hy ht =>
      obtain ⟨rfl, -⟩ := hx.unique hy
      exact .inr rfl
    | label _ hmark' hy =>
      obtain ⟨rfl, rfl, -⟩ := hx.unique hy
      cases hmark.2.symm.trans hmark'.2
      exact .inl rfl
    | land he hop' hl =>
      have hscope := hop'.elim And.right And.right
      exact absurd hl (hlands he (Program.mem_openAt_of_scope? hscope))
    | breakOut he _ ho hl => exact absurd hl (hlands he (Program.mem_openAt_of_breakScope? ho))
    | ret => exact absurd rfl hx.ne_exit
    | discarded _ hy | again _ _ hy | unlisted _ hy =>
      obtain ⟨-, rfl, -⟩ := hx.unique hy
      rcases hop with hop | hop <;> cases hop
  · rintro (rfl | rfl)
    · exact .label hop hmark hx
    · refine .fresh hx ?_
      rcases hop with rfl | rfl <;> exact List.mem_cons_self

/-! ## Other blocks -/

/-- Returns lead to the exit. All other edges lead to new blocks that the instruction enters, or
behind a scope. -/
theorem Link.target (h : H.Link u x) :
    (x = H.graph.exit ∧ ∃ k < H.length, C.program.Leaves .ret k ∧ u = H.current k) ∨
      ∃ k op t, H.Allots k op t x ∧
        (t ∈ op.entered ∨ ∃ kind : ScopeKind, op = kind.opening ∧ t = kind.landing) := by
  have hlands {k : Nat} {o : Opening} (hk : k < H.length) (ho : o ∈ C.program.openAt k)
      (hl : H.Lands k o x) : ∃ k op t, H.Allots k op t x ∧
        (t ∈ op.entered ∨ ∃ kind : ScopeKind, op = kind.opening ∧ t = kind.landing) := by
    rcases hl.allots hk ho with hx | ⟨-, e, -, hx⟩
    · exact ⟨_, _, _, hx, .inr ⟨o.kind, rfl, rfl⟩⟩
    · exact ⟨_, _, _, hx, .inl List.mem_cons_self⟩
  cases h with
  | fresh hx ht => exact .inr ⟨_, _, _, hx, .inl ht⟩
  | discarded _ hx => exact .inr ⟨_, _, _, hx, .inl (List.mem_cons_of_mem _ List.mem_cons_self)⟩
  | land hk hop hx =>
    have hscope := hop.elim And.right And.right
    exact .inr (hlands hk (Program.mem_openAt_of_scope? hscope) hx)
  | breakOut hk _ ho hx => exact .inr (hlands hk (Program.mem_openAt_of_breakScope? ho) hx)
  | again _ _ hx => exact .inr ⟨_, _, _, hx, .inl List.mem_cons_self⟩
  | @ret k hk hop => exact .inl ⟨rfl, k, hk, hop, rfl⟩
  | label hop _ hx =>
    refine .inr ⟨_, _, _, hx, .inl ?_⟩
    rcases hop with rfl | rfl <;> exact List.mem_cons_self
  | unlisted _ hx => exact .inr ⟨_, _, _, hx, .inr ⟨.switch, rfl, rfl⟩⟩

/-- To the exit lead the returns, and nothing else. -/
theorem link_exit_iff : H.Link u H.graph.exit ↔ ∃ j, C.Ends [.ret, .retIf] j u := by
  constructor
  · intro h
    rcases h.target with ⟨-, j, hj, hop, rfl⟩ | ⟨_, _, _, hx, -⟩
    · exact ⟨j, H.ends_two_iff.2 ⟨hop, hj, rfl⟩⟩
    · exact absurd rfl hx.ne_exit
  · rintro ⟨j, hends⟩
    obtain ⟨hop, hj, rfl⟩ := H.ends_two_iff.1 hends
    exact .ret hj hop

/-- Nothing leads to the entry. -/
theorem not_link_entry : ¬ H.Link u H.graph.entry := by
  intro h
  rcases h.target with ⟨heq, -⟩ | ⟨_, _, _, hx, -⟩
  · have hsound := (sound (H := H) (Nat.le_refl _)).graph
    rw [graph, hsound.entry_eq, hsound.exit_eq] at heq
    cases heq
  · exact hx.ne_entry rfl

/-- Nothing leads to a block that its instruction does not enter and that is not behind a scope. -/
theorem not_link (hx : H.Allots k op t x) (ht : t ∉ op.entered)
    (hkind : ∀ kind : ScopeKind, op = kind.opening → t ≠ kind.landing) : ¬ H.Link u x := by
  intro h
  rcases h.target with ⟨heq, -⟩ | ⟨_, _, _, hy, htarget⟩
  · exact hx.ne_exit heq
  · obtain ⟨-, rfl, rfl⟩ := hx.unique hy
    rcases htarget with hmem | ⟨kind, hop, hland⟩
    · exact ht hmem
    · exact hkind kind hop hland

/-- Blocks of the finished graph were allocated under their names. -/
theorem exists_allocates (hentry : x ≠ H.graph.entry) (hexit : x ≠ H.graph.exit)
    (hname : H.graph.nameAt x = some name) : ∃ k, C.Allocates k name x := by
  have hsound := (sound (H := H) (Nat.le_refl _)).graph
  rw [graph, hsound.entry_eq] at hentry
  rw [graph, hsound.exit_eq] at hexit
  have htwo : 2 ≤ x := Nat.lt_of_le_of_ne (Nat.one_le_iff_ne_zero.2 hentry) (Ne.symm hexit)
  obtain ⟨k, op, t, hx⟩ := exists_allots (Nat.le_refl _) (Graph.lt_size_of_nameAt hname) htwo
  refine ⟨k, H.allocates_iff.2 ⟨op, t, hx, ?_⟩⟩
  have hnew := hx.nameAt
  rw [List.getElem?_eq_getElem hx.lt] at hnew ⊢
  have hlast := nameAt_of_le (Nat.le_of_lt hx.succ_lt) (Nat.le_refl _) hnew
  exact hlast.symm.trans hname

/-- The entry and the exit have names that no instruction gives. -/
theorem nameAt_entry_exit :
    H.graph.nameAt H.graph.entry = some "entrybb" ∧
      H.graph.nameAt H.graph.exit = some "returnbb" := by
  have hsound := (sound (H := H) (Nat.le_refl _)).graph
  rw [graph, hsound.entry_eq, hsound.exit_eq]
  constructor
  · exact nameAt_of_le (Nat.zero_le _) (Nat.le_refl _) (by rw [builder_zero]; rfl)
  · exact nameAt_of_le (Nat.zero_le _) (Nat.le_refl _) (by rw [builder_zero]; rfl)

/-- Code behind a jump that is taken in any case, and code of a switch before its first label,
begins in a block that nothing leads to. -/
theorem not_link_of_nameAt (hx : H.graph.nameAt x = some name)
    (hname : name ∈ ["after_break", "after_continue", "after_ret", "switch_empty"]) :
    ¬ H.Link u x := by
  obtain ⟨hentry, hexit⟩ := H.nameAt_entry_exit
  have hne {b : BlockId} {other : String} (hb : H.graph.nameAt b = some other)
      (hother : other ∉ ["after_break", "after_continue", "after_ret", "switch_empty"]) :
      x ≠ b := by
    rintro rfl
    cases hx.symm.trans hb
    exact hother hname
  obtain ⟨k, hk⟩ := H.exists_allocates (hne hentry (by decide)) (hne hexit (by decide)) hx
  have hleave (way : Leave) (hy : H.Allots k way.op 0 x) : ¬ H.Link u x := by
    refine not_link hy (by cases way <;> exact List.not_mem_nil) fun kind hop => ?_
    cases way <;> cases kind <;> cases hop
  simp only [List.mem_cons, List.not_mem_nil, or_false] at hname
  rcases hname with rfl | rfl | rfl | rfl
  · exact hleave .breakOut (allots_of_allocates hk rfl)
  · exact hleave .continueLoop (allots_of_allocates hk rfl)
  · exact hleave .ret (allots_of_allocates hk rfl)
  · refine not_link (allots_of_allocates hk rfl) List.not_mem_nil fun kind hop => ?_
    cases kind with
    | switch => nofun
    | branch | loop => cases hop

/-- The ways to a label. -/
theorem exists_label (hop : op = .caseLabel ∨ op = .defaultLabel) (hx : H.Allots j op 0 x) :
    ∃ k, C.program.scope? j = some ⟨k, .switch⟩ ∧ ∀ u, H.Link u x ↔
      C.Ends [.beginSwitch] k u ∨ C.Ends [.caseLabel, .defaultLabel] j u := by
  have hj := Nat.lt_of_succ_lt hx.succ_lt
  have hkind : op.scopeKind? = some .switch := by
    rcases hop with rfl | rfl <;> rfl
  obtain ⟨k, hmark⟩ := exists_marks hj hx.flowAt hkind
  obtain ⟨hlt, hopening⟩ := Program.lt_of_mem_openAt (Program.mem_openAt_of_scope? hmark.2)
  have hlabel : C.program.flowAt? j = some .caseLabel ∨
      C.program.flowAt? j = some .defaultLabel := by
    rcases hop with rfl | rfl
    · exact .inl hx.flowAt
    · exact .inr hx.flowAt
  refine ⟨k, hmark.2, fun u => ?_⟩
  rw [link_label_iff hop hx hmark, H.ends_one_iff, H.ends_two_iff]
  exact or_congr ⟨fun hu => ⟨hopening, Nat.lt_trans hlt hj, hu⟩, fun hu => hu.2.2⟩
    ⟨fun hu => ⟨hlabel, hj, hu⟩, fun hu => hu.2.2⟩

end History

/-- **The incoming edges of a finished graph.** Whatever the lowering does, in the graph of a
program that compiles the special blocks have the incoming edges that their constructs define, and
no others. -/
theorem inlets_of_result {c : CompiledShader L} {final : σ} (h : C.result = .ok (c, final)) :
    C.Inlets c.graph := by
  obtain ⟨H, hg⟩ := exists_history h
  rw [hg]
  have hlink {u x : BlockId} : u ∈ H.graph.predecessors x ↔ H.Link u x :=
    (Graph.mem_predecessors_iff H.fits).trans History.link_iff
  have hnone {x : BlockId} (hx : ∀ u, ¬ H.Link u x) : H.graph.predecessors x = [] :=
    List.eq_nil_iff_forall_not_mem.2 fun u hu => hx u (hlink.1 hu)
  exact {
    blocks := H.exists_allocates_of_mem
    allocated := History.exists_allocates
    endLoop := fun hx u =>
      hlink.trans (History.link_endLoop_iff (History.allots_of_allocates hx rfl))
    loopEntrance := fun hx u =>
      hlink.trans (History.link_loopEntrance_iff (History.allots_of_allocates hx rfl))
    endSwitch := fun hx u =>
      hlink.trans (History.link_endSwitch_iff (History.allots_of_allocates hx rfl))
    label := by
      rintro j x (hx | hx)
      · obtain ⟨k, hscope, hinlets⟩ :=
          History.exists_label (.inl rfl) (H.allots_of_allocates hx rfl)
        exact ⟨k, hscope, fun u => hlink.trans (hinlets u)⟩
      · obtain ⟨k, hscope, hinlets⟩ :=
          History.exists_label (.inr rfl) (H.allots_of_allocates hx rfl)
        exact ⟨k, hscope, fun u => hlink.trans (hinlets u)⟩
    exit := fun u => hlink.trans History.link_exit_iff
    entry := hnone fun u => History.not_link_entry
    unreachable := fun hx hname => hnone fun u => History.not_link_of_nameAt hx hname }

/-- The compilation of the loop program. -/
def ofLoopProgram : Compilation Unit Instruction where
  program := loopProgram
  signatures := ⟨[], []⟩
  lower := .passthrough
  initial := ()
  options := {}

/-- The loop program compiles, and the incoming edges of its graph are as described. -/
theorem inlets_ofLoopProgram :
    ∃ c, ofLoopProgram.result = .ok (c, ()) ∧ ofLoopProgram.Inlets c.graph := by
  obtain ⟨c, hc⟩ : ∃ c, ofLoopProgram.result = .ok (c, ()) := ⟨_, rfl⟩
  exact ⟨c, hc, inlets_of_result hc⟩

end Compilation

end ShaderFlow
