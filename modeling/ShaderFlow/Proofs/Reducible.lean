import ShaderFlow.Proofs.Inlets
import ShaderFlow.Proofs.Reachability

/-!
# Finished graphs are reducible

A program is structured, and so is its graph: control comes back to a block only through the
entrance of a loop, and into a loop only through its entrance (`Compilation.Reducible`).

For the first part, blocks are dated by the segment in which they are filled
(`Compilation.History.Date`): edges lead to later blocks unless they lead to an entrance. For the
second part, the blocks that are allocated while a loop is open are closed under going back along
edges, down to its entrance (`Compilation.History.Link.inside`).
-/

namespace ShaderFlow

namespace Compilation

variable {σ L : Type} {C : Compilation σ L}

/-- The entrances of loops are the only blocks to which control comes back, and the only ways into
their loops. -/
structure Reducible (C : Compilation σ L) (g : Graph L) : Prop where
  /-- Every loop that the compilation comes to has an entrance. -/
  loops : ∀ {k}, C.program.flowAt? k = some .beginLoop → C.blockAt? k ≠ none →
    ∃ x, C.Allocates k "loop_entrance" x
  /-- Every cycle goes through the entrance of a loop. -/
  cycle : ∀ {u v path}, g.Path v u path → v ∈ g.successors u →
    ∃ x ∈ path, ∃ k, C.program.flowAt? k = some .beginLoop ∧ C.Allocates k "loop_entrance" x
  /-- Without loops there are no cycles. -/
  acyclic : (∀ k, C.program.flowAt? k ≠ some .beginLoop) →
    ∀ {u v path}, g.Path v u path → v ∉ g.successors u
  /-- Whatever leads back to the entrance of a loop can be reached through the entrance only. -/
  entrance : ∀ {k x}, C.Allocates k "loop_entrance" x →
    ∀ {u path}, x ∈ g.successors u → C.blockAt? k ≠ some u → g.Path g.entry u path → x ∈ path

namespace History

variable {H : C.History} {j k t : Nat} {op : FlowOp} {o : Opening} {u v w x : BlockId} {d d' : Nat}

/-! ## Dates -/

/-- When a block is filled: in a segment of the program, or with the `discard` at its end. -/
inductive Date (H : C.History) : BlockId → Nat → Prop where
  | current {k : Nat} (hk : k < H.length) : Date H (H.current k) (2 * C.program.segment k)
  | discarded {k : Nat} {x : BlockId} (hx : H.Allots k .discard 0 x) :
      Date H x (2 * C.program.segment k + 1)

/-- The block that discards is closed at once, so no other code goes there. -/
theorem Allots.ne_current (hx : H.Allots k .discard 0 x) (hj : j < H.length) : H.current j ≠ x := by
  rcases Nat.lt_or_ge k j with hkj | hjk
  · have hedge : H.size k + 1 ∈ (H.builder j).graph.successors x := by
      rw [mem_successors_builder_iff (Nat.le_of_lt hj), hx.eq]
      exact ⟨k, hkj, _, hx.flowAt, .discarded rfl⟩
    obtain ⟨t, ht, -⟩ := Graph.mem_successors_iff_terminatorAt.1 hedge
    have hopen := (sound (Nat.le_of_lt hj)).isOpen_current (H.running hj)
    exact (hopen.ne_of_terminatorAt ht).symm
  · exact current_ne_of_size_le (Nat.lt_of_succ_lt hx.succ_lt) hx.bounds.1 hjk

/-- The current block has one date, that of the segment. -/
theorem date_current (hk : k < H.length) (h : H.Date (H.current k) d) :
    d = 2 * C.program.segment k := by
  generalize hx : H.current k = x at h
  cases h with
  | current hj => rw [(current_eq_iff hk hj).1 hx]
  | discarded hallots => exact absurd hx (hallots.ne_current hk)

/-- The block that discards has one date, right behind that of the segment it ends. -/
theorem date_discarded (hx : H.Allots k .discard 0 x) (h : H.Date x d) :
    d = 2 * C.program.segment k + 1 := by
  cases h with
  | current hj => exact absurd rfl (hx.ne_current hj)
  | discarded hy =>
    obtain ⟨rfl, -⟩ := hx.unique hy
    rfl

/-- A block is filled behind the control flow at a position if it is not current up to there. -/
theorem Date.lt_of_unfilled (h : H.Date x d) (hop : C.program.flowAt? k = some op)
    (hnew : ∀ j ≤ k, H.current j ≠ x) (hno : ∀ e, ¬ H.Allots e .discard 0 x) :
    2 * C.program.segment k + 1 < d := by
  cases h with
  | @current m hm =>
    have hkm : k < m := Nat.lt_of_not_le fun hmk => hnew m hmk rfl
    have hlt := C.program.segment_lt hop hkm
    omega
  | discarded hx => exact absurd hx (hno _)

/-- New blocks are filled behind the instruction that allocates them. -/
theorem Date.lt_of_size_le (h : H.Date x d) (hk : k < H.length)
    (hop : C.program.flowAt? k = some op) (hx : H.size k ≤ x) : 2 * C.program.segment k < d := by
  cases h with
  | @current m hm =>
    have hkm : k < m := Nat.lt_of_not_le fun hmk => current_ne_of_size_le hk hx hmk rfl
    have hlt := C.program.segment_lt hop hkm
    omega
  | @discarded e _ hallots =>
    have hke : k ≤ e := by
      refine Nat.le_of_not_lt fun hek => ?_
      have hsize := size_mono hek (Nat.le_of_lt hk)
      exact Nat.not_le_of_lt hallots.bounds.2 (Nat.le_trans hsize hx)
    have hle := C.program.segment_mono hke
    omega

/-- Blocks that edges come from have a date. -/
theorem Link.exists_date (h : H.Link u x) : ∃ d, H.Date u d := by
  cases h with
  | fresh hx => exact ⟨_, .current (Nat.lt_of_succ_lt hx.succ_lt)⟩
  | discarded hu => exact ⟨_, .discarded hu⟩
  | land hk | again hk | breakOut hk | ret hk => exact ⟨_, .current hk⟩
  | label _ hmark hx =>
    have hlt := (Program.lt_of_mem_openAt (Program.mem_openAt_of_scope? hmark.2)).1
    exact ⟨_, .current (Nat.lt_trans hlt (Nat.lt_of_succ_lt hx.succ_lt))⟩
  | unlisted _ hx => exact ⟨_, .current (Nat.lt_of_succ_lt hx.succ_lt)⟩

/-- The exit is filled at no time. -/
theorem not_date_exit : ¬ H.Date H.graph.exit d := by
  intro h
  generalize hx : H.graph.exit = x at h
  cases h with
  | @current k hk =>
    have hsound := sound (Nat.le_of_lt hk)
    refine hsound.graph.ne_exit (hsound.isOpen_current (H.running hk)) ?_
    rw [exit_builder (Nat.le_of_lt hk), hx]
    rfl
  | discarded hallots => exact hallots.ne_exit hx.symm

/-- Code goes on behind a scope in a block that does not discard. -/
theorem Lands.not_discarded (h : H.Lands k o x) (hk : k < H.length) (ho : o ∈ C.program.openAt k)
    (e : Nat) : ¬ H.Allots e .discard 0 x := by
  intro hx
  rcases h.allots hk ho with hy | ⟨-, e', -, hy⟩
  · obtain ⟨-, hop, -⟩ := hx.unique hy
    cases hkind : o.kind <;> rw [hkind] at hop <;> cases hop
  · obtain ⟨-, hop, -⟩ := hx.unique hy
    cases hop

/-- Edges lead to later blocks unless they lead to the entrance of a loop. -/
theorem Link.date_lt (h : H.Link u x) (hu : H.Date u d) (hx : H.Date x d')
    (hno : ∀ k, ¬ H.Allots k .beginLoop 0 x) : d < d' := by
  have hbehind {k : Nat} {o : Opening} {op : FlowOp} (hk : k < H.length)
      (hop : C.program.flowAt? k = some op) (ho : o ∈ C.program.openAt k) (hl : H.Lands k o x) :
      2 * C.program.segment k < d' :=
    Nat.lt_of_succ_lt
      (hx.lt_of_unfilled hop (fun j hj => hl.unfilled hk hj) (hl.not_discarded hk ho))
  cases h with
  | fresh hy _ =>
    have hk := Nat.lt_of_succ_lt hy.succ_lt
    rw [date_current hk hu]
    exact hx.lt_of_size_le hk hy.flowAt hy.bounds.1
  | discarded hv hy =>
    rw [date_discarded hv hu]
    refine hx.lt_of_unfilled hy.flowAt (fun j hj => ?_) fun e he => ?_
    · exact current_ne_of_size_le (Nat.lt_of_succ_lt hy.succ_lt) hy.bounds.1 hj
    · obtain ⟨-, -, ht⟩ := he.unique hy
      cases ht
  | land hk hop hl =>
    rw [date_current hk hu]
    rcases hop with hmark | hmark
    · exact hbehind hk hmark.1 (Program.mem_openAt_of_scope? hmark.2) hl
    · exact hbehind hk hmark.1 (Program.mem_openAt_of_scope? hmark.2) hl
  | breakOut hk hop ho hl =>
    rw [date_current hk hu]
    rcases hop with hop | hop
    · exact hbehind hk hop (Program.mem_openAt_of_breakScope? ho) hl
    · exact hbehind hk hop (Program.mem_openAt_of_breakScope? ho) hl
  | again _ _ hy => exact absurd hy (hno _)
  | ret => exact absurd hx not_date_exit
  | label _ hmark hy =>
    obtain ⟨hlt, hop⟩ := Program.lt_of_mem_openAt (Program.mem_openAt_of_scope? hmark.2)
    have he := Nat.lt_of_succ_lt hy.succ_lt
    have hk := Nat.lt_trans hlt he
    have hsize := size_mono (Nat.le_of_lt hlt) (Nat.le_of_lt he)
    rw [date_current hk hu]
    exact hx.lt_of_size_le hk hop (Nat.le_trans hsize hy.bounds.1)
  | unlisted _ hy =>
    have hk := Nat.lt_of_succ_lt hy.succ_lt
    rw [date_current hk hu]
    exact hx.lt_of_size_le hk hy.flowAt hy.bounds.1

/-- A block that a path and then an edge lead away from is filled at some time. -/
theorem exists_date_of_path {path : List BlockId} (h : H.graph.Path v u path) (he : H.Link u w) :
    ∃ d, H.Date v d := by
  cases h with
  | refl => exact he.exists_date
  | step hedge _ => exact (link_iff.1 hedge).exists_date

/-- On a way without entrances of loops, dates grow. -/
theorem date_lt_of_path {path : List BlockId} (h : H.graph.Path v u path) (he : H.Link u w)
    (hno : ∀ x ∈ w :: path, ∀ k, ¬ H.Allots k .beginLoop 0 x) (hv : H.Date v d) (hw : H.Date w d') :
    d < d' := by
  induction h generalizing d with
  | refl => exact he.date_lt hv hw (hno w List.mem_cons_self)
  | @step v v₁ u path hedge h ih =>
    obtain ⟨d₁, hd₁⟩ := exists_date_of_path h he
    have hfirst : d < d₁ :=
      (link_iff.1 hedge).date_lt hv hd₁
        (hno v₁ (List.mem_cons_of_mem _ (List.mem_cons_of_mem _ h.head_mem)))
    refine Nat.lt_trans hfirst (ih he (fun x hx => hno x ?_) hd₁)
    rcases List.mem_cons.1 hx with rfl | hx
    · exact List.mem_cons_self
    · exact List.mem_cons_of_mem _ (List.mem_cons_of_mem _ hx)

/-- A cycle goes through the entrance of a loop: otherwise its first block would be later than
itself. -/
theorem exists_entrance {path : List BlockId} (h : H.graph.Path v u path) (he : H.Link u v) :
    ∃ x ∈ path, ∃ k, H.Allots k .beginLoop 0 x := by
  refine Classical.byContradiction fun hnone => ?_
  have hno : ∀ x ∈ path, ∀ k, ¬ H.Allots k .beginLoop 0 x :=
    fun x hx k hallots => hnone ⟨x, hx, k, hallots⟩
  obtain ⟨d, hd⟩ := exists_date_of_path h he
  exact Nat.lt_irrefl d
    (date_lt_of_path h he (List.forall_mem_cons.2 ⟨hno v h.head_mem, hno⟩) hd hd)

/-! ## Loops -/

/-- The block is allocated while the loop that begins at a position is open. -/
def Within (H : C.History) (j : Nat) (x : BlockId) : Prop :=
  ∃ k op t, H.Allots k op t x ∧ ⟨j, .loop⟩ ∈ C.program.openAt k

/-- The block is the entrance of the loop that begins at a position, or is allocated while the loop
is open. -/
def Inside (H : C.History) (j : Nat) (x : BlockId) : Prop :=
  H.Allots j .beginLoop 0 x ∨ H.Within j x

/-- What is open at an instruction that stands directly in a scope of another kind is open around
that scope. -/
theorem mem_openAt_position {kind : ScopeKind} (hscope : C.program.scope? k = some o)
    (hne : o.kind ≠ kind) (h : ⟨j, kind⟩ ∈ C.program.openAt k) :
    ⟨j, kind⟩ ∈ C.program.openAt o.position := by
  rw [Program.openAt_of_scope? hscope] at h
  rcases List.mem_cons.1 h with rfl | h
  · exact absurd rfl hne
  · exact h

/-- Code that goes on behind a scope stays inside of the loops around the scope. -/
theorem Lands.within_iff (h : H.Lands k o x) (hk : k < H.length) (ho : o ∈ C.program.openAt k) :
    H.Within j x ↔ ⟨j, .loop⟩ ∈ C.program.openAt o.position := by
  rcases h.allots hk ho with hx | ⟨hkind, e, hmark, hx⟩
  · constructor
    · rintro ⟨k', op, t, hy, hj⟩
      obtain ⟨rfl, -⟩ := hx.unique hy
      exact hj
    · exact fun hj => ⟨_, _, _, hx, hj⟩
  · have hne : o.kind ≠ .loop := by
      rw [hkind]
      nofun
    constructor
    · rintro ⟨k', op, t, hy, hj⟩
      obtain ⟨rfl, -⟩ := hx.unique hy
      exact mem_openAt_position hmark.2 hne hj
    · intro hj
      refine ⟨_, _, _, hx, ?_⟩
      rw [Program.openAt_of_scope? hmark.2]
      exact List.mem_cons_of_mem _ hj

/-- A loop that is open behind an instruction that divides or closes a scope was open around the
scope. -/
theorem mem_openAt_of_succ (hmark : C.program.Marks o op k) (hkind : op.scopeKind? = some o.kind)
    (h : ⟨j, .loop⟩ ∈ C.program.openAt (k + 1)) : ⟨j, .loop⟩ ∈ C.program.openAt o.position := by
  cases op with
  | endIf | endLoop | endSwitch =>
    have hopen : C.program.openAt (k + 1) = (C.program.openAt k).tail := by
      rw [Program.openAt, hmark.1]
    rw [hopen, Program.openAt_of_scope? hmark.2] at h
    exact h
  | elseArm | caseLabel | defaultLabel =>
    rw [Program.openAt_succ_of_not_mem hmark.1 (by decide)] at h
    refine mem_openAt_position hmark.2 ?_ h
    rw [← Option.some.inj hkind]
    decide
  | _ => cases hkind

/-- What is filled while a loop is open is inside of it. -/
theorem inside_current (hk : k < H.length) (ho : ⟨j, .loop⟩ ∈ C.program.openAt k) :
    H.Inside j (H.current k) := by
  induction k with
  | zero => cases ho
  | succ k ih =>
    have hk' := Nat.lt_of_succ_lt hk
    cases hop : C.program.flowAt? k with
    | none =>
      rw [Program.openAt_succ_of_none hop] at ho
      rw [current, (quiet hk' hop).current]
      exact ih hk' ho
    | some op =>
      rcases current_succ_cases hk hop with hx | ⟨o, hmark, hkind, hl⟩
      · rcases C.program.openAt_succ_cases k with ⟨kind, hopening, heq⟩ | ⟨kind, -, heq⟩ | heq
        · rw [heq] at ho
          rcases List.mem_cons.1 ho with hnew | ho
          · cases hnew
            cases hop.symm.trans hopening
            exact .inl hx
          · exact .inr ⟨k, op, _, hx, ho⟩
        · rw [heq] at ho
          exact .inr ⟨k, op, _, hx, List.mem_of_mem_tail ho⟩
        · rw [heq] at ho
          exact .inr ⟨k, op, _, hx, ho⟩
      · right
        rw [hl.within_iff hk' (Program.mem_openAt_of_scope? hmark.2)]
        exact mem_openAt_of_succ hmark hkind ho

/-- Edges lead into a loop from inside of it, or to its entrance. -/
theorem Link.inside (h : H.Link u x) (hx : H.Within j x) : H.Inside j u := by
  have hbehind {k : Nat} {o : Opening} (hk : k < H.length) (ho : o ∈ C.program.openAt k)
      (hl : H.Lands k o x) : H.Inside j (H.current k) :=
    inside_current hk (Program.openAt_position_subset ho ((hl.within_iff hk ho).1 hx))
  cases h with
  | land hk hop hl =>
    have hscope := hop.elim And.right And.right
    exact hbehind hk (Program.mem_openAt_of_scope? hscope) hl
  | breakOut hk _ ho hl => exact hbehind hk (Program.mem_openAt_of_breakScope? ho) hl
  | fresh hy _ =>
    obtain ⟨k, op, t, hx, hj⟩ := hx
    obtain ⟨rfl, -⟩ := hx.unique hy
    exact inside_current (Nat.lt_of_succ_lt hx.succ_lt) hj
  | unlisted _ hy =>
    obtain ⟨k, op, t, hx, hj⟩ := hx
    obtain ⟨rfl, -⟩ := hx.unique hy
    exact inside_current (Nat.lt_of_succ_lt hx.succ_lt) hj
  | discarded hv hy =>
    obtain ⟨k, op, t, hx, hj⟩ := hx
    obtain ⟨rfl, -⟩ := hx.unique hy
    exact .inr ⟨k, _, _, hv, hj⟩
  | again hk hop hy =>
    obtain ⟨k, op, t, hx, hj⟩ := hx
    obtain ⟨rfl, -⟩ := hx.unique hy
    have ho : ⟨k, .loop⟩ ∈ C.program.openAt _ :=
      hop.elim (fun hmark => Program.mem_openAt_of_scope? hmark.2)
        (fun hleave => Program.mem_openAt_of_loopScope? hleave.2)
    exact inside_current hk (Program.openAt_position_subset ho hj)
  | ret =>
    obtain ⟨k, op, t, hx, -⟩ := hx
    exact absurd rfl hx.ne_exit
  | label _ hmark hy =>
    obtain ⟨e, op, t, hx, hj⟩ := hx
    obtain ⟨rfl, -⟩ := hx.unique hy
    have hlt := (Program.lt_of_mem_openAt (Program.mem_openAt_of_scope? hmark.2)).1
    exact inside_current (Nat.lt_trans hlt (Nat.lt_of_succ_lt hx.succ_lt))
      (mem_openAt_position hmark.2 nofun hj)

/-- Going back from a block inside of a loop without passing the entrance, one stays inside. -/
theorem Inside.of_path {path : List BlockId} (h : H.graph.Path v u path) (hu : H.Inside j u)
    (hx : H.Allots j .beginLoop 0 x) (hno : x ∉ path) : H.Inside j v := by
  induction h with
  | refl => exact hu
  | @step v v₁ u path hedge h ih =>
    have hno' := fun hmem => hno (List.mem_cons_of_mem _ hmem)
    rcases ih hu hno' with hentrance | hwithin
    · have heq : v₁ = x := hentrance.eq.trans hx.eq.symm
      exact absurd (heq ▸ h.head_mem) hno'
    · exact (link_iff.1 hedge).inside hwithin

/-- What leads back to the entrance of a loop is inside of the loop. -/
theorem inside_of_link (h : H.Link u x) (hx : H.Allots k .beginLoop 0 x) (hne : u ≠ H.current k) :
    H.Inside k u := by
  have hx' : H.Allots k ScopeKind.loop.opening 0 x := hx
  rcases h.to_opening hx' with ⟨-, heq⟩ | ⟨ht, -⟩ | ⟨-, -, j, hj, rfl, hop⟩ | ⟨hkind, -⟩
  · exact absurd heq hne
  · cases ht
  · refine inside_current hj ?_
    rcases hop with hmark | ⟨-, ho⟩
    · exact Program.mem_openAt_of_scope? hmark.2
    · exact Program.mem_openAt_of_loopScope? ho
  · cases hkind

/-- The entry is inside of no loop. -/
theorem not_inside_entry : ¬ H.Inside j H.graph.entry := by
  rintro (hx | ⟨k, op, t, hx, -⟩)
  · exact hx.ne_entry rfl
  · exact hx.ne_entry rfl

end History

/-- **Every finished graph is reducible.** Whatever the lowering does, in the graph of a program
that compiles each cycle contains the entrance of a loop, and each way from the entry to a block
that leads back to the entrance of a loop contains this entrance. -/
theorem reducible_of_result {c : CompiledShader L} {final : σ} (h : C.result = .ok (c, final)) :
    C.Reducible c.graph := by
  obtain ⟨H, hg⟩ := exists_history h
  rw [hg]
  have hcycle {u v : BlockId} {path : List BlockId} (hpath : H.graph.Path v u path)
      (hedge : v ∈ H.graph.successors u) : ∃ x ∈ path, ∃ k,
        C.program.flowAt? k = some .beginLoop ∧ C.Allocates k "loop_entrance" x := by
    obtain ⟨x, hmem, k, hx⟩ := History.exists_entrance hpath (History.link_iff.1 hedge)
    exact ⟨x, hmem, k, hx.flowAt, H.allocates_iff.2 ⟨_, _, hx, rfl⟩⟩
  refine ⟨fun {k} hop hcomes => ?_, hcycle, fun hno u v path hpath hedge => ?_,
    fun hx u path hedge hne hpath => ?_⟩
  · obtain ⟨x, hx⟩ := Option.ne_none_iff_exists'.1 hcomes
    obtain ⟨hk, -⟩ := H.blockAt?_eq_some_iff.1 hx
    have hnext : C.blockAt? (k + 1) ≠ none := Option.ne_none_iff_exists'.2
      ⟨_, H.blockAt?_eq_some_iff.2 ⟨History.succ_lt_of_ne_ret hk hop nofun, rfl⟩⟩
    exact H.exists_allocates_of_mem hop hnext List.mem_cons_self
  · obtain ⟨x, -, k, hop, -⟩ := hcycle hpath hedge
    exact hno k hop
  · have hallots := H.allots_of_allocates hx rfl
    refine Classical.byContradiction fun hno => ?_
    have hne' : u ≠ H.current _ := fun heq =>
      hne (H.blockAt?_eq_some_iff.2 ⟨Nat.lt_of_succ_lt hallots.succ_lt, heq⟩)
    have hinside := History.inside_of_link (History.link_iff.1 hedge) hallots hne'
    exact History.not_inside_entry (hinside.of_path hpath hallots hno)

/-- The graph of the loop program is reducible. -/
theorem reducible_ofLoopProgram :
    ∃ c, ofLoopProgram.result = .ok (c, ()) ∧ ofLoopProgram.Reducible c.graph := by
  obtain ⟨c, hc⟩ : ∃ c, ofLoopProgram.result = .ok (c, ()) := ⟨_, rfl⟩
  exact ⟨c, hc, reducible_of_result hc⟩

end Compilation

end ShaderFlow
