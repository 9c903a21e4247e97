import Mathlib.Data.List.Induction
import ShaderFlow.Proofs.Frame
import ShaderFlow.Proofs.Interpreter

/-!
# Searches find what scopes lead to

A search in a stream counts the scopes of one kind that are opened and closed on its way. A builder
that reads the same stream keeps these scopes on its stack, so the search stops where the builder
closes the scope that the search began in, and the builder then begins the block that the scope was
to lead to. `Builder.exists_find` is the common argument, with the kind of scopes, the search and
the block as parameters; `Builder.exists_find_back` is the same argument for the way back to the
beginning of a loop.
-/

namespace ShaderFlow

namespace Search

variable {q : Search} {i : Instruction} {depth : Nat} {passed rest : List Instruction}

/-- Control flow has the role that its opcode has. -/
theorem ofFlow_eq {role : Instruction → FlowOp → Role} {op : FlowOp} (hop : i.opcode = .flow op) :
    ofFlow role i = role i op := by
  rw [ofFlow, hop]

/-- What is no control flow plays no role in a search. -/
theorem ofFlow_of_straight {role : Instruction → FlowOp → Role}
    (hi : i.opcode.isControlFlow = false) : ofFlow role i = .other := by
  unfold ofFlow
  split
  · next hop =>
    rw [hop] at hi
    cases hi
  · rfl

/-- Outside of inner scopes, a search stops at what it looks for and at the end of the scope. -/
theorem find_stop (h : q i = .closes ∨ q i = .accepts) :
    q.find 0 passed (i :: rest) = some (passed, i :: rest) := by
  rcases h with h | h <;> simp [find, h]

/-- A scope that opens is one more to leave. -/
theorem find_open (h : q i = .opens) :
    q.find depth passed (i :: rest) = q.find (depth + 1) (i :: passed) rest := by
  simp [find, h]

/-- A scope that ends is one less to leave. -/
theorem find_close (h : q i = .closes) :
    q.find (depth + 1) passed (i :: rest) = q.find depth (i :: passed) rest := by
  simp [find, h]

/-- What is looked for does not count within an inner scope. -/
theorem find_accept (h : q i = .accepts) :
    q.find (depth + 1) passed (i :: rest) = q.find (depth + 1) (i :: passed) rest := by
  simp [find, h]

/-- All else is passed. -/
theorem find_other (h : q i = .other) :
    q.find depth passed (i :: rest) = q.find depth (i :: passed) rest := by
  simp [find, h]

/-- What an instruction does to the open scopes that a search counts, of which `old` and `new` are
the lists before and behind it. Where the search would stop, the instruction and the builder behind
it are what the scope leads to (`Target`). -/
inductive Effect {V L : Type} (q : Search) (Target : V → Instruction → Builder L → Prop)
    (i : Instruction) (b' : Builder L) (old new : List V) : Prop where
  | opens {v : V} (hq : q i = .opens) (h : new = v :: old)
  | closes {v : V} (hq : q i = .closes) (h : old = v :: new) (ht : Target v i b')
  | accepts {v v' : V} {vs : List V} (hq : q i = .accepts) (hold : old = v :: vs)
      (hnew : new = v' :: vs) (ht : Target v i b')
  /-- The innermost scope changes, but what it leads to stays. -/
  | changes {v v' : V} {vs : List V} (hq : q i = .other) (hold : old = v :: vs)
      (hnew : new = v' :: vs) (ht : ∀ i b', Target v' i b' → Target v i b')
  | passes (hq : q i = .other) (h : new = old)

end Search

namespace Builder

variable {V L : Type} {stage : Stage} {puts : Placement L} {b b' fin : Builder L} {i : Instruction}
  {is : List Instruction}

/-- A search through what is read next stops at an instruction behind which the builder has a given
property. -/
def Finds (stage : Stage) (puts : Placement L) (q : Search) (depth : Nat) (b : Builder L)
    (is : List Instruction) (fin : Builder L) (P : Instruction → Builder L → Prop) : Prop :=
  ∃ pre i rest b', is = pre ++ i :: rest ∧ Reads stage puts b (pre ++ [i]) b' ∧
    Reads stage puts b' rest fin ∧ P i b' ∧
    ∀ passed tail,
      q.find depth passed (is ++ tail) = some (pre.reverse ++ passed, i :: (rest ++ tail))

/-- A search that passes an instruction goes on behind it. -/
theorem Finds.cons {q : Search} {depth depth' : Nat} {P : Instruction → Builder L → Prop}
    (h : Finds stage puts q depth' b' is fin P) (hr : b.returned = false)
    (ht : Takes stage puts b i b')
    (hfind : ∀ passed rest, q.find depth passed (i :: rest) = q.find depth' (i :: passed) rest) :
    Finds stage puts q depth b (i :: is) fin P := by
  obtain ⟨pre, j, rest, b₁, rfl, hpre, hrest, hP, hf⟩ := h
  refine ⟨i :: pre, j, rest, b₁, rfl, .cons hr ht hpre, hrest, hP, fun passed tail => ?_⟩
  rw [List.cons_append, hfind, hf]
  simp

/-- A search that stops at once. -/
theorem Finds.here {q : Search} {P : Instruction → Builder L → Prop} (hr : b.returned = false)
    (ht : Takes stage puts b i b') (h : Reads stage puts b' is fin) (hP : P i b')
    (hstop : q i = .closes ∨ q i = .accepts) :
    Finds stage puts q 0 b (i :: is) fin P :=
  ⟨[], i, is, b', rfl, .cons hr ht .nil, h, hP, fun _ _ => Search.find_stop hstop⟩

/-- A search that finds the builder with one property finds it with a weaker one. -/
theorem Finds.mono {q : Search} {depth : Nat} {P Q : Instruction → Builder L → Prop}
    (h : Finds stage puts q depth b is fin P) (hPQ : ∀ i b', P i b' → Q i b') :
    Finds stage puts q depth b is fin Q := by
  obtain ⟨pre, i, rest, b', heq, hpre, hrest, hP, hf⟩ := h
  exact ⟨pre, i, rest, b', heq, hpre, hrest, hPQ _ _ hP, hf⟩

/-- The search for the end of an open scope finds what the scope leads to. The induction is on what
is read; `n` is the number of scopes of the kind inside of the one in question. -/
theorem exists_find {q : Search} {view : Scope → Option V}
    {Target : V → Instruction → Builder L → Prop}
    (heffect : ∀ {b i b' rest}, b.Sound → b.Vacant → b.returned = false →
      Takes stage puts b i b' → Reads stage puts b' rest fin →
      q.Effect Target i b' (b.scopes.filterMap view) (b'.scopes.filterMap view))
    (h : Reads stage puts b is fin) (hfin : fin.scopes = []) (hb : b.Sound) (hv : b.Vacant)
    {n : Nat} {v : V} (hd : (b.scopes.filterMap view)[n]? = some v) :
    Finds stage puts q n b is fin (Target v) := by
  induction h generalizing n v with
  | nil => simp [hfin] at hd
  | @cons b b₁ fin i is hr ht h ih =>
    have hb₁ := ht.sound hr hb
    have hv₁ := ht.vacant hb hr hv
    cases heffect hb hv hr ht h with
    | opens hq hnew =>
      refine (ih heffect hfin hb₁ hv₁ (n := n + 1) ?_).cons hr ht fun _ _ => Search.find_open hq
      rw [hnew]
      exact hd
    | closes hq hold htarget =>
      rw [hold] at hd
      -- With no scope of the kind inside of it, this is the end of the scope in question.
      cases n with
      | zero =>
        cases hd
        exact .here hr ht h htarget (.inl hq)
      | succ n => exact (ih heffect hfin hb₁ hv₁ hd).cons hr ht fun _ _ => Search.find_close hq
    | accepts hq hold hnew htarget =>
      rw [hold] at hd
      cases n with
      | zero =>
        cases hd
        exact .here hr ht h htarget (.inr hq)
      | succ n =>
        refine (ih heffect hfin hb₁ hv₁ (n := n + 1) ?_).cons hr ht
          fun _ _ => Search.find_accept hq
        rw [hnew]
        exact hd
    | changes hq hold hnew hkeep =>
      rw [hold] at hd
      cases n with
      | zero =>
        cases hd
        refine ((ih heffect hfin hb₁ hv₁ (n := 0) ?_).mono hkeep).cons hr ht
          fun _ _ => Search.find_other hq
        rw [hnew]
        rfl
      | succ n =>
        refine (ih heffect hfin hb₁ hv₁ (n := n + 1) ?_).cons hr ht
          fun _ _ => Search.find_other hq
        rw [hnew]
        exact hd
    | passes hq hsame =>
      refine (ih heffect hfin hb₁ hv₁ ?_).cons hr ht fun _ _ => Search.find_other hq
      rw [hsame]
      exact hd

/-! ## The kinds of scopes -/

/-- The builder is about to fill a given block, which is still empty. -/
structure Begins (b : Builder L) (x : BlockId) : Prop where
  returned : b.returned = false
  current : b.current = x
  vacant : b.graph.itemsAt x = []

/-- The block may be given in another form. -/
theorem Begins.of_eq {x y : BlockId} (h : b.Begins x) (hxy : x = y) : b.Begins y := hxy ▸ h

/-- Behind control flow that does not end the function, the builder begins a block. -/
theorem Step.begins (h : Step stage b i b') (hb : b.Sound) (hv : b.Vacant)
    (hr : b.returned = false) (hr' : b'.returned = false) : b'.Begins b'.current :=
  ⟨hr', rfl, (h.vacant hb hr hv hr').2⟩

/-- The blocks of an `if`. -/
def branch? : Scope → Option (BlockId × Option BlockId)
  | .branch alternative merge => some (alternative, merge)
  | .loop .. | .switch _ => none

/-- A false `if` goes on in its other arm, or behind it. -/
theorem effect_elseOrEndIf (hb : b.Sound) (hv : b.Vacant) (hr : b.returned = false)
    (ht : Takes stage puts b i b') :
    Search.elseOrEndIf.Effect (fun v _ b' => v.2 = none → b'.Begins v.1) i b'
      (b.scopes.filterMap branch?) (b'.scopes.filterMap branch?) := by
  cases ht with
  | put hi | skip hi => exact .passes (Search.ofFlow_of_straight hi) rfl
  | control h =>
    have hbegins := h.begins hb hv hr
    cases h with
    | beginIf hop => exact .opens (Search.ofFlow_eq hop) rfl
    | elseArm hop hs =>
      rw [hs]
      exact .accepts (Search.ofFlow_eq hop) rfl rfl fun _ => hbegins hr
    | endIf hop hs =>
      rw [hs]
      refine .closes (Search.ofFlow_eq hop) rfl fun hm => ?_
      cases hm
      exact hbegins hr
    | leave way hop | leaveIf way hop =>
      exact .passes (by cases way <;> exact Search.ofFlow_eq hop) rfl
    | beginLoop hop | beginSwitch hop | ret hop | discard hop =>
      exact .passes (Search.ofFlow_eq hop) rfl
    | endLoop hop hs | caseLabel hop _ hs | defaultLabel hop hs | endSwitch hop hs =>
      rw [hs]
      exact .passes (Search.ofFlow_eq hop) rfl

/-- The end of the first arm leads behind the `if`. -/
theorem effect_endIf (hb : b.Sound) (hv : b.Vacant) (hr : b.returned = false)
    (ht : Takes stage puts b i b') :
    Search.endIf.Effect (fun v _ b' => ∀ m, v.2 = some m → b'.Begins m) i b'
      (b.scopes.filterMap branch?) (b'.scopes.filterMap branch?) := by
  cases ht with
  | put hi | skip hi => exact .passes (Search.ofFlow_of_straight hi) rfl
  | control h =>
    have hbegins := h.begins hb hv hr
    cases h with
    | beginIf hop => exact .opens (Search.ofFlow_eq hop) rfl
    | elseArm hop hs =>
      rw [hs]
      refine .changes (Search.ofFlow_eq hop) rfl rfl fun _ _ _ m hm => ?_
      cases hm
    | endIf hop hs =>
      rw [hs]
      refine .closes (Search.ofFlow_eq hop) rfl fun m hm => ?_
      cases hm
      exact hbegins hr
    | leave way hop | leaveIf way hop =>
      exact .passes (by cases way <;> exact Search.ofFlow_eq hop) rfl
    | beginLoop hop | beginSwitch hop | ret hop | discard hop =>
      exact .passes (Search.ofFlow_eq hop) rfl
    | endLoop hop hs | caseLabel hop _ hs | defaultLabel hop hs | endSwitch hop hs =>
      rw [hs]
      exact .passes (Search.ofFlow_eq hop) rfl

/-- A `break` leads behind the innermost loop or switch. -/
theorem effect_endLoopOrSwitch (hb : b.Sound) (hv : b.Vacant) (hr : b.returned = false)
    (ht : Takes stage puts b i b') :
    Search.endLoopOrSwitch.Effect (fun x _ b' => b'.Begins x) i b'
      (b.scopes.filterMap Scope.breakTarget?) (b'.scopes.filterMap Scope.breakTarget?) := by
  cases ht with
  | put hi | skip hi => exact .passes (Search.ofFlow_of_straight hi) rfl
  | control h =>
    have hbegins := h.begins hb hv hr
    cases h with
    | beginLoop hop | beginSwitch hop => exact .opens (Search.ofFlow_eq hop) rfl
    | endLoop hop hs | endSwitch hop hs =>
      rw [hs]
      exact .closes (Search.ofFlow_eq hop) rfl (hbegins hr)
    | leave way hop | leaveIf way hop =>
      exact .passes (by cases way <;> exact Search.ofFlow_eq hop) rfl
    | beginIf hop | ret hop | discard hop => exact .passes (Search.ofFlow_eq hop) rfl
    | elseArm hop hs | endIf hop hs | caseLabel hop _ hs | defaultLabel hop hs =>
      rw [hs]
      exact .passes (Search.ofFlow_eq hop) rfl

/-! ## Switches -/

/-- The state of an open switch. -/
def switch? : Scope → Option SwitchScope
  | .switch s => some s
  | .branch .. | .loop .. => none

/-- The instruction that a switch finds for a value is its `case` label, or the end of the switch if
the finished graph has no `case` for the value. -/
def LeadsToCase (fin : Builder L) (value : UInt32) (s : SwitchScope) (i : Instruction)
    (b' : Builder L) : Prop :=
  ∀ {selector cases default},
    fin.graph.terminatorAt s.dispatch = some (.switch selector cases default) →
    s.cases[value]? = none →
    (Search.caseOrEnd value i = .accepts ∧ ∃ x, cases[value]? = some x ∧ b'.Begins x) ∨
      (Search.caseOrEnd value i ≠ .accepts ∧ cases[value]? = none)

/-- The instruction that a switch finds for its default begins the block that the finished graph has
for it. -/
def LeadsToDefault (fin : Builder L) (s : SwitchScope) (b' : Builder L) : Prop :=
  ∀ {selector cases default},
    fin.graph.terminatorAt s.dispatch = some (.switch selector cases default) →
    s.fallback = none → b'.Begins default

/-- The terminator of a switch that has ended is final. -/
theorem Reads.terminatorAt_endSwitch {s : SwitchScope} {outer : List Scope}
    (h : Reads stage puts b' is fin) (hb' : b'.Sound) (hb : b.Sound) (hr : b.returned = false)
    (hs : b.scopes = .switch s :: outer)
    (hg : b'.graph = (b.graph.close b.current (.jump s.exit)).close s.dispatch
      (.switch s.selector s.cases s.default)) :
    fin.graph.terminatorAt s.dispatch = some (.switch s.selector s.cases s.default) := by
  refine (h.closed hb' ?_).1
  rw [hg]
  exact Graph.terminatorAt_close_self (hb.isOpen_dispatch hr hs _).lt_size

/-- A label that the builder accepts is the one looked for exactly if its value is. -/
theorem caseOrEnd_of_label (value : UInt32) {v : UInt32} (hop : i.opcode = .flow .caseLabel)
    (hv : caseValue i = .ok v) :
    Search.caseOrEnd value i = if v = value then .accepts else .other := by
  obtain ⟨operand, ho, -, rfl⟩ := caseValue_eq_ok_iff.1 hv
  refine (Search.ofFlow_eq hop).trans ?_
  simp [ho]

/-- A switch goes on behind the `case` label of its selector's value. -/
theorem effect_caseOrEnd (value : UInt32) (hb : b.Sound) (hv : b.Vacant) (hr : b.returned = false)
    (ht : Takes stage puts b i b') (hread : Reads stage puts b' is fin)
    (hfin : fin.returned = true) :
    (Search.caseOrEnd value).Effect (fun s i b' => LeadsToCase fin value s i b') i b'
      (b.scopes.filterMap switch?) (b'.scopes.filterMap switch?) := by
  have hb' := ht.sound hr hb
  cases ht with
  | put hi | skip hi => exact .passes (Search.ofFlow_of_straight hi) rfl
  | control h =>
    have hbegins := h.begins hb hv hr
    cases h with
    | beginSwitch hop => exact .opens (Search.ofFlow_eq hop) rfl
    | @endSwitch s outer hop hs =>
      have hq : Search.caseOrEnd value i = .closes := Search.ofFlow_eq hop
      have hterm := hread.terminatorAt_endSwitch hb' hb hr hs rfl
      rw [hs]
      refine .closes hq rfl fun hterm' hnone => .inr ⟨by simp [hq], ?_⟩
      cases hterm.symm.trans hterm'
      exact hnone
    | @caseLabel v s outer hop hvalue hs hnew =>
      have hq := caseOrEnd_of_label value hop hvalue
      rw [hs]
      by_cases hvv : v = value
      · subst hvv
        rw [if_pos rfl] at hq
        refine .accepts hq rfl rfl fun hterm' _ => .inl ⟨hq, b.graph.size, ?_, hbegins hr⟩
        obtain ⟨s', hg, hterm, -⟩ := hread.dispatch hb' hr hfin List.mem_cons_self
        cases hterm.symm.trans hterm'
        exact hg.cases Std.ExtTreeMap.getElem?_insert_self
      · rw [if_neg hvv] at hq
        refine .changes hq rfl rfl fun _ _ h _ _ _ hterm' hnone => h hterm' ?_
        rw [Std.ExtTreeMap.getElem?_insert, if_neg (by simpa using hvv)]
        exact hnone
    | defaultLabel hop hs =>
      rw [hs]
      exact .changes (Search.ofFlow_eq hop) rfl rfl fun _ _ h => h
    | leave way hop | leaveIf way hop =>
      exact .passes (by cases way <;> exact Search.ofFlow_eq hop) rfl
    | beginIf hop | beginLoop hop | ret hop | discard hop =>
      exact .passes (Search.ofFlow_eq hop) rfl
    | elseArm hop hs | endIf hop hs | endLoop hop hs =>
      rw [hs]
      exact .passes (Search.ofFlow_eq hop) rfl

/-- A switch without a `case` for its selector's value goes on behind its `default` label, or behind
its end. -/
theorem effect_defaultOrEnd (hb : b.Sound) (hv : b.Vacant) (hr : b.returned = false)
    (ht : Takes stage puts b i b') (hread : Reads stage puts b' is fin)
    (hfin : fin.returned = true) :
    Search.defaultOrEnd.Effect (fun s _ b' => LeadsToDefault fin s b') i b'
      (b.scopes.filterMap switch?) (b'.scopes.filterMap switch?) := by
  have hb' := ht.sound hr hb
  cases ht with
  | put hi | skip hi => exact .passes (Search.ofFlow_of_straight hi) rfl
  | control h =>
    have hbegins := h.begins hb hv hr
    cases h with
    | beginSwitch hop => exact .opens (Search.ofFlow_eq hop) rfl
    | @endSwitch s outer hop hs =>
      have hterm := hread.terminatorAt_endSwitch hb' hb hr hs rfl
      rw [hs]
      refine .closes (Search.ofFlow_eq hop) rfl fun hterm' hnone => ?_
      cases hterm.symm.trans hterm'
      refine (hbegins hr).of_eq ?_
      rw [SwitchScope.default, hnone]
      rfl
    | @defaultLabel s outer hop hs hnew =>
      rw [hs]
      refine .accepts (Search.ofFlow_eq hop) rfl rfl fun hterm' _ => ?_
      obtain ⟨s', hg, hterm, -⟩ := hread.dispatch hb' hr hfin List.mem_cons_self
      cases hterm.symm.trans hterm'
      refine (hbegins hr).of_eq ?_
      rw [SwitchScope.default, hg.fallback rfl]
      rfl
    | caseLabel hop _ hs =>
      rw [hs]
      exact .changes (Search.ofFlow_eq hop) rfl rfl fun _ _ h => h
    | leave way hop | leaveIf way hop =>
      exact .passes (by cases way <;> exact Search.ofFlow_eq hop) rfl
    | beginIf hop | beginLoop hop | ret hop | discard hop =>
      exact .passes (Search.ofFlow_eq hop) rfl
    | elseArm hop hs | endIf hop hs | endLoop hop hs =>
      rw [hs]
      exact .passes (Search.ofFlow_eq hop) rfl

/-! ## Loops -/

/-- What an instruction does to the open loops, for a search that meets it from behind. -/
theorem loops_takes (ht : Takes stage puts b i b') :
    (Search.loopBackwards i = .closes ∧ Step stage b i b' ∧ b'.returned = b.returned ∧
      b'.scopes.filterMap Scope.continueTarget? =
        b'.current :: b.scopes.filterMap Scope.continueTarget?) ∨
    (Search.loopBackwards i = .opens ∧ ∃ x, b.scopes.filterMap Scope.continueTarget? =
      x :: b'.scopes.filterMap Scope.continueTarget?) ∨
    (Search.loopBackwards i = .other ∧ b'.scopes.filterMap Scope.continueTarget? =
      b.scopes.filterMap Scope.continueTarget?) := by
  cases ht with
  | put hi | skip hi => exact .inr (.inr ⟨Search.ofFlow_of_straight hi, rfl⟩)
  | control h =>
    cases h with
    | beginLoop hop hd ho => exact .inl ⟨Search.ofFlow_eq hop, .beginLoop hop hd ho, rfl, rfl⟩
    | endLoop hop hs =>
      rw [hs]
      exact .inr (.inl ⟨Search.ofFlow_eq hop, _, rfl⟩)
    | leave way hop | leaveIf way hop =>
      exact .inr (.inr ⟨by cases way <;> exact Search.ofFlow_eq hop, rfl⟩)
    | beginIf hop | beginSwitch hop | ret hop | discard hop =>
      exact .inr (.inr ⟨Search.ofFlow_eq hop, rfl⟩)
    | elseArm hop hs | endIf hop hs | caseLabel hop _ hs | defaultLabel hop hs | endSwitch hop hs =>
      rw [hs]
      exact .inr (.inr ⟨Search.ofFlow_eq hop, rfl⟩)

/-- The search back from within a loop finds the beginning of the loop, behind which the builder
began the entrance of the loop. The induction is on what has been read, from its end; `n` is the
number of loops inside of the one in question. -/
theorem exists_find_back {n limit : Nat} {x : BlockId}
    (h : Reads stage puts (.start limit) is b)
    (hd : (b.scopes.filterMap Scope.continueTarget?)[n]? = some x) :
    ∃ pre mid b', is = pre ++ mid ∧ Reads stage puts (.start limit) pre b' ∧
      Reads stage puts b' mid b ∧ b'.Begins x ∧
      ∀ passed, Search.loopBackwards.find n passed is.reverse =
        some (mid ++ passed, pre.reverse) := by
  induction is using List.reverseRecOn generalizing b n with
  | nil =>
    cases h
    cases hd
  | append_singleton is i ih =>
    obtain ⟨b₁, h₁, hr, ht⟩ := h.snoc_inv
    have hrev : (is ++ [i]).reverse = i :: is.reverse := by simp
    -- Where the search passes the last instruction, it finds what it finds without it.
    have hpass {m : Nat} (hm : (b₁.scopes.filterMap Scope.continueTarget?)[m]? = some x)
        (hfind : ∀ passed rest, Search.loopBackwards.find n passed (i :: rest) =
          Search.loopBackwards.find m (i :: passed) rest) :
        ∃ pre mid b', is ++ [i] = pre ++ mid ∧ Reads stage puts (.start limit) pre b' ∧
          Reads stage puts b' mid b ∧ b'.Begins x ∧ ∀ passed,
            Search.loopBackwards.find n passed (is ++ [i]).reverse =
              some (mid ++ passed, pre.reverse) := by
      obtain ⟨pre, mid, b', rfl, hpre, hmid, hbegins, hf⟩ := ih h₁ hm
      refine ⟨pre, mid ++ [i], b', by simp, hpre, hmid.snoc hr ht, hbegins, fun passed => ?_⟩
      rw [hrev, hfind, hf]
      simp
    rcases loops_takes ht with ⟨hq, hstep, hr', hnew⟩ | ⟨hq, x', hold⟩ | ⟨hq, hsame⟩
    · rw [hnew] at hd
      cases n with
      | zero =>
        cases hd
        have hbegins := hstep.begins (h₁.sound (sound_start _))
          (h₁.vacant (sound_start _) (vacant_start _)) hr (hr'.trans hr)
        refine ⟨is ++ [i], [], b, by simp, h, .nil, hbegins, fun passed => ?_⟩
        rw [hrev]
        exact Search.find_stop (.inl hq)
      | succ n => exact hpass hd fun _ _ => Search.find_close hq
    · refine hpass (m := n + 1) ?_ fun _ _ => Search.find_open hq
      rw [hold]
      exact hd
    · refine hpass ?_ fun _ _ => Search.find_other hq
      rw [← hsame]
      exact hd

end Builder

end ShaderFlow
