import Mathlib.Data.Nat.Find
import ShaderFlow.Proofs.Leftovers
import ShaderFlow.Proofs.Lookahead

/-!
# The nesting limit

How many scopes may be open at once is asked in one place, when a scope is opened. All other parts
of a step ignore the limit, and none of them leads deeper (`Builder.Rules`). So two compilations of
a program under two limits go through the same sessions, apart from the limit that these carry, up
to the first instruction that opens a scope beyond the lower one
(`Compilation.sessionAt_withLimit`). There the compilation under the lower limit ends with a
diagnostic. If the other one comes to no such instruction, they have the same result
(`Compilation.result_withLimit`).
-/

namespace ShaderFlow

namespace Builder

variable {L α β : Type} {stage : Stage} {b b' : Builder L} {i : Instruction} {m n : Nat}

/-- The builder under another limit. -/
def withLimit (b : Builder L) (m : Nat) : Builder L := { b with maxNesting := m }

/-- The builder that a step leaves, whether it is refused or not. -/
def left : EStateM.Result FlowFault (Builder L) α → Builder L
  | .ok _ b | .error _ b => b

/-- Closing a block opens and closes no scope, whether it succeeds or not. -/
theorem scopes_left_terminate {block : BlockId} {t : Terminator} :
    (left (terminate block t b)).scopes = b.scopes := by
  rw [terminate_apply]
  cases b.graph.terminate block t <;> rfl

/-- A jump opens and closes no scope. -/
theorem scopes_of_jump {target : BlockId} {u : Unit} (h : jump target b = .ok u b') :
    b'.scopes = b.scopes := by
  have hleft : (left (jump target b)).scopes = b.scopes := scopes_left_terminate
  rw [h] at hleft
  exact hleft

/-! ## What the parts of a step have in common -/

/-- What every part of a step has that opens no scope. Such a part looks at the limit nowhere, and
it does not lead deeper. -/
structure Rules (P : (α : Type) → Build L α → Builder L → Prop) : Prop where
  value : ∀ {α b} (a : α), P α (pure a) b
  refuse : ∀ {α b} (fault : FlowFault), P α (throw fault) b
  seq : ∀ {α β b} {x : Build L α} {f : α → Build L β}, P α x b →
    (∀ a b', x b = .ok a b' → P β (f a) b') → P β (x >>= f) b
  look : ∀ {β b} {f : Builder L → Build L β}, (∀ m, f (b.withLimit m) = f b) →
    P β (f b) b → P β (get >>= f) b
  change : ∀ {b} {h : Builder L → Builder L}, (∀ m, h (b.withLimit m) = (h b).withLimit m) →
    (h b).depth ≤ b.depth → P Unit (modify h) b
  newBlock : ∀ {b} {name : String}, P BlockId (newBlock name) b
  terminate : ∀ {b} {block : BlockId} {t : Terminator}, P Unit (terminate block t) b

namespace Rules

variable {P : (α : Type) → Build L α → Builder L → Prop}

/-- A check either gives a value or refuses. -/
theorem lift (R : Rules P) {x : Except FlowFault α} : P α (liftM x) b := by
  cases x with
  | ok a => exact R.value a
  | error fault => exact R.refuse fault

/-- A value that may be missing is given or refused. -/
theorem orFault (R : Rules P) {o : Option α} {fault : FlowFault} :
    P α (ShaderFlow.orFault o fault) b := by
  cases o with
  | some a => exact R.value a
  | none => exact R.refuse fault

/-- A condition is passed or refused. -/
theorem require (R : Rules P) {p : Prop} [Decidable p] {fault : FlowFault} :
    P Unit (ShaderFlow.require p fault) b := by
  unfold ShaderFlow.require
  split
  · exact R.value ()
  · exact R.refuse fault

/-- Moving on is a change that leaves the scopes alone. -/
theorem moveTo (R : Rules P) {block : BlockId} : P Unit (moveTo block) b :=
  R.change (fun _ => rfl) (Nat.le_refl _)

/-- Dropping a scope leads out, not in. -/
theorem leave (R : Rules P) : P Unit leave b := by
  refine R.change (fun _ => rfl) ?_
  show b.scopes.tail.length ≤ b.scopes.length
  rw [List.length_tail]
  exact Nat.sub_le _ 1

/-- A scope can be replaced where there is one. -/
theorem replaceTop (R : Rules P) {old scope : Scope} (hs : b.scopes.head? = some old) :
    P Unit (replaceTop scope) b := by
  obtain ⟨rest, hrest⟩ := List.head?_eq_some_iff.1 hs
  refine R.change (fun _ => rfl) ?_
  show (scope :: b.scopes.tail).length ≤ b.scopes.length
  rw [hrest]
  exact Nat.le_refl _

/-- The current block is looked up and closed. -/
theorem close (R : Rules P) {t : Terminator} : P Unit (close t) b :=
  R.look (fun _ => rfl) R.terminate

/-- A jump closes the current block. -/
theorem jump (R : Rules P) {target : BlockId} : P Unit (jump target) b := R.close

/-! ### Instructions -/

/-- A conditional jump out reads a condition, allocates, closes and moves on. -/
theorem branchOut (R : Rules P) {target : BlockId} {name : String} :
    P Unit (branchOut i target name) b :=
  R.seq R.lift fun _ _ _ => R.seq R.newBlock fun _ _ _ => R.seq R.close fun _ _ _ => R.moveTo

/-- A jump out closes, allocates and moves on. -/
theorem jumpOut (R : Rules P) {target : BlockId} {name : String} :
    P Unit (jumpOut target name) b :=
  R.seq R.jump fun _ _ _ => R.seq R.newBlock fun _ _ _ => R.moveTo

section

variable (R : Rules P)
  (henter : ∀ first second, Opens i first second → ∀ scope (b₁ : Builder L), b₁.depth = b.depth →
    b₁.maxNesting = b.maxNesting → P Unit (enter scope) b₁)
include R henter

/-- An `if` opens one scope. -/
theorem beginIf (hop : i.opcode = .flow .beginIf) : P Unit (beginIf i) b := by
  refine R.seq R.lift fun c b₁ hlift => ?_
  obtain ⟨hc, rfl⟩ := lift_eq_ok_iff.1 hlift
  refine R.seq R.newBlock fun _ b₂ h₂ => R.seq R.newBlock fun _ b₃ h₃ => ?_
  cases h₂
  cases h₃
  refine R.seq (henter _ _ (.beginIf hop hc) _ _ rfl rfl) fun _ _ _ => ?_
  exact R.seq R.close fun _ _ _ => R.moveTo

/-- A loop opens one scope. -/
theorem beginLoop (hop : i.opcode = .flow .beginLoop) : P Unit beginLoop b := by
  refine R.seq R.newBlock fun _ b₁ h₁ => R.seq R.newBlock fun _ b₂ h₂ => ?_
  cases h₁
  cases h₂
  refine R.seq (henter _ _ (.beginLoop hop) _ _ rfl rfl) fun _ _ _ => ?_
  exact R.seq R.jump fun _ _ _ => R.moveTo

/-- A switch opens one scope, if it has an operand. -/
theorem beginSwitch (hop : i.opcode = .flow .beginSwitch) : P Unit (beginSwitch i) b := by
  unfold Builder.beginSwitch
  cases hsel : i.operand? 0 with
  | none => exact R.seq (R.refuse _) fun _ _ h => by cases h
  | some selector =>
    refine R.seq (R.value _) fun _ b₁ h₁ => ?_
    cases h₁
    refine R.seq R.newBlock fun _ b₂ h₂ => R.seq R.newBlock fun _ b₃ h₃ => ?_
    cases h₂
    cases h₃
    refine R.look (fun _ => rfl) (R.seq (henter _ _ (.beginSwitch hop hsel) _ _ rfl rfl) ?_)
    exact fun _ _ _ => R.moveTo

end

/-- An `else` replaces the scope that it has found. -/
theorem elseArm (R : Rules P) : P Unit elseArm b := by
  refine R.look (fun _ => rfl) ?_
  split
  · next hs =>
    refine R.seq R.newBlock fun _ b₁ h₁ => R.seq R.jump fun _ b₂ h₂ => ?_
    cases h₁
    rw [← scopes_of_jump h₂] at hs
    exact R.seq (R.replaceTop hs) fun _ _ _ => R.moveTo
  · exact R.refuse _
  · exact R.refuse _

/-- An `endif` drops a scope. -/
theorem endIf (R : Rules P) : P Unit endIf b := by
  refine R.look (fun _ => rfl) ?_
  split
  · exact R.seq R.jump fun _ _ _ => R.seq R.leave fun _ _ _ => R.moveTo
  · exact R.refuse _

/-- An `endloop` drops a scope. -/
theorem endLoop (R : Rules P) : P Unit endLoop b := by
  refine R.look (fun _ => rfl) ?_
  split
  · exact R.seq R.jump fun _ _ _ => R.seq R.leave fun _ _ _ => R.moveTo
  · exact R.refuse _

/-- A `case` replaces the scope that it has found. -/
theorem caseLabel (R : Rules P) : P Unit (caseLabel i) b := by
  refine R.seq R.lift fun _ _ _ => R.look (fun _ => rfl) ?_
  split
  · next hs =>
    refine R.seq R.newBlock fun _ b₁ h₁ => ?_
    cases h₁
    refine R.seq (R.replaceTop hs) fun _ _ _ => R.seq R.require fun _ _ _ => ?_
    exact R.seq R.jump fun _ _ _ => R.moveTo
  · exact R.refuse _

/-- A `default` replaces the scope that it has found. -/
theorem defaultLabel (R : Rules P) : P Unit defaultLabel b := by
  refine R.look (fun _ => rfl) ?_
  split
  · next hs =>
    refine R.seq R.require fun _ b₁ h₁ => R.seq R.newBlock fun _ b₂ h₂ => ?_
    obtain ⟨-, rfl⟩ := require_eq_ok_iff.1 h₁
    cases h₂
    exact R.seq (R.replaceTop hs) fun _ _ _ => R.seq R.jump fun _ _ _ => R.moveTo
  · exact R.refuse _

/-- An `endswitch` drops a scope before it looks at it. -/
theorem endSwitch (R : Rules P) : P Unit endSwitch b := by
  refine R.look (fun _ => rfl) (R.seq R.leave fun _ _ _ => ?_)
  split
  · exact R.seq R.jump fun _ _ _ => R.seq R.terminate fun _ _ _ => R.moveTo
  · exact R.refuse _

/-- A return looks at the scopes and leaves them alone. -/
theorem ret (R : Rules P) : P Unit ret b := by
  refine R.look (fun _ => rfl) (R.seq R.jump fun _ _ _ => ?_)
  split
  · exact R.change (fun _ => rfl) (Nat.le_refl _)
  · exact R.seq R.newBlock fun _ _ _ => R.moveTo

/-- A `discard` allocates, fills and closes blocks. -/
theorem discard (R : Rules P) : P Unit (discard stage i) b :=
  R.seq R.require fun _ _ _ => R.seq R.lift fun _ _ _ => R.seq R.newBlock fun _ _ _ =>
    R.seq R.newBlock fun _ _ _ => R.seq (R.change (fun _ => rfl) (Nat.le_refl _)) fun _ _ _ =>
      R.seq R.terminate fun _ _ _ => R.seq R.close fun _ _ _ => R.moveTo

/-- Control flow has what its parts have, if also the scope is opened so that it opens. -/
theorem control (R : Rules P)
    (henter : ∀ first second, Opens i first second → ∀ scope (b₁ : Builder L),
      b₁.depth = b.depth → b₁.maxNesting = b.maxNesting → P Unit (enter scope) b₁) :
    P Unit (control stage i) b := by
  unfold Builder.control
  split
  case h_1 hop => exact R.beginIf henter hop
  case h_2 => exact R.elseArm
  case h_3 => exact R.endIf
  case h_4 hop => exact R.beginLoop henter hop
  case h_5 => exact R.endLoop
  case h_6 hop => exact R.beginSwitch henter hop
  case h_7 => exact R.caseLabel
  case h_8 => exact R.defaultLabel
  case h_9 => exact R.endSwitch
  case h_10 | h_12 =>
    exact R.look (fun _ => rfl) (R.seq R.orFault fun _ _ _ => R.jumpOut)
  case h_11 | h_13 =>
    exact R.look (fun _ => rfl) (R.seq R.orFault fun _ _ _ => R.branchOut)
  case h_14 => exact R.ret
  case h_15 => exact R.look (fun _ => rfl) R.branchOut
  case h_16 => exact R.discard
  case h_17 => exact R.refuse _

end Rules

/-! ## Steps that ignore the limit -/

/-- What a step gives, under another limit. -/
def limitResult (m : Nat) :
    EStateM.Result FlowFault (Builder L) α → EStateM.Result FlowFault (Builder L) α
  | .ok a b => .ok a (b.withLimit m)
  | .error fault b => .error fault (b.withLimit m)

/-- The step does the same under another limit. -/
def IgnoresLimit (m : Nat) (x : Build L α) (b : Builder L) : Prop :=
  x (b.withLimit m) = limitResult m (x b)

/-- Two parts that ignore the limit make a step that does. -/
theorem IgnoresLimit.bind {x : Build L α} {f : α → Build L β} (hx : IgnoresLimit m x b)
    (hf : ∀ a b', x b = .ok a b' → IgnoresLimit m (f a) b') : IgnoresLimit m (x >>= f) b := by
  unfold IgnoresLimit at hx ⊢
  cases h : x b with
  | ok a b' =>
    rw [h] at hx
    rw [bind_of_ok hx, bind_of_ok h]
    exact hf a b' h
  | error fault b' =>
    rw [h] at hx
    rw [bind_of_error hx, bind_of_error h]
    rfl

/-- Whether a block can be closed does not depend on the limit. -/
theorem ignoresLimit_terminate {block : BlockId} {t : Terminator} :
    IgnoresLimit m (terminate block t : Build L Unit) b := by
  have hgraph : (b.withLimit m).graph = b.graph := rfl
  unfold IgnoresLimit
  rw [terminate_apply, terminate_apply, hgraph]
  cases b.graph.terminate block t <;> rfl

/-- Only opening a scope can tell one limit from another. -/
theorem IgnoresLimit.rules (m : Nat) :
    Rules fun α (x : Build L α) b => IgnoresLimit m x b where
  value _ := rfl
  refuse _ := rfl
  seq := IgnoresLimit.bind
  look {_ b f} hf h := by
    show f (b.withLimit m) (b.withLimit m) = limitResult m (f b b)
    rw [hf]
    exact h
  change {b h} hh _ := by
    show EStateM.Result.ok () (h (b.withLimit m)) = .ok () ((h b).withLimit m)
    rw [hh]
  newBlock := rfl
  terminate := ignoresLimit_terminate

/-- A scope is opened under both limits if the lower one allows it. -/
theorem ignoresLimit_enter {scope : Scope} (hd : b.depth < m) (hm : m ≤ b.maxNesting) :
    IgnoresLimit m (enter scope) b := by
  have hdepth : (b.withLimit m).depth < (b.withLimit m).maxNesting := hd
  unfold IgnoresLimit
  rw [enter_apply, enter_apply, if_pos hdepth, if_pos (Nat.lt_of_lt_of_le hd hm)]
  rfl

/-- Control flow ignores a lower limit, as long as the limit allows the scope that it opens. -/
theorem ignoresLimit_control (hm : m ≤ b.maxNesting)
    (hd : ∀ first second, Opens i first second → b.depth < m) :
    IgnoresLimit m (control stage i) b := by
  refine (IgnoresLimit.rules m).control fun first second ho scope b₁ hdepth hlimit => ?_
  refine ignoresLimit_enter ?_ (hlimit ▸ hm)
  rw [hdepth]
  exact hd first second ho

/-! ## Scopes that are opened -/

/-- The step does not lead deeper, also if it is refused. -/
def NoDeeper (x : Build L α) (b : Builder L) : Prop := (left (x b)).depth ≤ b.depth

/-- Two parts that do not lead deeper make a step that does not. -/
theorem NoDeeper.bind {x : Build L α} {f : α → Build L β} (hx : NoDeeper x b)
    (hf : ∀ a b', x b = .ok a b' → NoDeeper (f a) b') : NoDeeper (x >>= f) b := by
  unfold NoDeeper at hx ⊢
  cases h : x b with
  | ok a b' =>
    rw [h] at hx
    rw [bind_of_ok h]
    exact Nat.le_trans (hf a b' h) hx
  | error fault b' =>
    rw [h] at hx
    rw [bind_of_error h]
    exact hx

/-- Only opening a scope leads deeper. -/
theorem NoDeeper.rules : Rules fun α (x : Build L α) b => NoDeeper x b where
  value _ := Nat.le_refl _
  refuse _ := Nat.le_refl _
  seq := NoDeeper.bind
  look _ h := h
  change _ hh := hh
  newBlock := Nat.le_refl _
  terminate := Nat.le_of_eq (congrArg List.length scopes_left_terminate)

/-- A scope is not opened if as many are open as may be. -/
theorem Opens.control_eq_error {first second : String} (h : Opens i first second) (stage : Stage)
    (hd : b.maxNesting ≤ b.depth) :
    ∃ b', control stage i b = .error (.tooDeep b.maxNesting) b' ∧ b'.depth = b.depth := by
  have hfull {k : Unit → Build L Unit} {scope : Scope} {g : Graph L} :
      (enter scope >>= k) { b with graph := g } =
        .error (.tooDeep b.maxNesting) { b with graph := g } :=
    enter_bind_eq_error_iff.2 (.inl ⟨hd, rfl, rfl⟩)
  simp only [control]
  cases h with
  | beginIf hop hc =>
    simp only [hop, Builder.beginIf, lift_bind_eq_error_iff]
    exact ⟨_, .inr ⟨_, hc, hfull⟩, rfl⟩
  | beginLoop hop =>
    simp only [hop]
    exact ⟨_, hfull, rfl⟩
  | beginSwitch hop hsel =>
    simp only [hop, Builder.beginSwitch, orFault_bind_eq_error_iff]
    exact ⟨_, .inr ⟨_, hsel, hfull⟩, rfl⟩

/-- What is left has a scope more, if what follows keeps the scopes. -/
theorem depth_left_enter {scope : Scope} {k : Unit → Build L Unit} (hd : b.depth < b.maxNesting)
    (hk : ∀ b : Builder L, (left (k () b)).scopes = b.scopes) :
    (left ((enter scope >>= k) b)).depth = b.depth + 1 := by
  rw [bind_of_ok (by rw [enter_apply, if_pos hd])]
  exact congrArg List.length (hk _)

/-- Closing the current block and moving on opens and closes no scope. -/
theorem scopes_left_close {t : Terminator} {block : BlockId} :
    (left ((close t >>= fun _ => moveTo block) b)).scopes = b.scopes := by
  have hclose : (left (close t b)).scopes = b.scopes := scopes_left_terminate
  cases h : close t b with
  | ok _ b' =>
    rw [h] at hclose
    rw [bind_of_ok h]
    exact hclose
  | error fault b' =>
    rw [h] at hclose
    rw [bind_of_error h]
    exact hclose

/-- Within the limit, a scope is opened. -/
theorem Opens.depth_left {first second : String} (h : Opens i first second) (stage : Stage)
    (hd : b.depth < b.maxNesting) : (left (control stage i b)).depth = b.depth + 1 := by
  simp only [control]
  cases h with
  | beginIf hop hc =>
    simp only [hop, Builder.beginIf]
    rw [bind_of_ok (lift_eq_ok_iff.2 ⟨hc, rfl⟩), newBlock_bind, newBlock_bind]
    exact depth_left_enter hd fun _ => scopes_left_close
  | beginLoop hop =>
    simp only [hop, Builder.beginLoop]
    rw [newBlock_bind, newBlock_bind]
    exact depth_left_enter hd fun _ => scopes_left_close
  | beginSwitch hop hsel =>
    simp only [hop, Builder.beginSwitch, hsel]
    exact depth_left_enter hd fun _ => rfl

/-- A step that leads deeper opens a scope within the limit. -/
theorem exists_opens_of_lt (h : b.depth < (left (control stage i b)).depth) :
    ∃ first second, Opens i first second ∧ b.depth < b.maxNesting ∧
      (left (control stage i b)).depth = b.depth + 1 := by
  have hopens : ∃ first second, Opens i first second := by
    by_contra hnone
    refine Nat.not_le_of_lt h (NoDeeper.rules.control fun first second ho => ?_)
    exact absurd ⟨first, second, ho⟩ hnone
  obtain ⟨first, second, ho⟩ := hopens
  have hd : b.depth < b.maxNesting := by
    by_contra hfull
    obtain ⟨b', hb, hdepth⟩ := ho.control_eq_error stage (Nat.le_of_not_lt hfull)
    rw [hb] at h
    exact absurd h (Nat.not_lt_of_le (Nat.le_of_eq hdepth))
  exact ⟨first, second, ho, hd, ho.depth_left stage hd⟩

/-- No step changes the limit, and none leads beyond it. -/
theorem within_of_control {u : Unit} (hc : control stage i b = .ok u b')
    (h : b.maxNesting = n ∧ b.depth ≤ n) : b'.maxNesting = n ∧ b'.depth ≤ n := by
  have hlimit : b'.maxNesting = b.maxNesting := by cases executes_of_control hc <;> rfl
  have hleft : left (control stage i b) = b' := by rw [hc]; rfl
  refine ⟨hlimit.trans h.1, ?_⟩
  by_cases hlt : b.depth < b'.depth
  · rw [← hleft] at hlt
    obtain ⟨_, _, -, hd, hdepth⟩ := exists_opens_of_lt hlt
    rw [hleft] at hdepth
    omega
  · omega

end Builder

/-! ## Sessions -/

/-- In `Except`, what both parts of a sequence keep up to a function, the sequence does. -/
theorem except_bind_eq_map {ε α β γ : Type} {x : Except ε α} {f : α → Except ε γ}
    {g : α → Except ε β} {h : β → γ} (hfg : ∀ a, f a = (g a).map h) :
    (x >>= f) = (x >>= g).map h := by
  cases x with
  | error e => rfl
  | ok a => exact hfg a

namespace Session

variable {σ L : Type} {stage : Stage} {signatures : Signatures} {lower : Lowering σ L}
  {position m : Nat} {i : Instruction} {is : List Instruction} {s : Session σ L}

/-- The session under another limit. -/
def withLimit (s : Session σ L) (m : Nat) : Session σ L :=
  { s with builder := s.builder.withLimit m }

/-- A session ignores a lower limit, as long as the limit allows the scope that the instruction
opens. -/
theorem step_withLimit (hm : m ≤ s.builder.maxNesting)
    (hd : ∀ first second, Builder.Opens i first second → s.builder.depth < m) :
    (s.withLimit m).step stage signatures lower position i =
      (s.step stage signatures lower position i).map (withLimit · m) := by
  have hcontrol : Builder.control stage i (s.withLimit m).builder =
      Builder.limitResult m (Builder.control stage i s.builder) :=
    Builder.ignoresLimit_control hm hd
  unfold step
  cases i.opcode with
  | nop | foreignDcl | foreign | unknown => rfl
  | resourceDcl | customData | stageDcl => exact except_bind_eq_map fun _ => rfl
  | flow =>
    simp only [hcontrol]
    cases Builder.control stage i s.builder <;> rfl
  | sample | view | atomic | plain =>
    exact except_bind_eq_map fun _ => except_bind_eq_map fun _ => rfl

/-- A scope that is not opened ends the run. -/
theorem step_of_opens {first second : String} (h : Builder.Opens i first second)
    (hd : s.builder.maxNesting ≤ s.builder.depth) :
    s.step stage signatures lower position i = .error
      ⟨Location.of position i, .flow i.opcode (.tooDeep s.builder.maxNesting)⟩ := by
  obtain ⟨b', hb⟩ : ∃ b', Builder.control stage i s.builder =
      .error (.tooDeep s.builder.maxNesting) b' :=
    (h.control_eq_error stage hd).imp fun _ => And.left
  have hflow : i.opcode.isControlFlow = true := by
    cases h with
    | beginIf hop | beginLoop hop | beginSwitch hop =>
      rw [hop]
      rfl
  unfold step
  cases hop : i.opcode with
  | flow =>
    simp only [hb, settle]
    rfl
  | _ =>
    rw [hop] at hflow
    cases hflow

/-- No instruction changes the limit, and none leads beyond it. -/
theorem Takes.within {s' : Session σ L} (h : Takes stage signatures lower position s i s')
    (hs : s.builder.maxNesting = m ∧ s.builder.depth ≤ m) :
    s'.builder.maxNesting = m ∧ s'.builder.depth ≤ m := by
  cases h with
  | control _ hc => exact Builder.within_of_control hc hs
  | _ => exact hs

end Session

/-! ## Compilations -/

namespace Compilation

variable {σ L : Type} {C : Compilation σ L} {k m : Nat} {s : Session σ L}

/-- The compilation under another limit. -/
def withLimit (C : Compilation σ L) (m : Nat) : Compilation σ L :=
  { C with options := { C.options with maxNesting := m } }

/-- The instruction at a position opens a scope beyond a limit: it leads deeper, to a depth that is
higher by one. -/
def Exceeds (C : Compilation σ L) (m k : Nat) : Prop :=
  C.program.stage.isSupported = true ∧ ∃ b i b', C.builderAt? k = some b ∧
    C.program.instructions[k]? = some i ∧
    Builder.left (Builder.control C.program.stage i b) = b' ∧
    b.depth < b'.depth ∧ b'.depth = m + 1

/-- The next session is the one that a run of one instruction leads to, if there is one. -/
theorem sessionAt_add_one :
    C.sessionAt (k + 1) = C.sessionAt k >>= fun s =>
      s.run C.program.stage C.signatures C.lower k C.program.instructions[k]?.toList := by
  rw [sessionAt, sessionAt, List.take_add_one, Session.run_append]
  cases hi : C.program.instructions[k]? with
  | none => rfl
  | some i =>
    have hlen : (C.program.instructions.take k).length = k := by
      rw [List.length_take]
      exact Nat.min_eq_left (Nat.le_of_lt (List.getElem?_eq_some_iff.1 hi).1)
    rw [hlen, Nat.zero_add]

/-- Every session has the limit of the compilation, and no more scopes are open than it allows. -/
theorem within_of_sessionAt (h : C.sessionAt k = .ok s) :
    s.builder.maxNesting = C.options.maxNesting ∧ s.builder.depth ≤ C.options.maxNesting := by
  obtain ⟨_, -, hwithin⟩ := Session.run_induction
    (P := fun _ s => s.builder.maxNesting = C.options.maxNesting ∧
      s.builder.depth ≤ C.options.maxNesting)
    (fun _ hs ht => ht.within hs) h ⟨rfl, Nat.zero_le _⟩
  exact hwithin

/-- The builder at a position is that of the session there, as long as the function has not
returned. -/
theorem builderAt?_eq_some_iff {b : Builder L} :
    C.builderAt? k = some b ↔
      ∃ s, C.sessionAt k = .ok s ∧ s.builder.returned = false ∧ s.builder = b := by
  unfold builderAt?
  cases C.sessionAt k with
  | error d => simp
  | ok s => cases hr : s.builder.returned <;> simp [hr]

/-- A compilation that is refused an instruction has no other result. -/
theorem result_of_sessionAt {d : Diagnostic} (hstage : C.program.stage.isSupported = true)
    (h : C.sessionAt k = .error d) : C.result = .error d := by
  have hrun := Session.run_append_of_ended (Session.ended_of_eq_error h)
    (C.program.instructions.drop k)
  rw [List.take_append_drop] at hrun
  refine except_bind_eq_error_iff.2 (.inr ⟨(), except_require_eq_ok_iff.2 hstage, ?_⟩)
  exact except_bind_eq_error_iff.2 (.inl (hrun.trans h))

/-- The result does not depend on the limit that the last session carries. -/
theorem result_eq_of_sessionAt
    (h : (C.withLimit m).sessionAt C.program.instructions.length =
      (C.sessionAt C.program.instructions.length).map (Session.withLimit · m)) :
    (C.withLimit m).result = C.result := by
  have hrun : Session.run C.program.stage C.signatures C.lower 0
      (C.program.instructions.take C.program.instructions.length) (C.withLimit m).start =
      (Session.run C.program.stage C.signatures C.lower 0
        (C.program.instructions.take C.program.instructions.length) C.start).map
          (Session.withLimit · m) := h
  rw [List.take_length] at hrun
  refine congrArg (Bind.bind _) (funext fun _ => ?_)
  show (Session.run C.program.stage C.signatures C.lower 0 C.program.instructions
    (C.withLimit m).start >>= _) = (Session.run C.program.stage C.signatures C.lower 0
      C.program.instructions C.start >>= _)
  rw [hrun]
  cases Session.run C.program.stage C.signatures C.lower 0 C.program.instructions C.start <;> rfl

/-- One instruction is taken in by one step. -/
theorem run_toList_of_some {i : Instruction} (hr : s.builder.returned = false) :
    s.run C.program.stage C.signatures C.lower k (some i).toList =
      s.step C.program.stage C.signatures C.lower k i := by
  rw [Option.toList_some, Session.run, if_neg (by simp [hr])]
  cases s.step C.program.stage C.signatures C.lower k i <;> rfl

/-- Beyond the limit leads what opens a scope where the depth is at the limit. -/
theorem exceeds_iff :
    C.Exceeds m k ↔ C.program.stage.isSupported = true ∧ m < C.options.maxNesting ∧
      ∃ s i first second, C.sessionAt k = .ok s ∧ C.program.instructions[k]? = some i ∧
        s.builder.returned = false ∧ s.builder.depth = m ∧ Builder.Opens i first second := by
  unfold Exceeds
  simp only [builderAt?_eq_some_iff]
  constructor
  · rintro ⟨hstage, _, i, _, ⟨s, hs, hr, rfl⟩, hi, rfl, hlt, hdepth⟩
    obtain ⟨first, second, ho, hlimit, hsucc⟩ := Builder.exists_opens_of_lt hlt
    rw [(within_of_sessionAt hs).1] at hlimit
    exact ⟨hstage, by omega, s, i, first, second, hs, hi, hr, by omega, ho⟩
  · rintro ⟨hstage, hm, s, i, first, second, hs, hi, hr, rfl, ho⟩
    rw [← (within_of_sessionAt hs).1] at hm
    have hsucc := ho.depth_left C.program.stage hm
    exact ⟨hstage, _, i, _, ⟨s, hs, hr, rfl⟩, hi, rfl, by omega, hsucc⟩

/-- An instruction that opens no scope beyond a limit leads to the same session under the limit. -/
theorem next_withLimit (hstage : C.program.stage.isSupported = true)
    (hm : m < C.options.maxNesting) (hs : C.sessionAt k = .ok s) (hdepth : s.builder.depth ≤ m)
    (hk : ¬ C.Exceeds m k) :
    (s.withLimit m).run C.program.stage C.signatures C.lower k C.program.instructions[k]?.toList =
      (s.run C.program.stage C.signatures C.lower k C.program.instructions[k]?.toList).map
        (Session.withLimit · m) := by
  cases hi : C.program.instructions[k]? with
  | none => rfl
  | some i =>
    cases hr : s.builder.returned with
    | true =>
      have hr' : (s.withLimit m).builder.returned = true := hr
      rw [Session.run_of_returned hr, Session.run_of_returned hr']
      rfl
    | false =>
      have hr' : (s.withLimit m).builder.returned = false := hr
      have hlimit : m ≤ s.builder.maxNesting := by
        rw [(within_of_sessionAt hs).1]
        exact Nat.le_of_lt hm
      rw [run_toList_of_some hr, run_toList_of_some hr']
      refine Session.step_withLimit hlimit fun first second ho => ?_
      refine Nat.lt_of_le_of_ne hdepth fun hfull => hk (exceeds_iff.2 ?_)
      exact ⟨hstage, hm, s, i, first, second, hs, hi, hr, hfull, ho⟩

/-- Up to an instruction that opens a scope beyond a limit, a compilation goes through the same
sessions under the limit. -/
theorem sessionAt_withLimit (hstage : C.program.stage.isSupported = true)
    (hm : m < C.options.maxNesting) (h : ∀ j < k, ¬ C.Exceeds m j) :
    (C.withLimit m).sessionAt k = (C.sessionAt k).map (Session.withLimit · m) := by
  induction k with
  | zero => rfl
  | succ k ih =>
    have hk := ih fun j hj => h j (Nat.lt_succ_of_lt hj)
    rw [sessionAt_add_one, sessionAt_add_one, hk]
    cases hs : C.sessionAt k with
    | error d => rfl
    | ok s =>
      rw [hs] at hk
      -- The depth is bounded in the other compilation, and it is the same.
      have hdepth : s.builder.depth ≤ m := (within_of_sessionAt hk).2
      exact next_withLimit (C := C) hstage hm hs hdepth (h k (Nat.lt_succ_self k))

/-- The first instruction that opens a scope beyond a limit is refused under the limit. -/
theorem exists_tooDeep_of_exceeds (hk : C.Exceeds m k) (hfirst : ∀ j < k, ¬ C.Exceeds m j) :
    ∃ i, C.program.instructions[k]? = some i ∧
      (C.withLimit m).result = .error ⟨Location.of k i, .flow i.opcode (.tooDeep m)⟩ := by
  obtain ⟨hstage, hm, s, i, first, second, hs, hi, hr, hdepth, ho⟩ := exceeds_iff.1 hk
  refine ⟨i, hi, result_of_sessionAt (C := C.withLimit m) (k := k + 1) hstage ?_⟩
  have hr' : (s.withLimit m).builder.returned = false := hr
  rw [sessionAt_add_one, sessionAt_withLimit hstage hm hfirst, hs]
  show (s.withLimit m).run C.program.stage C.signatures C.lower k
    C.program.instructions[k]?.toList = _
  rw [hi, run_toList_of_some hr']
  exact Session.step_of_opens ho (Nat.le_of_eq hdepth.symm)

/-- A compilation that opens no scope beyond a limit has the same result under the limit. -/
theorem result_eq_of_not_exceeds (hm : m ≤ C.options.maxNesting) (h : ∀ k, ¬ C.Exceeds m k) :
    (C.withLimit m).result = C.result := by
  by_cases hstage : C.program.stage.isSupported = true
  · rcases Nat.lt_or_eq_of_le hm with hlt | rfl
    · exact result_eq_of_sessionAt (sessionAt_withLimit hstage hlt fun j _ => h j)
    · rfl
  · -- No compilation for the stage takes an instruction in.
    have hrefused (C' : Compilation σ L) (hC : C'.program = C.program) :
        C'.result = .error ⟨{}, .unsupportedStage C.program.stage⟩ := by
      refine except_bind_eq_error_iff.2 (.inl ?_)
      rw [hC, require, if_neg hstage]
      rfl
    rw [hrefused C rfl, hrefused (C.withLimit m) rfl]

/-- Under a lower limit the result is the same or a scope is refused. -/
theorem result_withLimit_cases (hm : m ≤ C.options.maxNesting) :
    ((∀ k, ¬ C.Exceeds m k) ∧ (C.withLimit m).result = C.result) ∨
      ∃ k i, C.Exceeds m k ∧ (∀ j < k, ¬ C.Exceeds m j) ∧
        C.program.instructions[k]? = some i ∧
        (C.withLimit m).result = .error ⟨Location.of k i, .flow i.opcode (.tooDeep m)⟩ := by
  classical
  by_cases hex : ∃ k, C.Exceeds m k
  · have hk := Nat.find_spec hex
    have hfirst (j : Nat) (hj : j < Nat.find hex) : ¬ C.Exceeds m j := Nat.find_min hex hj
    obtain ⟨i, hi, hresult⟩ := exists_tooDeep_of_exceeds hk hfirst
    exact .inr ⟨_, i, hk, hfirst, hi, hresult⟩
  · have hnone := not_exists.1 hex
    exact .inl ⟨hnone, result_eq_of_not_exceeds hm hnone⟩

/-- A lower limit only cuts off. A compilation that opens no scope beyond it has the same result
under it; any other ends, under the lower limit, with a diagnostic at the first instruction that
opens such a scope. So no more scopes are ever open than the limit allows, and what is accepted is
accepted under every higher limit, with the same result. -/
theorem result_withLimit (C : Compilation σ L) {m : Nat} (hm : m ≤ C.options.maxNesting) :
    (((∀ k, ¬ C.Exceeds m k) ∧ (C.withLimit m).result = C.result) ∨
      ∃ k i d, C.Exceeds m k ∧ (∀ j < k, ¬ C.Exceeds m j) ∧
        C.program.instructions[k]? = some i ∧ (C.withLimit m).result = .error d ∧
        d.location = Location.of k i ∧ d.cause.kind = .malformed) ∧
    (∀ k s, C.sessionAt k = .ok s → s.builder.depth ≤ C.options.maxNesting) ∧
    ∀ r, (C.withLimit m).result = .ok r → C.result = .ok r := by
  refine ⟨?_, fun k s hs => (within_of_sessionAt hs).2, fun r hr => ?_⟩
  · obtain hsame | ⟨k, i, hk, hfirst, hi, hresult⟩ := result_withLimit_cases hm
    · exact .inl hsame
    · exact .inr ⟨k, i, _, hk, hfirst, hi, hresult, rfl, rfl⟩
  · obtain ⟨-, hsame⟩ | ⟨_, _, -, -, -, hresult⟩ := result_withLimit_cases hm
    · exact hsame.symm.trans hr
    · rw [hresult] at hr
      cases hr

/-- A shader with a loop in a loop. -/
def nestedLoops : Compilation Unit Instruction where
  program := {
    stage := .pixel
    model := .sm51
    instructions := [
      { opcode := .flow .beginLoop },
      { opcode := .flow .beginLoop, dword := 1 },
      { opcode := .flow .breakOut, dword := 2 },
      { opcode := .flow .endLoop, dword := 3 },
      { opcode := .flow .breakOut, dword := 4 },
      { opcode := .flow .endLoop, dword := 5 },
      { opcode := .flow .ret, dword := 6 }] }
  signatures := ⟨[], []⟩
  lower := .passthrough
  initial := ()
  options := {}

/-- A limit of two loops changes nothing, and a limit of one refuses the inner loop. -/
theorem result_withLimit_nestedLoops :
    (∃ r, (nestedLoops.withLimit 2).result = .ok r ∧ nestedLoops.result = .ok r) ∧
      ∃ d, (nestedLoops.withLimit 1).result = .error d ∧ d.location = ⟨1, 1⟩ ∧
        d.cause.kind = .malformed := by
  constructor
  · obtain ⟨c, final, hr⟩ := exists_result (C := nestedLoops.withLimit 2) (by decide +kernel)
    exact ⟨_, hr, (result_withLimit nestedLoops (m := 2) (by decide)).2.2 _ hr⟩
  · have hinner : nestedLoops.Exceeds 1 1 :=
      ⟨rfl, _, _, _, rfl, rfl, rfl, by decide, by decide⟩
    have houter : ¬ nestedLoops.Exceeds 1 0 := by
      rintro ⟨-, _, _, _, hb, hi, rfl, -, hdepth⟩
      cases hb
      cases hi
      exact absurd hdepth (by decide)
    rcases (result_withLimit nestedLoops (m := 1) (by decide)).1 with
      ⟨hnone, -⟩ | ⟨k, i, d, hk, hfirst, hi, hd, hlocation, hkind⟩
    · exact absurd hinner (hnone 1)
    · -- The inner loop is the first that exceeds the limit.
      have hone : k = 1 := by
        rcases Nat.lt_trichotomy k 1 with hlt | heq | hgt
        · rw [Nat.lt_one_iff.1 hlt] at hk
          exact absurd hk houter
        · exact heq
        · exact absurd hinner (hfirst 1 hgt)
      subst hone
      cases hi
      exact ⟨d, hd, hlocation, hkind⟩

end Compilation

end ShaderFlow
