import Mathlib.Algebra.Group.Nat.Defs
import ShaderFlow.Proofs.Layout

/-!
# Compiling the tokens of a tree

Legal code followed by a return compiles to the graph that `Body.lay` gives by recursion on the
tree. A compilation may refuse such a program, but not for its control flow, unless that has more
blocks than there are ids: else it is refused exactly if the program without the control flow is.
For this, reading a program is split into what concerns the graph (`Builder.Reads`) and what
concerns the declarations (`Session.Declares`).
-/

namespace ShaderFlow

namespace Builder

variable {L : Type} {stage : Stage} {value : Instruction → Option L}
  {b b₁ b₂ : Builder L} {i : Instruction} {is is' js js' : List Instruction}

/-- An instruction that has one value to put is taken in in one way. -/
theorem Takes.unique (h₁ : Takes stage (.of value) b i b₁) (h₂ : Takes stage (.of value) b i b₂) :
    b₁ = b₂ := by
  cases h₁ with
  | control h₁ => exact h₁.unique (h₂.step h₁.isControlFlow)
  | put hi hv =>
    cases h₂ with
    | control h₂ =>
      rw [h₂.isControlFlow] at hi
      cases hi
    | put _ hv' =>
      cases hv.trans hv'.symm
      rfl
    | skip _ hv' => cases hv.trans hv'.symm
  | skip hi hv =>
    cases h₂ with
    | control h₂ =>
      rw [h₂.isControlFlow] at hi
      cases hi
    | put _ hv' => cases hv.trans hv'.symm
    | skip => rfl

/-- Reading ends at one point of a list, if it ends with a return. -/
theorem Reads.unique (h₁ : Reads stage (.of value) b is b₁) (hr₁ : b₁.returned = true)
    (h₂ : Reads stage (.of value) b js b₂) (hr₂ : b₂.returned = true)
    (heq : is ++ is' = js ++ js') : is = js ∧ b₁ = b₂ := by
  induction h₁ generalizing js with
  | nil =>
    cases h₂ with
    | nil => exact ⟨rfl, rfl⟩
    | cons hr =>
      rw [hr₁] at hr
      cases hr
  | cons hr ht _ ih =>
    cases h₂ with
    | nil =>
      rw [hr] at hr₂
      cases hr₂
    | cons _ ht' h₂ =>
      injection heq with hi heq
      subst hi
      cases ht.unique ht'
      obtain ⟨rfl, rfl⟩ := ih hr₁ h₂ heq
      exact ⟨rfl, rfl⟩

end Builder

/-! ## Declarations -/

namespace Session

variable {stage : Stage} {signatures : Signatures} {position position' : Nat} {i : Instruction}
  {is : List Instruction} {s s' t : Session Unit Instruction} {a a' : Resources × Interface}
  {b : Builder Instruction}

/-- What has been declared and used. -/
def tables (s : Session Unit Instruction) : Resources × Interface := (s.resources, s.interface)

/-- Control flow is carried out by the builder alone. -/
theorem step_eq_ok_iff_control (hi : i.opcode.isControlFlow = true) :
    s.step stage signatures .passthrough position i = .ok s' ↔
      ∃ b, Builder.control stage i s.builder = .ok () b ∧ { s with builder := b } = s' := by
  rcases hop : i.opcode with op | _ | _ | _ | _ | _ | _ | _ | _ | _ | _ | _
  case flow =>
    simp only [step, hop, except_bind_eq_ok_iff, settle_eq_ok_iff]
    refine exists_congr fun b => and_congr_right fun _ => ?_
    exact ⟨fun h => Except.ok.inj h, fun h => congrArg Except.ok h⟩
  all_goals simp [hop, Opcode.isControlFlow] at hi

/-- Whether an instruction that is no control flow is refused, and what it declares, depends on what
has been declared only. -/
theorem step_agree (hi : i.opcode.isControlFlow = false) (ht : t.tables = s.tables)
    (h : s.step stage signatures .passthrough position i = .ok s') :
    ∃ t', t.step stage signatures .passthrough position' i = .ok t' ∧ t'.tables = s'.tables := by
  obtain ⟨hres, hint⟩ := Prod.mk.inj ht
  unfold step at h
  split at h
  case h_1 hop =>
    cases h
    exact ⟨t, by simp only [step, hop], ht⟩
  case h_2 op hop | h_3 hop =>
    obtain ⟨r, hr, h⟩ := except_bind_eq_ok_iff.1 h
    cases h
    rw [settle_eq_ok_iff, ← hres] at hr
    refine ⟨{ t with resources := r }, ?_, congrArg (Prod.mk r) hint⟩
    simp only [step, hop, except_bind_eq_ok_iff, settle_eq_ok_iff]
    exact ⟨r, hr, rfl⟩
  case h_4 op hop =>
    obtain ⟨f, hf, h⟩ := except_bind_eq_ok_iff.1 h
    cases h
    rw [settle_eq_ok_iff, ← hint] at hf
    refine ⟨{ t with interface := f }, ?_, congrArg (fun r => (r, f)) hres⟩
    simp only [step, hop, except_bind_eq_ok_iff, settle_eq_ok_iff]
    exact ⟨f, hf, rfl⟩
  case h_5 | h_6 | h_8 => cases h
  case h_7 op hop => simp [hop, Opcode.isControlFlow] at hi
  case h_9 op hop | h_10 op hop | h_11 op hop | h_12 op hop =>
    obtain ⟨r, hr, h⟩ := except_bind_eq_ok_iff.1 h
    cases h
    rw [settle_eq_ok_iff, ← hres] at hr
    refine ⟨{ t with builder := t.builder.append i, resources := r }, ?_,
      congrArg (Prod.mk r) hint⟩
    simp only [step, hop, except_bind_eq_ok_iff, settle_eq_ok_iff]
    exact ⟨r, hr, (i, ()), rfl, rfl⟩

/-- A session has the builder that its instruction was read with, if all blocks have ids. -/
theorem builder_of_step (h : s.step stage signatures .passthrough position i = .ok s')
    (ht : Builder.Takes stage (.of Instruction.ordinary?) s.builder i b)
    (hfit : b.graph.size ≤ UInt32.size) : s'.builder = b := by
  have hfit' : s'.builder.graph.size ≤ UInt32.size := by
    cases step_eq_ok_iff.1 h with
    | nop | resource | interface => exact Nat.le_trans ht.size_le.1 hfit
    | control hi hc =>
      have hok : Builder.control stage i s.builder = .ok () b :=
        (ht.step hi).control hfit
      cases hc.symm.trans hok
      exact hfit
    | ordinary =>
      rw [Builder.append, Graph.size_push]
      exact Nat.le_trans ht.size_le.1 hfit
  exact (takes_of_step lowers_passthrough h hfit').unique ht

/-- What a list of instructions declares, with its control flow left out of account. -/
inductive Declares (stage : Stage) (signatures : Signatures) :
    Resources × Interface → List Instruction → Resources × Interface → Prop where
  | nil {a : Resources × Interface} : Declares stage signatures a [] a
  | control {a a' : Resources × Interface} {i : Instruction} {is : List Instruction}
      (hi : i.opcode.isControlFlow = true) (h : Declares stage signatures a is a') :
      Declares stage signatures a (i :: is) a'
  | other {a a' : Resources × Interface} {i : Instruction} {is : List Instruction}
      {position : Nat} {s s' : Session Unit Instruction} (hi : i.opcode.isControlFlow = false)
      (ha : a = s.tables) (hs : s.step stage signatures .passthrough position i = .ok s')
      (h : Declares stage signatures s'.tables is a') : Declares stage signatures a (i :: is) a'

/-- Instructions that are taken in declare what is declared afterwards. -/
theorem declares_of_run (h : s.run stage signatures .passthrough position is = .ok s')
    (hread : Builder.Reads stage (.of Instruction.ordinary?) s.builder is b)
    (hfit : b.graph.size ≤ UInt32.size) : Declares stage signatures s.tables is s'.tables := by
  induction is generalizing position s with
  | nil =>
    cases h
    exact .nil
  | cons i is ih =>
    cases hread with
    | cons hr ht hread =>
      rw [run, if_neg (Bool.eq_false_iff.1 hr)] at h
      obtain ⟨s₁, hs, h⟩ := except_bind_eq_ok_iff.1 h
      cases builder_of_step hs ht (Nat.le_trans hread.size_le.1 hfit)
      cases hi : i.opcode.isControlFlow with
      | false => exact .other hi rfl hs (ih h hread)
      | true =>
        obtain ⟨b₁, -, rfl⟩ := (step_eq_ok_iff_control hi).1 hs
        have h' := ih h hread
        exact .control hi h'

/-- Instructions that the builder reads are taken in if their declarations are. -/
theorem run_of_declares (position : Nat) (h : Declares stage signatures s.tables is a')
    (hread : Builder.Reads stage (.of Instruction.ordinary?) s.builder is b)
    (hfit : b.graph.size ≤ UInt32.size) :
    ∃ s', s.run stage signatures .passthrough position is = .ok s' ∧ s'.builder = b ∧
      s'.tables = a' := by
  induction is generalizing position s with
  | nil =>
    cases h
    cases hread
    exact ⟨s, rfl, rfl, rfl⟩
  | cons i is ih =>
    cases hread with
    | @cons _ b₁ _ _ _ hr ht hread =>
      simp only [run, if_neg (Bool.eq_false_iff.1 hr), except_bind_eq_ok_iff]
      have hfit₁ := Nat.le_trans hread.size_le.1 hfit
      cases h with
      | control hi h =>
        obtain ⟨s', h', hb, hs'⟩ := ih (s := { s with builder := b₁ }) _ h hread
        have hok := (ht.step hi).control hfit₁
        exact ⟨s', ⟨_, (step_eq_ok_iff_control hi).2 ⟨b₁, hok, rfl⟩, h'⟩, hb, hs'⟩
      | other hi ha hs h =>
        obtain ⟨s₁, hs₁, hs₁'⟩ := step_agree hi ha hs
        cases builder_of_step hs₁ ht hfit₁
        rw [← hs₁'] at h
        obtain ⟨s', h', hb, hs'⟩ := ih _ h hread
        exact ⟨s', ⟨s₁, hs₁, h'⟩, hb, hs'⟩

/-- Without its control flow, a list declares the same. -/
theorem declares_filter_iff :
    Declares stage signatures a (is.filter fun i => !i.opcode.isControlFlow) a' ↔
      Declares stage signatures a is a' := by
  induction is generalizing a with
  | nil => exact Iff.rfl
  | cons i is ih =>
    cases hi : i.opcode.isControlFlow with
    | true =>
      rw [List.filter_cons_of_neg (by simp [hi]), ih]
      refine ⟨.control hi, fun h => ?_⟩
      cases h with
      | control _ h => exact h
      | other hi' => cases hi.symm.trans hi'
    | false =>
      rw [List.filter_cons_of_pos (by simp [hi])]
      constructor
      all_goals
        intro h
        cases h with
        | control hi' => cases hi.symm.trans hi'
        | other _ ha hs h => exact .other hi ha hs (by simpa only [ih] using h)

/-- Lists with the same instructions besides control flow declare the same. -/
theorem declares_congr {js : List Instruction}
    (h : is.filter (fun i => !i.opcode.isControlFlow) =
      js.filter fun i => !i.opcode.isControlFlow) :
    Declares stage signatures a is a' ↔ Declares stage signatures a js a' := by
  rw [← declares_filter_iff, h, declares_filter_iff]

end Session

/-! ## Compilations -/

/-- A thread group is missing in compute shaders only. -/
theorem Resources.exists_threadGroupFor_iff {r : Resources} {stage : Stage} {atEnd : Location} :
    (∃ group, r.threadGroupFor stage atEnd = .ok group) ↔
      (stage = .compute → r.threadGroup ≠ none) := by
  unfold threadGroupFor
  by_cases hc : stage = .compute
  · cases r.threadGroup with
    | none => simp [hc, orFault, bind, Except.bind, throw, throwThe, MonadExceptOf.throw]
    | some group => simp [hc, orFault, bind, Except.bind, pure, Except.pure]
  · simp [hc, pure, Except.pure]

namespace Program

variable {stage : Stage} {model : ShaderModel} {signatures : Signatures} {options : Options}
  {is : List Instruction} {b : Builder Instruction}

/-- A program that the builder reads to the end, with ids for all blocks, compiles if its stage is
supported and its declarations are in order. -/
theorem exists_compile_iff
    (hread : Builder.Reads stage (.of Instruction.ordinary?) (.start options.maxNesting) is b)
    (hr : b.returned = true) (hfit : b.graph.size ≤ UInt32.size) :
    (∃ c, compile ⟨stage, model, is⟩ signatures .passthrough () options = .ok (c, ())) ↔
      stage.isSupported = true ∧ ∃ a : Resources × Interface,
        Session.Declares stage signatures ({}, {}) is a ∧
          (stage = .compute → a.1.threadGroup ≠ none) := by
  unfold compile
  simp only [except_bind_eq_ok_iff, except_require_eq_ok_iff]
  constructor
  · rintro ⟨c, _, hsup, s, hs, graph, -, group, hgroup, -⟩
    exact ⟨hsup, s.tables, Session.declares_of_run hs hread hfit,
      Resources.exists_threadGroupFor_iff.1 ⟨group, hgroup⟩⟩
  · rintro ⟨hsup, a, ha, hgroup⟩
    obtain ⟨s, hs, rfl, rfl⟩ := Session.run_of_declares 0
      (s := { builder := .start options.maxNesting, lowering := () }) ha hread hfit
    obtain ⟨group, hgroup⟩ := Resources.exists_threadGroupFor_iff.2 hgroup
    exact ⟨_, (), hsup, s, hs, s.builder.graph, by simp [Builder.finish?, hr, orFault]; rfl, group,
      hgroup, rfl⟩

/-- A program that the builder reads to the end compiles to the graph of the builder, and only if
all blocks have ids. -/
theorem graph_of_compile {c : CompiledShader Instruction}
    (hread : Builder.Reads stage (.of Instruction.ordinary?) (.start options.maxNesting) is b)
    (hr : b.returned = true)
    (hc : compile ⟨stage, model, is⟩ signatures .passthrough () options = .ok (c, ())) :
    c.graph = b.graph ∧ b.graph.size ≤ UInt32.size := by
  obtain ⟨s, hs, hr', hgraph, hfit⟩ := run_of_compile hc
  obtain ⟨done, rest, hi, hdone, -⟩ := Session.reads_of_run Session.lowers_passthrough hs hfit
  obtain ⟨-, rfl⟩ := hread.unique hr hdone hr' ((List.append_nil _).trans hi)
  exact ⟨hgraph, hfit⟩

/-- Of two programs that the builder reads to the end, and that differ in their control flow only,
both compile or none. -/
theorem exists_compile_congr (model : ShaderModel) (signatures : Signatures)
    {js : List Instruction} {b' : Builder Instruction}
    (hread : Builder.Reads stage (.of Instruction.ordinary?) (.start options.maxNesting) is b)
    (hr : b.returned = true) (hfit : b.graph.size ≤ UInt32.size)
    (hread' : Builder.Reads stage (.of Instruction.ordinary?) (.start options.maxNesting) js b')
    (hr' : b'.returned = true) (hfit' : b'.graph.size ≤ UInt32.size)
    (h : is.filter (fun i => !i.opcode.isControlFlow) =
      js.filter fun i => !i.opcode.isControlFlow) :
    (∃ c, compile ⟨stage, model, is⟩ signatures .passthrough () options = .ok (c, ())) ↔
      ∃ c, compile ⟨stage, model, js⟩ signatures .passthrough () options = .ok (c, ()) := by
  rw [exists_compile_iff hread hr hfit, exists_compile_iff hread' hr' hfit']
  refine and_congr_right fun _ => exists_congr fun a => and_congr_left fun _ => ?_
  exact Session.declares_congr h

end Program

/-- Instructions without control flow are code that is legal everywhere. -/
theorem Body.exists_straight {is : List Instruction}
    (h : ∀ i ∈ is, i.opcode.isControlFlow = false) :
    ∃ t : Body, t.tokens = is ∧ ∀ stage limit kinds, t.Legal stage limit kinds := by
  induction is with
  | nil => exact ⟨.nil, rfl, fun _ _ _ => trivial⟩
  | cons i is ih =>
    obtain ⟨hi, his⟩ := List.forall_mem_cons.1 h
    obtain ⟨t, rfl, ht⟩ := ih his
    exact ⟨.straight ⟨i, hi⟩ t, rfl, ht⟩

/-- What is left of code without its control flow, and a return behind it, is read without a new
block. -/
theorem Builder.exists_reads_straight (stage : Stage) (limit : Nat) (is : List Instruction)
    (r : Token .ret) :
    ∃ b, Reads stage (.of Instruction.ordinary?) (.start limit)
      (is.filter (fun i => !i.opcode.isControlFlow) ++ [r.instruction]) b ∧ b.returned = true ∧
        b.graph.size ≤ UInt32.size := by
  have hstraight : ∀ i ∈ is.filter (fun i => !i.opcode.isControlFlow),
      i.opcode.isControlFlow = false := by
    intro i hi
    simpa using (List.mem_filter.1 hi).2
  obtain ⟨t, ht, hlegal⟩ := Body.exists_straight hstraight
  obtain ⟨b, hread, hr, -, hsize⟩ :=
    reads_function Instruction.ordinary? (hlegal stage limit []) r
  rw [ht] at hread hsize
  rw [allocated_eq_zero hstraight] at hsize
  exact ⟨b, hread, hr, hsize ▸ (by decide)⟩

/-- **Compiling is translating the tree.** The graph of a program made of legal code and a return is
the one that the code is laid out to, block for block. Such a program compiles if the program that
is left of it without its control flow compiles and all its blocks have ids; an instruction
allocates two blocks at most. -/
theorem Program.graph_eq_of_legal {t : Body} {stage : Stage} {options : Options}
    (h : t.Legal stage options.maxNesting []) (r : Token .ret) (model : ShaderModel)
    (signatures : Signatures) :
    (∀ c, compile ⟨stage, model, t.tokens ++ [r.instruction]⟩ signatures .passthrough () options =
        .ok (c, ()) → c.graph = t.graph Instruction.ordinary?) ∧
    ((∃ c, compile ⟨stage, model, t.tokens ++ [r.instruction]⟩ signatures .passthrough () options =
        .ok (c, ())) ↔
      (t.graph Instruction.ordinary?).size ≤ 2 ^ 32 ∧
      ∃ c, compile ⟨stage, model,
          t.tokens.filter (fun i => !i.opcode.isControlFlow) ++ [r.instruction]⟩
        signatures .passthrough () options = .ok (c, ())) ∧
    (t.graph Instruction.ordinary?).size ≤ 2 + 2 * t.tokens.length := by
  obtain ⟨b, hread, hr, hgraph, hsize⟩ := Builder.reads_function Instruction.ordinary? h r
  obtain ⟨b', hread', hr', hfit'⟩ :=
    Builder.exists_reads_straight stage options.maxNesting t.tokens r
  -- Without its control flow a program has ids for its blocks, so only the other one may lack them.
  have hsame (hfit : b.graph.size ≤ UInt32.size) :=
    exists_compile_congr model signatures hread hr hfit hread' hr' hfit'
      (by simp only [List.filter_append, List.filter_filter, Bool.and_self])
  refine ⟨fun c hc => (graph_of_compile hread hr hc).1.trans hgraph, ?_, ?_⟩
  · rw [← hgraph]
    constructor
    · rintro ⟨c, hc⟩
      obtain ⟨-, hfit⟩ := graph_of_compile hread hr hc
      exact ⟨hfit, (hsame hfit).1 ⟨c, hc⟩⟩
    · rintro ⟨hfit, hc⟩
      exact (hsame hfit).2 hc
  · rw [← hgraph, hsize]
    exact Nat.add_le_add_left (allocated_le _) 2

/-! ### An example -/

/-- The bare instruction with a control-flow opcode. -/
def Token.of (op : FlowOp) : Token op := ⟨{ opcode := .flow op }, rfl⟩

/-- The instruction with a control-flow opcode and one operand. -/
def OperandToken.of (op : FlowOp) (operand : Operand) : OperandToken op :=
  ⟨⟨{ opcode := .flow op, operands := [operand] }, rfl⟩, operand, rfl⟩

/-- The `case` label with a value. -/
def CaseToken.of (value : UInt32) : CaseToken :=
  ⟨.of .caseLabel (.scalar value), ⟨rfl, rfl⟩⟩

/-- A loop around a switch in which a case discards and falls through to the default, which tests
whether to return or to go on with the next round. -/
def nestedBody : Body :=
  let r := Operand.register .temp (.d1 0)
  .loop (.of _)
    (.switch (.of _ r)
      (.caseLabel (.of 3) (.discard (.of _ r)
        (.defaultLabel (.of _)
          (.branchElse (.of _ r) (.leave .ret (.of _) .nil) (.of _)
            (.leave .continueLoop (.of _) (.straight ⟨{ opcode := .nop }, rfl⟩ .nil)) (.of _)
            (.leave .breakOut (.of _) .nil)))))
      (.of _) (.leaveIf .breakOut (.of _ r) .nil))
    (.of _) .nil

/-- The example is legal and compiles to the graph that it is laid out to. -/
theorem graph_nestedBody :
    nestedBody.Legal .pixel 3 [] ∧
      ∃ c, Program.compile ⟨.pixel, .sm51, nestedBody.tokens ++ [(Token.of .ret).instruction]⟩
        ⟨[], []⟩ .passthrough () { maxNesting := 3 } = .ok (c, ()) ∧
        c.graph = nestedBody.graph Instruction.ordinary? := by
  have hlegal : nestedBody.Legal .pixel 3 [] := by decide
  obtain ⟨c, hc⟩ : ∃ c, Program.compile
      ⟨.pixel, .sm51, nestedBody.tokens ++ [(Token.of .ret).instruction]⟩ ⟨[], []⟩
      .passthrough () { maxNesting := 3 } = .ok (c, ()) := ⟨_, rfl⟩
  exact ⟨hlegal, c, hc, (Program.graph_eq_of_legal hlegal _ _ _).1 c hc⟩

end ShaderFlow
