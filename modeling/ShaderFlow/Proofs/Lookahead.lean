import ShaderFlow.Proofs.Segments

/-!
# How far a compilation looks

A compilation ends at the first instruction that is refused, and at a return outside of all scopes.
It reports a refusal at the place of the instruction (`Session.location_of_step`), so the diagnostic
itself tells how much of the program it depends on. What follows that instruction, or the return,
has no part in the outcome: programs that agree up to there have the same diagnostic or compile to
the same shader (`Program.compile_eq_of_agreesUpTo`).
-/

namespace ShaderFlow

/-! ## Where refusals are reported -/

/-- A fault is reported at the place that it is settled for. -/
theorem location_of_settle {ε τ : Type} {location : Location} {cause : ε → Cause}
    {r : EStateM.Result ε τ Unit} {d : Diagnostic} (h : settle location cause r = .error d) :
    d.location = location := by
  cases r with
  | ok => cases h
  | error =>
    cases h
    rfl

/-- A missing value is reported where the diagnostic says. -/
theorem location_of_orFault {α : Type} {o : Option α} {e d : Diagnostic}
    (h : (orFault o e : Except Diagnostic α) = .error d) : d.location = e.location := by
  cases o with
  | some => cases h
  | none =>
    cases h
    rfl

/-- What a lowering refuses it reports at the place of the instruction. -/
def Lowering.ReportsInPlace {σ L : Type} (lower : Lowering σ L) : Prop :=
  ∀ {i : Instruction} {location : Location} {r : Resources} {t : σ} {d : Diagnostic},
    lower i location r t = .error d → d.location = location

/-- The lowering that keeps instructions as they are refuses nothing. -/
theorem Lowering.reportsInPlace_passthrough : passthrough.ReportsInPlace := by
  intro i location r t d h
  cases h

namespace Resources

variable {r : Resources} {stage : Stage} {atEnd : Location}

/-- A missing thread group is reported at the end of the program. -/
theorem location_of_threadGroupFor {d : Diagnostic} (h : r.threadGroupFor stage atEnd = .error d) :
    d.location = atEnd := by
  unfold threadGroupFor at h
  split at h
  · rcases except_bind_eq_error_iff.1 h with h | ⟨_, -, h⟩
    · exact location_of_orFault h
    · cases h
  · cases h

/-- Where the program ends matters for the diagnostic only. -/
theorem threadGroupFor_at {atEnd' : Location} {group : Option ThreadGroup}
    (h : r.threadGroupFor stage atEnd = .ok group) : r.threadGroupFor stage atEnd' = .ok group := by
  unfold threadGroupFor at h ⊢
  simpa only [apply_ite (· = Except.ok group), except_bind_eq_ok_iff, except_orFault_eq_ok_iff]
    using h

end Resources

namespace Session

variable {σ L : Type} {stage : Stage} {signatures : Signatures} {lower : Lowering σ L}
  {position : Nat} {i : Instruction} {is : List Instruction} {s : Session σ L} {d : Diagnostic}

/-- What is refused in a step is reported at the instruction. -/
theorem location_of_step (hl : lower.ReportsInPlace)
    (h : s.step stage signatures lower position i = .error d) :
    d.location = Location.of position i := by
  unfold step at h
  split at h
  case h_1 => cases h
  case h_2 | h_3 | h_4 | h_7 =>
    rcases except_bind_eq_error_iff.1 h with h | ⟨_, -, h⟩
    · exact location_of_settle h
    · cases h
  case h_5 | h_6 | h_8 =>
    cases h
    rfl
  case h_9 | h_10 | h_11 | h_12 =>
    rcases except_bind_eq_error_iff.1 h with h | ⟨_, -, h⟩
    · exact location_of_settle h
    · rcases except_bind_eq_error_iff.1 h with h | ⟨_, -, h⟩
      · exact hl h
      · cases h

/-- A run that is refused is refused at the place of one of its instructions, and the instructions
up to that one are refused in the same way. -/
theorem exists_take_of_run_eq_error (hl : lower.ReportsInPlace)
    (h : s.run stage signatures lower position is = .error d) :
    ∃ n, d.location.instruction = position + n ∧
      s.run stage signatures lower position (is.take (n + 1)) = .error d := by
  induction is generalizing position s with
  | nil => cases h
  | cons i is ih =>
    rw [run] at h
    split at h
    · cases h
    · next hr =>
      -- The first instruction is refused, or it is taken in and a later one is refused.
      rcases except_bind_eq_error_iff.1 h with hstep | ⟨s₁, hstep, hrest⟩
      · have hlocation := location_of_step hl hstep
        refine ⟨0, congrArg Location.instruction hlocation, ?_⟩
        rw [List.take_succ_cons, run, if_neg hr, hstep]
        rfl
      · obtain ⟨n, hn, htake⟩ := ih hrest
        refine ⟨n + 1, by omega, ?_⟩
        rw [List.take_succ_cons, run, if_neg hr, hstep]
        exact htake

/-! ## Runs that have ended -/

/-- A run has ended with a refusal or with a return. -/
def Ended : Except Diagnostic (Session σ L) → Prop
  | .ok s => s.builder.returned = true
  | .error _ => True

/-- A refusal ends a run. -/
theorem ended_of_eq_error {x : Except Diagnostic (Session σ L)} (h : x = .error d) : Ended x := by
  rw [h]
  trivial

/-- A return ends a run. -/
theorem ended_of_returned {x : Except Diagnostic (Session σ L)} (h : x = .ok s)
    (hr : s.builder.returned = true) : Ended x := by
  rw [h]
  exact hr

/-- A run that has ended takes no notice of what follows. -/
theorem run_append_of_ended (h : Ended (s.run stage signatures lower position is))
    (js : List Instruction) :
    s.run stage signatures lower position (is ++ js) =
      s.run stage signatures lower position is := by
  rw [run_append]
  cases hs : s.run stage signatures lower position is with
  | error d => rfl
  | ok s' =>
    rw [hs] at h
    exact run_of_returned h

end Session

namespace Program

variable {σ L : Type} {p q : Program} {signatures : Signatures} {lower : Lowering σ L}
  {initial : σ} {options : Options} {k : Nat} {s : Session σ L} {d : Diagnostic}

/-- A second program for the same stage and model has the same instructions up to a position, the
one at the position included. -/
structure AgreesUpTo (p q : Program) (k : Nat) : Prop where
  stage : q.stage = p.stage
  model : q.model = p.model
  instructions : ∀ j ≤ k, q.instructions[j]? = p.instructions[j]?

/-- The two programs begin with the same instructions. -/
theorem AgreesUpTo.take (hq : p.AgreesUpTo q k) :
    q.instructions.take (k + 1) = p.instructions.take (k + 1) := by
  refine List.ext_getElem? fun j => ?_
  rw [List.getElem?_take, List.getElem?_take]
  split
  · next hj => exact hq.instructions j (Nat.le_of_lt_succ hj)
  · rfl

/-- Programs that agree up to where the run of one of them has ended have the same run. -/
theorem AgreesUpTo.run_eq (hq : p.AgreesUpTo q k)
    (h : Session.Ended (s.run p.stage signatures lower 0 (p.instructions.take (k + 1)))) :
    s.run q.stage signatures lower 0 q.instructions =
      s.run p.stage signatures lower 0 p.instructions := by
  have hp := Session.run_append_of_ended h (p.instructions.drop (k + 1))
  have hq' := Session.run_append_of_ended h (q.instructions.drop (k + 1))
  rw [List.take_append_drop] at hp
  rw [← hq.take, List.take_append_drop, hq.take] at hq'
  rw [hq.stage, hq', hp]

/-! ## Outcomes -/

/-- A compilation that fails does not know the stage, has been refused an instruction, or misses
something at the end. -/
theorem cases_of_compile_eq_error
    (h : p.compile signatures lower initial options = .error d) :
    (require p.stage.isSupported { location := {}, cause := .unsupportedStage p.stage } :
        Except Diagnostic Unit) = .error d ∨
      (p.stage.isSupported = true ∧
        Session.run p.stage signatures lower 0 p.instructions
          { builder := .start options.maxNesting, lowering := initial } = .error d) ∨
      d.location = Location.atEnd p.instructions := by
  rcases except_bind_eq_error_iff.1 h with h | ⟨_, hstage, h⟩
  · exact .inl h
  rcases except_bind_eq_error_iff.1 h with h | ⟨s, -, h⟩
  · exact .inr (.inl ⟨except_require_eq_ok_iff.1 hstage, h⟩)
  refine .inr (.inr ?_)
  rcases except_bind_eq_error_iff.1 h with h | ⟨graph, -, h⟩
  · exact location_of_orFault h
  rcases except_bind_eq_error_iff.1 h with h | ⟨group, -, h⟩
  · exact Resources.location_of_threadGroupFor h
  · cases h

/-- A refusal stays the same whatever follows the refused instruction. -/
theorem AgreesUpTo.compile_eq_error (hl : lower.ReportsInPlace)
    (hq : p.AgreesUpTo q d.location.instruction)
    (hd : d.location.instruction < p.instructions.length)
    (h : p.compile signatures lower initial options = .error d) :
    q.compile signatures lower initial options = .error d := by
  rcases cases_of_compile_eq_error h with hstage | ⟨hsup, hrun⟩ | hend
  · unfold compile
    rw [hq.stage, hstage]
    rfl
  · obtain ⟨n, hn, htake⟩ := Session.exists_take_of_run_eq_error hl hrun
    rw [Nat.zero_add] at hn
    have hended := Session.ended_of_eq_error htake
    rw [← hn] at hended
    have hrun' := (hq.run_eq hended).trans hrun
    rw [← hq.stage] at hsup
    refine except_bind_eq_error_iff.2 (.inr ⟨(), except_require_eq_ok_iff.2 hsup, ?_⟩)
    exact except_bind_eq_error_iff.2 (.inl hrun')
  · rw [hend] at hd
    exact absurd hd (Nat.lt_irrefl _)

/-- A program that compiles has a return outside of all scopes, and its run has ended there. -/
theorem exists_returnAt?_of_compile {c : CompiledShader L} {final : σ}
    (h : p.compile signatures lower initial options = .ok (c, final)) :
    ∃ k, p.returnAt? = some k ∧
      Session.Ended (Session.run p.stage signatures lower 0 (p.instructions.take (k + 1))
        { builder := .start options.maxNesting, lowering := initial }) := by
  obtain ⟨H, -⟩ := Compilation.exists_history (C := ⟨p, signatures, lower, initial, options⟩) h
  obtain ⟨k, hk⟩ := H.exists_last
  refine ⟨k, H.returnAt?_eq hk, ?_⟩
  rw [hk]
  exact Session.ended_of_returned (H.sessionAt_eq (Nat.le_refl _)) H.returned

/-- A compiled program stays the same whatever follows its return. -/
theorem AgreesUpTo.compile_eq_ok {c : CompiledShader L} {final : σ} (hq : p.AgreesUpTo q k)
    (hk : p.returnAt? = some k) (h : p.compile signatures lower initial options = .ok (c, final)) :
    q.compile signatures lower initial options = .ok (c, final) := by
  obtain ⟨_, hk', hended⟩ := exists_returnAt?_of_compile h
  cases hk'.symm.trans hk
  have hrun := hq.run_eq hended
  rw [hq.stage] at hrun
  -- Both programs lead to one session, and the rest looks at the session, the stage and the model.
  unfold compile at h ⊢
  rw [hq.stage, hq.model]
  simp only [except_bind_eq_ok_iff, except_orFault_eq_ok_iff] at h ⊢
  obtain ⟨_, hstage, s, hs, graph, hg, group, hgroup, hc⟩ := h
  exact ⟨_, hstage, s, hrun.trans hs, graph, hg, group, Resources.threadGroupFor_at hgroup, hc⟩

/-- How a program compiles is decided by the instructions up to the one that is refused, or up to
the return: no program that agrees with it so far compiles differently. -/
theorem compile_eq_of_agreesUpTo (p : Program) (signatures : Signatures) (options : Options) :
    (∀ d, p.compile signatures .passthrough () options = .error d →
      d.location.instruction < p.instructions.length →
      ∀ q, p.AgreesUpTo q d.location.instruction →
        q.compile signatures .passthrough () options = .error d) ∧
    (∀ c, p.compile signatures .passthrough () options = .ok (c, ()) →
      ∃ k, p.returnAt? = some k ∧ ∀ q, p.AgreesUpTo q k →
        q.compile signatures .passthrough () options = .ok (c, ())) := by
  constructor
  · intro d h hd q hq
    exact hq.compile_eq_error Lowering.reportsInPlace_passthrough hd h
  · intro c h
    obtain ⟨k, hk, -⟩ := exists_returnAt?_of_compile h
    exact ⟨k, hk, fun q hq => hq.compile_eq_ok hk h⟩

/-- Programs that differ in what stands behind a position agree up to there. -/
theorem agreesUpTo_append {stage : Stage} {model : ShaderModel} {is js js' : List Instruction}
    (hk : k < is.length) : AgreesUpTo ⟨stage, model, is ++ js⟩ ⟨stage, model, is ++ js'⟩ k where
  stage := rfl
  model := rfl
  instructions j hj := by
    have hlt : j < is.length := Nat.lt_of_le_of_lt hj hk
    rw [List.getElem?_append_left hlt, List.getElem?_append_left hlt]

/-- A compute shader that begins with a use of a view which is not declared. -/
def strayUse (rest : List Instruction) : Program where
  stage := .compute
  model := .sm51
  instructions := [
    { opcode := .resourceDcl .threadGroup, declaration := some (.threadGroup 8 8 1) },
    { opcode := .flow .beginLoop },
    { opcode := .view .ldRaw, operands := [.register .unorderedAccessView (.d1 0)], dword := 5 }]
    ++ rest

/-- A pixel shader that begins with all that a shader needs. -/
def wholeShader (rest : List Instruction) : Program where
  stage := .pixel
  model := .sm51
  instructions := [
    { opcode := .resourceDcl .temps, declaration := some (.temps 2) },
    { opcode := .flow .beginIf, operands := [.register .temp (.d1 0)] },
    { opcode := .flow .discard, operands := [.register .temp (.d1 1)] },
    { opcode := .flow .endIf },
    { opcode := .plain .mov },
    { opcode := .flow .ret }]
    ++ rest

/-- An instruction that is not defined and the end of a scope that is not open. -/
def malformedRest : List Instruction := [{ opcode := .unknown 999 }, { opcode := .flow .endSwitch }]

/-- Neither program is compiled differently for what is put behind the part that decides. -/
theorem compile_malformedRest :
    (∃ d, (strayUse [{ opcode := .flow .endLoop }]).compile ⟨[], []⟩ .passthrough () {} = .error d ∧
      d.location = ⟨2, 5⟩ ∧
      (strayUse malformedRest).compile ⟨[], []⟩ .passthrough () {} = .error d) ∧
    (∃ c, (wholeShader []).compile ⟨[], []⟩ .passthrough () {} = .ok (c, ()) ∧
      (wholeShader []).returnAt? = some 5 ∧
      (wholeShader malformedRest).compile ⟨[], []⟩ .passthrough () {} = .ok (c, ())) := by
  constructor
  · have hstray : ∃ d, (strayUse [{ opcode := .flow .endLoop }]).compile ⟨[], []⟩ .passthrough ()
        {} = .error d ∧ d.location = ⟨2, 5⟩ := ⟨_, rfl, rfl⟩
    obtain ⟨d, hd, hlocation⟩ := hstray
    have htwo : d.location.instruction = 2 := congrArg Location.instruction hlocation
    refine ⟨d, hd, hlocation, ?_⟩
    refine (compile_eq_of_agreesUpTo _ _ _).1 d hd ?_ _ ?_
    · rw [htwo]
      decide
    · rw [htwo]
      exact agreesUpTo_append (by decide)
  · obtain ⟨c, ⟨⟩, hc⟩ := Compilation.exists_result
      (C := ⟨wholeShader [], ⟨[], []⟩, .passthrough, (), {}⟩) (by decide +kernel)
    have hfive : (wholeShader []).returnAt? = some 5 := by decide
    obtain ⟨k, hk, hq⟩ := (compile_eq_of_agreesUpTo _ _ _).2 c hc
    cases hfive.symm.trans hk
    exact ⟨c, hc, hfive, hq _ (agreesUpTo_append (by decide))⟩

end Program

end ShaderFlow
