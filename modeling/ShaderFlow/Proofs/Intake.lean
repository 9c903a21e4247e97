import ShaderFlow.Compile
import ShaderFlow.Proofs.Step

/-!
# What an instruction does to a session

`Session.Takes` lists what a session becomes when it takes in an instruction, by the part that the
instruction concerns: the resources, the interface, the graph, or the graph together with the
resources and the lowering. `Session.step_eq_ok_iff` says that the list is complete.
-/

namespace ShaderFlow

/-- Whether an opcode is lowered: it is neither control flow nor a declaration, and it is
handled. -/
def Opcode.isOrdinary : Opcode → Bool
  | .sample _ | .view _ | .atomic _ | .plain _ => true
  | _ => false

namespace Session

variable {σ L : Type} {stage : Stage} {signatures : Signatures} {lower : Lowering σ L}
  {position : Nat} {i : Instruction} {s s' : Session σ L}

/-- What a session becomes when it takes in one instruction. -/
inductive Takes (stage : Stage) (signatures : Signatures) (lower : Lowering σ L) (position : Nat)
    (s : Session σ L) (i : Instruction) : Session σ L → Prop where
  | nop (hop : i.opcode = .nop) : Takes stage signatures lower position s i s
  | resource {resources : Resources} (hop : i.opcode.isResourceDeclaration = true)
      (h : Resources.declare stage i s.resources = .ok () resources) :
      Takes stage signatures lower position s i { s with resources }
  | interface {interface : Interface} (hop : i.opcode.isStageDeclaration = true)
      (h : Interface.declare stage signatures i s.interface = .ok () interface) :
      Takes stage signatures lower position s i { s with interface }
  | control {builder : Builder L} (hop : i.opcode.isControlFlow = true)
      (h : Builder.control stage i s.builder = .ok () builder) :
      Takes stage signatures lower position s i { s with builder }
  | ordinary {resources : Resources} {value : L} {lowering : σ}
      (hop : i.opcode.isOrdinary = true) (h : Resources.track i s.resources = .ok () resources)
      (hl : lower i (Location.of position i) resources s.lowering = .ok (value, lowering)) :
      Takes stage signatures lower position s i
        { s with builder := s.builder.append value, resources, lowering }

/-- A step that settles leaves the state of a success. -/
theorem settle_eq_ok_iff {ε τ : Type} {location : Location} {cause : ε → Cause}
    {r : EStateM.Result ε τ Unit} {t : τ} : settle location cause r = .ok t ↔ r = .ok () t := by
  cases r with
  | ok _ _ => simp [settle]
  | error _ _ => simp [settle]

/-- A step that is not refused is one of the listed ones. -/
theorem takes_of_step_eq_ok (h : s.step stage signatures lower position i = .ok s') :
    Takes stage signatures lower position s i s' := by
  unfold step at h
  split at h
  case h_1 hop =>
    cases h
    exact .nop hop
  case h_2 op hop | h_3 hop =>
    simp only [except_bind_eq_ok_iff, settle_eq_ok_iff] at h
    obtain ⟨resources, hr, h⟩ := h
    cases h
    exact .resource (by rw [hop]; rfl) hr
  case h_4 op hop =>
    simp only [except_bind_eq_ok_iff, settle_eq_ok_iff] at h
    obtain ⟨interface, hi, h⟩ := h
    cases h
    exact .interface (by rw [hop]; rfl) hi
  case h_5 | h_6 | h_8 => cases h
  case h_7 op hop =>
    simp only [except_bind_eq_ok_iff, settle_eq_ok_iff] at h
    obtain ⟨builder, hb, h⟩ := h
    cases h
    exact .control (by rw [hop]; rfl) hb
  case h_9 op hop | h_10 op hop | h_11 op hop | h_12 op hop =>
    simp only [except_bind_eq_ok_iff, settle_eq_ok_iff] at h
    obtain ⟨resources, hr, ⟨value, lowering⟩, hv, h⟩ := h
    cases h
    exact .ordinary (by rw [hop]; rfl) hr hv

/-- None of the listed steps is refused. -/
theorem Takes.step_eq_ok (h : Takes stage signatures lower position s i s') :
    s.step stage signatures lower position i = .ok s' := by
  cases h with
  | nop hop => simp only [step, hop]
  | resource hop hr =>
    cases hi : i.opcode with
    | resourceDcl | customData =>
      simp only [step, hi, hr, settle]
      rfl
    | _ => simp [hi, Opcode.isResourceDeclaration] at hop
  | interface hop hf =>
    cases hi : i.opcode with
    | stageDcl =>
      simp only [step, hi, hf, settle]
      rfl
    | _ => simp [hi, Opcode.isStageDeclaration] at hop
  | control hop hb =>
    cases hi : i.opcode with
    | flow =>
      simp only [step, hi, hb, settle]
      rfl
    | _ => simp [hi, Opcode.isControlFlow] at hop
  | ordinary hop hr hl =>
    cases hi : i.opcode with
    | sample | view | atomic | plain =>
      simp only [step, hi, hr, settle, except_bind_eq_ok_iff]
      exact ⟨_, rfl, _, hl, rfl⟩
    | _ => simp [hi, Opcode.isOrdinary] at hop

/-- The list is complete. -/
theorem step_eq_ok_iff :
    s.step stage signatures lower position i = .ok s' ↔
      Takes stage signatures lower position s i s' :=
  ⟨takes_of_step_eq_ok, Takes.step_eq_ok⟩

/-- What every step preserves holds after a run, with the number of instructions taken in. -/
theorem run_induction {P : Nat → Session σ L → Prop}
    (hstep : ∀ {k s i s'}, s.builder.returned = false → P k s →
      Takes stage signatures lower k s i s' → P (k + 1) s')
    {is : List Instruction} (h : s.run stage signatures lower position is = .ok s')
    (hs : P position s) : ∃ n ≤ is.length, P (position + n) s' := by
  induction is generalizing position s with
  | nil =>
    cases h
    exact ⟨0, Nat.le_refl 0, hs⟩
  | cons i is ih =>
    rw [run] at h
    split at h
    · cases h
      exact ⟨0, Nat.zero_le _, hs⟩
    · next hr =>
      obtain ⟨s₁, hs₁, h⟩ := except_bind_eq_ok_iff.1 h
      have hnext := hstep (Bool.eq_false_iff.2 hr) hs (step_eq_ok_iff.1 hs₁)
      obtain ⟨n, hn, hP⟩ := ih h hnext
      refine ⟨n + 1, Nat.succ_le_succ hn, ?_⟩
      rw [Nat.add_comm n 1, ← Nat.add_assoc]
      exact hP

end Session

end ShaderFlow
