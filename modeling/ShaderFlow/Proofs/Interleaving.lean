import ShaderFlow.Proofs.Streams

/-!
# Interleaving

How the streams of a program are interleaved makes no difference, as long as the program is
accepted, and neither do neutral instructions or what stands behind the return: two programs with
the same streams compile to the same result (`Program.eq_of_stream_eq`).
-/

namespace ShaderFlow

namespace Program

/-- The instructions of a program up to its return. What follows is not looked at. -/
def function (p : Program) : List Instruction :=
  match p.returnAt? with
  | some n => p.instructions.take (n + 1)
  | none => []

/-- The instructions that belong to a stream, in order. -/
def stream (p : Program) (st : Stream) : List Instruction :=
  p.function.filter (Instruction.isIn st)

end Program

/-- What is lowered belongs to the code. -/
theorem Instruction.isIn_of_isLowered {i : Instruction} (h : i.opcode.isLowered = true) :
    i.isIn .code = true := by
  cases hop : i.opcode with
  | nop | customData | resourceDcl | stageDcl | foreignDcl | flow =>
    simp [hop, Opcode.isLowered, Opcode.isDeclaration, Opcode.isControlFlow] at h
  | _ => simp [isIn, isNeutral, hop, Opcode.stream]

/-- Declarations and uses determine the resources. -/
theorem Resources.Marked.unique {stage : Stage} {ds us : List Instruction}
    {base base' r r' : Resources} (h : Marked stage ds us base r)
    (h' : Marked stage ds us base' r') : r = r' := by
  have hbase : base = base' := by
    cases h.declared.symm.trans h'.declared
    rfl
  rw [h.marked, h'.marked, hbase]

namespace Compilation.History

variable {σ L : Type} {C : Compilation σ L}

/-- What a history has read of a stream is what the program has of it up to the return. -/
theorem select_length (H : C.History) (st : Stream) :
    C.program.select (Instruction.isIn st) H.length = C.program.stream st := by
  obtain ⟨n, hn⟩ := H.exists_last
  rw [Program.stream, Program.function, returnAt?_eq hn, ← hn]
  rfl

/-- What is lowered is code. -/
theorem select_isLowered (H : C.History) :
    C.program.select (·.opcode.isLowered) H.length =
      (C.program.stream .code).filter (·.opcode.isLowered) := by
  rw [← H.select_length, Program.select, Program.select, List.filter_filter]
  refine List.filter_congr fun i _ => ?_
  cases hl : i.opcode.isLowered with
  | true => rw [Instruction.isIn_of_isLowered hl, Bool.true_and]
  | false => rw [Bool.false_and]

end Compilation.History

namespace Program

variable {p q : Program} {signatures : Signatures} {options : Options}
  {c d : CompiledShader Instruction}

/-- What the streams of an accepted program leave is what its result is put together from. -/
theorem exists_parts (h : p.compile signatures .passthrough () options = .ok (c, ())) :
    ∃ (s : Session Unit Instruction) (base : Resources), c = s.shader p ∧
      Resources.Marked p.stage (p.stream .resources)
        ((p.stream .code).filter (·.opcode.isLowered)) base s.resources ∧
      Interface.declareAll p.stage signatures (p.stream .interface) {} = .ok () s.interface ∧
      Builder.Reads p.stage (.of Instruction.ordinary?) (.start options.maxNesting)
        (p.stream .code) s.builder ∧ s.builder.returned = true := by
  let C : Compilation Unit Instruction := ⟨p, signatures, .passthrough, (), options⟩
  obtain ⟨H, hc, -⟩ := Compilation.exists_outcome (C := C) h
  obtain ⟨base, hmarked⟩ := H.marked (Nat.le_refl _)
  have hdeclares := H.declares (Nat.le_refl _)
  have hreads := H.reads Session.lowers_passthrough (Nat.le_refl _)
  rw [H.select_length, H.select_isLowered] at hmarked
  rw [H.select_length] at hdeclares hreads
  exact ⟨H.session H.length, base, hc, hmarked, hdeclares, hreads, H.returned⟩

/-- Two programs of one stage and model that are both accepted, and that have the same streams, have
the same result. -/
theorem eq_of_stream_eq (hstage : p.stage = q.stage) (hmodel : p.model = q.model)
    (hstream : ∀ st, p.stream st = q.stream st)
    (hp : p.compile signatures .passthrough () options = .ok (c, ()))
    (hq : q.compile signatures .passthrough () options = .ok (d, ())) : c = d := by
  obtain ⟨s, base, rfl, hmarked, hdeclares, hreads, hr⟩ := exists_parts hp
  obtain ⟨t, base', rfl, hmarked', hdeclares', hreads', hr'⟩ := exists_parts hq
  rw [hstage, hstream] at hdeclares hreads
  rw [hstage, hstream, hstream] at hmarked
  have hresources : s.resources = t.resources := hmarked.unique hmarked'
  have hinterface : s.interface = t.interface :=
    (EStateM.Result.ok.inj (hdeclares.symm.trans hdeclares')).2
  have hsame : q.stream .code ++ [] = q.stream .code ++ [] := rfl
  have hbuilder : s.builder = t.builder := (hreads.unique hr hreads' hr' hsame).2
  rw [Session.shader, Session.shader, hstage, hmodel, hresources, hinterface, hbuilder]

/-- A pixel shader that declares two views and an output before it uses the views. -/
def declaredFirst : Program where
  stage := .pixel
  model := .sm51
  instructions := [
    { opcode := .resourceDcl .resourceRaw, operands := [.register .resource (.d1 3)],
      declaration := some (.resourceRaw 0) },
    { opcode := .resourceDcl .uavRaw, operands := [.register .unorderedAccessView (.d1 1)],
      declaration := some (.uavRaw 0 0) },
    { opcode := .stageDcl .output, operands := [.register .outputDepth .none],
      declaration := some .output },
    { opcode := .sample .lod, operands := [.register .resource (.d1 3)] },
    { opcode := .view .storeRaw, operands := [.register .unorderedAccessView (.d1 1)] },
    { opcode := .flow .ret }]

/-- The same program with each view declared when it is used, with instructions that leave no trace,
and with more code behind the return. -/
def declaredOnUse : Program where
  stage := .pixel
  model := .sm51
  instructions := [
    { opcode := .resourceDcl .globalFlags, declaration := some (.globalFlags 1) },
    { opcode := .resourceDcl .resourceRaw, operands := [.register .resource (.d1 3)],
      declaration := some (.resourceRaw 0) },
    { opcode := .sample .lod, operands := [.register .resource (.d1 3)] },
    { opcode := .nop },
    { opcode := .stageDcl .output, operands := [.register .outputDepth .none],
      declaration := some .output },
    { opcode := .stageDcl .input, operands := [.register .cycleCounter .none],
      declaration := some .input },
    { opcode := .resourceDcl .uavRaw, operands := [.register .unorderedAccessView (.d1 1)],
      declaration := some (.uavRaw 0 0) },
    { opcode := .customData, declaration := some (.customData .comment [7]) },
    { opcode := .view .storeRaw, operands := [.register .unorderedAccessView (.d1 1)] },
    { opcode := .flow .ret },
    { opcode := .plain .mov }]

/-- Both are accepted, with one result. -/
theorem compile_declaredOnUse :
    ∃ c, declaredFirst.compile ⟨[], []⟩ .passthrough () {} = .ok (c, ()) ∧
      declaredOnUse.compile ⟨[], []⟩ .passthrough () {} = .ok (c, ()) := by
  obtain ⟨c, ⟨⟩, hc⟩ := Compilation.exists_result
    (C := ⟨declaredFirst, ⟨[], []⟩, .passthrough, (), {}⟩) (by decide +kernel)
  obtain ⟨d, ⟨⟩, hd⟩ := Compilation.exists_result
    (C := ⟨declaredOnUse, ⟨[], []⟩, .passthrough, (), {}⟩) (by decide +kernel)
  have hstream (st : Stream) : declaredFirst.stream st = declaredOnUse.stream st := by
    cases st <;> decide
  cases eq_of_stream_eq (p := declaredFirst) (q := declaredOnUse) rfl rfl hstream hc hd
  exact ⟨c, hc, hd⟩

end Program

end ShaderFlow
