import ShaderFlow.Proofs.Inventory

/-!
# What can be declared once

Bindings, shared memory and indexable temporaries by their number, the thread group, and the
constants embedded in a program can be declared once. Which `Item` a declaration is about is read
off the declaration (`Instruction.item?`), and the resources show whether it is there
(`Resources.Has`). Nothing that is declared or used later takes it away again, so a second
declaration of the item is refused, in whatever form and however much later
(`Resources.refused_of_declared`).

The constants show only if there are any: an empty block is accepted and leaves no trace, so another
one is accepted after it (`Resources.not_refused_of_emptyConstants`).
-/

namespace ShaderFlow

/-- What a program can declare once. -/
inductive Item where
  | binding (kind : BindingKind) (id : UInt32)
  | sharedMemory (id : UInt32)
  | indexableTemp (id : UInt32)
  | threadGroup
  /-- The constants embedded in the program. -/
  | constants

/-- The item that an addition adds. -/
def Addition.item? : Addition → Option Item
  | .constantBuffer buffer => some (.binding .constantBuffer buffer.range.id)
  | .sampler s => some (.binding .sampler s.range.id)
  | .resourceView view => some (.binding .resource view.range.id)
  | .accessView view => some (.binding .access view.range.id)
  | .sharedMemory id _ => some (.sharedMemory id)
  | .indexableTemp id _ => some (.indexableTemp id)
  | .threadGroup _ => some .threadGroup
  | .constants _ => some .constants
  | .temps _ | .nothing => none

namespace Instruction

variable {stage : Stage} {i : Instruction} {a : Addition}

/-- The item that a declaration is about, whether or not the declaration is accepted. -/
def item? (i : Instruction) : Option Item :=
  match i.opcode, i.declaration with
  | .resourceDcl .indexableTemp, some (.indexableTemp id _ _) => some (.indexableTemp id)
  | .resourceDcl .threadGroup, _ => some .threadGroup
  | .customData, some (.customData .immediateConstantBuffer _) => some .constants
  | _, _ => (i.binding?.map fun b => .binding b.1 b.2) <|> i.sharedMemory?.map .sharedMemory

/-- A declaration adds the item that it is about. -/
theorem Adds.item?_eq (h : i.Adds stage a) : a.item? = i.item? := by
  have hbinding := h.binding?_eq
  cases h with
  | constantBuffer hop hd | sampler hop hd | resource hop hd | resourceRaw hop hd
  | resourceStructured hop hd | uavTyped hop hd | uavRaw hop hd | uavStructured hop hd =>
    simp only [item?, hop, hd, ← hbinding]
    rfl
  | sharedRaw hop hd _ _ ho hid | sharedStructured hop hd _ _ ho hid =>
    simp only [item?, hop, hd, ← hbinding, sharedMemory?, declaredIndex?, ho, Option.bind_some, hid]
    rfl
  | indexableTemp hop hd | threadGroup hop hd | constants hop hd =>
    simp only [item?, hop, hd]
    rfl
  | temps hop hd | globalFlags hop hd | indexRange hop hd =>
    simp only [item?, hop, hd, ← hbinding, sharedMemory?]
    rfl
  | @data dataClass _ hop hd hc =>
    cases dataClass with
    | immediateConstantBuffer => exact absurd rfl hc
    | _ =>
      simp only [item?, hop, hd, ← hbinding, sharedMemory?]
      rfl

/-- Only a block without constants adds none. -/
theorem Adds.declaration_eq (h : i.Adds stage (.constants [])) :
    i.declaration = some (.customData .immediateConstantBuffer []) := by
  generalize ha : Addition.constants [] = a at h
  cases h with
  | @constants words _ hd hw =>
    have hwords := Quad.flatMap_toList_rows words hw
    rw [← Addition.constants.inj ha] at hwords
    rw [hd, ← hwords]
    rfl
  | _ => cases ha

end Instruction

namespace Resources

variable {stage stage' : Stage} {i j : Instruction} {a : Addition} {item : Item} {u : Usage}
  {r₀ r : Resources}

/-- Whether an item shows in the resources. -/
def Has (r : Resources) : Item → Prop
  | .binding kind id => r.isDeclared kind id = true
  | .sharedMemory id => id ∈ r.sharedMemory
  | .indexableTemp id => id ∈ r.indexableTemps
  | .threadGroup => r.threadGroup ≠ none
  | .constants => r.immediateConstants ≠ []

/-- What is added shows, constants only if there are any. -/
theorem has_add (ha : a.item? = some item) (hne : a ≠ .constants []) : (r.add a).Has item := by
  cases a with
  | constantBuffer | sampler | resourceView | accessView =>
    cases ha
    exact isDeclared_add.2 (.inl rfl)
  | sharedMemory | indexableTemp | threadGroup =>
    cases ha
    simp [Has, add]
  | constants rows =>
    cases ha
    exact fun hrows => hne (congrArg Addition.constants hrows)
  | temps | nothing => cases ha

/-- There is no room for an item that shows. -/
theorem Has.not_free (h : r.Has item) (ha : a.item? = some item) : ¬ r.Free a := by
  intro hfree
  cases a with
  | constantBuffer | sampler | resourceView | accessView =>
    cases ha
    cases h.symm.trans hfree
  | sharedMemory | indexableTemp =>
    cases ha
    exact hfree h
  | threadGroup | constants =>
    cases ha
    exact h hfree
  | temps | nothing => cases ha

/-- What is added takes no item away. -/
theorem Has.add (h : r.Has item) (hfree : r.Free a) : (r.add a).Has item := by
  cases item with
  | binding => exact isDeclared_add.2 (.inr h)
  | sharedMemory => exact mem_sharedMemory_add.2 (.inr h)
  | indexableTemp =>
    cases a with
    | indexableTemp => exact Std.ExtTreeMap.mem_insert.2 (.inr h)
    | _ => exact h
  | threadGroup =>
    cases a with
    | threadGroup => exact Option.some_ne_none _
    | _ => exact h
  | constants =>
    cases a with
    | constants => exact absurd hfree (h.not_free rfl)
    | _ => exact h

/-- A use takes no item away. -/
theorem Has.mark (h : r.Has item) : (r.mark u).Has item := by
  cases item with
  | binding => exact isDeclared_mark.trans h
  | sharedMemory | indexableTemp | threadGroup | constants => exact h

/-- What shows in the resources goes on to show, whatever is tried. -/
theorem Has.attemptAll {calls : List Call} (h : r.Has item) : (attemptAll calls r).Has item :=
  attemptAll_induction (P := (Has · item)) (fun _ hr _ hfree => hr.add hfree) Has.mark h

/-- A declaration of an item that shows is refused and changes nothing. -/
theorem Has.refused (h : r.Has item) (hj : j.item? = some item) :
    ∃ fault, declare stage j r = .error fault r := by
  cases hdeclare : declare stage j r with
  | ok _ r' =>
    obtain ⟨a, ha, hfree, -⟩ := declare_eq_ok_iff.1 hdeclare
    exact absurd hfree (h.not_free (ha.item?_eq.trans hj))
  | error fault r' => exact ⟨fault, by rw [allOrNothing_declare hdeclare]⟩

/-- A block without constants is accepted only where there are none yet, and changes nothing. -/
theorem eq_of_declare_emptyConstants
    (hi : i.declaration = some (.customData .immediateConstantBuffer []))
    (h : declare stage i r₀ = .ok () r) : r = r₀ := by
  obtain ⟨a, ha, hfree, rfl⟩ := declare_eq_ok_iff.1 h
  cases ha with
  | constants _ hd =>
    cases hi.symm.trans hd
    have hnone : r₀.immediateConstants = [] := hfree
    simp only [Resources.add, Quad.rows, ← hnone]
  | data _ hd hc =>
    cases hi.symm.trans hd
    exact absurd rfl hc
  | constantBuffer _ hd | sampler _ hd | resource _ hd | resourceRaw _ hd | resourceStructured _ hd
  | uavTyped _ hd | uavRaw _ hd | uavStructured _ hd | temps _ hd | indexableTemp _ hd
  | threadGroup _ hd | sharedRaw _ hd | sharedStructured _ hd | globalFlags _ hd
  | indexRange _ hd => cases hi.symm.trans hd

/-- Once a declaration is accepted, every later declaration of the same item is refused and changes
nothing, whatever is declared and used in between, and whichever forms the two have. The exception
is a block without constants, after which all is as if it were not there. -/
theorem refused_of_declared (calls : List Call) (hi : i.item? = some item)
    (hj : j.item? = some item) (h : declare stage i r₀ = .ok () r) :
    (i.declaration ≠ some (.customData .immediateConstantBuffer []) →
      ∃ fault, declare stage' j (attemptAll calls r) = .error fault (attemptAll calls r)) ∧
    (i.declaration = some (.customData .immediateConstantBuffer []) → r = r₀) := by
  refine ⟨fun hne => ?_, fun hempty => eq_of_declare_emptyConstants hempty h⟩
  obtain ⟨a, ha, -, rfl⟩ := declare_eq_ok_iff.1 h
  have hadded : a ≠ .constants [] := by
    rintro rfl
    exact hne ha.declaration_eq
  have hhas : (r₀.add a).Has item := has_add (ha.item?_eq.trans hi) hadded
  exact hhas.attemptAll.refused hj

/-- Declares a range of structured access views, under the number of `viewDeclaration`. -/
def rangeDeclaration : Instruction where
  opcode := .resourceDcl .uavStructured
  operands := [.register .unorderedAccessView (.d3 3 8 15)]
  declaration := some (.uavStructured 16 0 1)

/-- Embeds constants in the program. -/
def constantsInstruction (words : List UInt32) : Instruction where
  opcode := .customData
  declaration := some (.customData .immediateConstantBuffer words)

/-- A raw view is declared, and constants are embedded after it: a range of structured views with
the number of the raw view is refused. An empty block of constants changes nothing. -/
theorem refused_of_viewDeclaration :
    (∃ r fault, declare .pixel viewDeclaration {} = .ok () r ∧
      declare .pixel rangeDeclaration
          (attemptAll [.declare .pixel (constantsInstruction [1, 2, 3, 4])] r) =
        .error fault (attemptAll [.declare .pixel (constantsInstruction [1, 2, 3, 4])] r)) ∧
    ∃ r, declare .pixel (constantsInstruction []) {} = .ok () r ∧ r = {} := by
  have hview : viewDeclaration.item? = some (.binding .access 3) := rfl
  have hrange : rangeDeclaration.item? = some (.binding .access 3) := rfl
  have hempty : (constantsInstruction []).item? = some .constants := rfl
  have hfirst : ∃ r, declare .pixel viewDeclaration {} = .ok () r := ⟨_, rfl⟩
  have hblock : ∃ r, declare .pixel (constantsInstruction []) {} = .ok () r := ⟨_, rfl⟩
  obtain ⟨r, hr⟩ := hfirst
  obtain ⟨r', hr'⟩ := hblock
  constructor
  · obtain ⟨fault, hfault⟩ :=
      (refused_of_declared _ hview hrange hr).1 (by simp [viewDeclaration])
    exact ⟨r, fault, hr, hfault⟩
  · exact ⟨r', hr', (@refused_of_declared _ .pixel _ _ _ _ _ [] hempty hempty hr').2 rfl⟩

/-- An empty block of constants is accepted, and so is another one after it. -/
theorem not_refused_of_emptyConstants :
    (constantsInstruction []).item? = some .constants ∧
      ∃ r, declare .vertex (constantsInstruction []) {} = .ok () r ∧
        declare .vertex (constantsInstruction []) r = .ok () r :=
  ⟨rfl, {}, rfl, rfl⟩

end Resources

end ShaderFlow
