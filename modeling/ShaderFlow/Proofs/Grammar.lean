import Mathlib.Algebra.Group.Nat.Defs
import ShaderFlow.Proofs.Layout

/-!
# What a builder accepts

A builder that is fed a list of instructions and finishes has read legal code and a return behind
it, and it finishes on every such list, whatever stands behind the return, if there are ids for the
blocks of the code. The one direction is `Builder.reads_function`. For the other, a tree is read off
a run of the builder: the run through the code of a scope ends at the instruction that ends the
scope (`Builder.Ends`), and by then the scopes around it are what they were, up to labels.

That there are ids for the blocks has to be asked for: `Builder.build_discards_isSome_iff` is about
code that is legal at any length, and that is refused where the ids run out.
-/

namespace ShaderFlow

namespace Builder

variable {L : Type} {stage : Stage} {puts : Placement L} {b b' b₁ : Builder L} {i : Instruction}
  {is : List Instruction}

/-- Feeds one instruction to a builder: control flow is carried out, and every other instruction
puts its value into the current block. -/
def feedOne (stage : Stage) (value : Instruction → L) (i : Instruction) : Build L Unit :=
  if i.opcode.isControlFlow then control stage i else modify (·.append (value i))

/-- Feeds instructions to a builder until the function has returned. -/
def feed (stage : Stage) (value : Instruction → L) : List Instruction → Build L Unit
  | [] => pure ()
  | i :: rest => do
    unless (← get).returned do
      feedOne stage value i
      feed stage value rest

/-- The graph that a builder finishes with when it is fed instructions from the start. -/
def build? (stage : Stage) (limit : Nat) (value : Instruction → L) (is : List Instruction) :
    Option (Graph L) :=
  match feed stage value is (.start limit) with
  | .ok _ b => b.finish?
  | .error _ _ => none

/-- One instruction that is fed to a builder is taken in, or refused. -/
theorem feedOne_eq_ok_iff {value : Instruction → L} (hfit : b'.graph.size ≤ UInt32.size) :
    feedOne stage value i b = .ok () b' ↔ Takes stage (.of fun i => some (value i)) b i b' := by
  unfold feedOne
  cases hi : i.opcode.isControlFlow with
  | true =>
    rw [if_pos rfl]
    exact ⟨fun h => .control (step_of_control h hfit), fun h => (h.step hi).control hfit⟩
  | false =>
    rw [if_neg Bool.false_ne_true]
    constructor
    · intro h
      cases h
      exact .put hi rfl
    · intro h
      cases h with
      | control h =>
        rw [h.isControlFlow] at hi
        cases hi
      | put _ hv =>
        cases hv
        rfl
      | skip _ hv => cases hv

/-- Behind the return nothing is fed any more. -/
theorem feed_cons_of_returned {value : Instruction → L} (hr : b.returned = true) :
    feed stage value (i :: is) b = .ok () b := by
  rw [feed, get_bind, hr]
  rfl

/-- The first instruction is accepted, and then the others are. -/
theorem feed_cons_eq_ok_iff {value : Instruction → L} (hr : b.returned = false) :
    feed stage value (i :: is) b = .ok () b' ↔
      ∃ b₁, feedOne stage value i b = .ok () b₁ ∧ feed stage value is b₁ = .ok () b' := by
  rw [feed, get_bind, hr]
  simp only [Bool.false_eq_true, if_false, bind_eq_ok_iff]
  exact ⟨fun ⟨_, b₁, h⟩ => ⟨b₁, h⟩, fun ⟨b₁, h⟩ => ⟨(), b₁, h⟩⟩

/-- What every instruction preserves, feeding a list preserves. -/
theorem feed_preserves {value : Instruction → L} {P : Builder L → Prop}
    (hP : ∀ {b i b'}, b.returned = false → feedOne stage value i b = .ok () b' → P b → P b')
    (h : feed stage value is b = .ok () b') (hb : P b) : P b' := by
  induction is generalizing b with
  | nil =>
    cases h
    exact hb
  | cons i is ih =>
    cases hr : b.returned with
    | true =>
      rw [feed_cons_of_returned hr] at h
      cases h
      exact hb
    | false =>
      obtain ⟨b₁, hone, h⟩ := (feed_cons_eq_ok_iff hr).1 h
      exact ih h (hP hr hone hb)

/-- What is fed to a builder is carried out or appended. -/
theorem feedOne_cases {value : Instruction → L} (h : feedOne stage value i b = .ok () b') :
    control stage i b = .ok () b' ∨ b' = b.append (value i) := by
  unfold feedOne at h
  split at h
  · exact .inl h
  · cases h
    exact .inr rfl

/-- Feeding removes no block. -/
theorem size_le_of_feed {value : Instruction → L} (h : feed stage value is b = .ok () b') :
    b.graph.size ≤ b'.graph.size := by
  refine feed_preserves (P := fun c => b.graph.size ≤ c.graph.size) (fun _ hone hle => ?_) h
    (Nat.le_refl _)
  rcases feedOne_cases hone with hc | rfl
  · exact Nat.le_trans hle (size_le_of_control hc)
  · simpa [Builder.append] using hle

/-- A builder that is fed from the start and returns has no more blocks than there are ids. -/
theorem size_le_of_feed_start {value : Instruction → L} {limit : Nat}
    (h : feed stage value is (.start limit) = .ok () b') (hr : b'.returned = true) :
    b'.graph.size ≤ UInt32.size := by
  have htallied : b'.Tallied := by
    refine feed_preserves (P := Tallied) (fun hr hone hb => ?_) h (tallied_start limit)
    rcases feedOne_cases hone with hc | rfl
    · exact hb.control hr hc
    · exact hb.append _
  exact htallied.size_le hr

/-- A builder returns on a list, with ids for all blocks, if it reads a first part of the list and
returns at the end of the part. -/
theorem feed_returned_iff {value : Instruction → L} :
    (∃ b', feed stage value is b = .ok () b' ∧ b'.returned = true ∧
      b'.graph.size ≤ UInt32.size) ↔
      ∃ done rest b', is = done ++ rest ∧ Reads stage (.of fun i => some (value i)) b done b' ∧
        b'.returned = true ∧ b'.graph.size ≤ UInt32.size := by
  induction is generalizing b with
  | nil =>
    constructor
    · rintro ⟨b', h, hr⟩
      cases h
      exact ⟨[], [], _, rfl, .nil, hr⟩
    · rintro ⟨done, rest, b', hi, h, hr⟩
      obtain ⟨rfl, rfl⟩ := List.append_eq_nil_iff.1 hi.symm
      cases h
      exact ⟨_, rfl, hr⟩
  | cons i is ih =>
    cases hr : b.returned with
    | true =>
      rw [feed_cons_of_returned hr]
      constructor
      · rintro ⟨b', h, hr'⟩
        cases h
        exact ⟨[], i :: is, b, rfl, .nil, hr'⟩
      · rintro ⟨done, rest, b', -, h, hr', hfit⟩
        exact ⟨b, rfl, hr, Nat.le_trans h.size_le.1 hfit⟩
    | false =>
      simp only [feed_cons_eq_ok_iff hr]
      constructor
      · rintro ⟨b', ⟨b₁, hone, h⟩, hr', hfit⟩
        have ht := (feedOne_eq_ok_iff (Nat.le_trans (size_le_of_feed h) hfit)).1 hone
        obtain ⟨done, rest, b', rfl, hread, hr'⟩ := ih.1 ⟨b', h, hr', hfit⟩
        exact ⟨i :: done, rest, b', rfl, .cons hr ht hread, hr'⟩
      · rintro ⟨done, rest, b', hi, hread, hr', hfit⟩
        cases hread with
        | nil => cases hr.symm.trans hr'
        | cons _ ht hread =>
          injection hi with hi hi'
          subst hi
          have hone := (feedOne_eq_ok_iff (Nat.le_trans hread.size_le.1 hfit)).2 ht
          obtain ⟨b', h, hr'⟩ := ih.2 ⟨_, rest, b', hi', hread, hr', hfit⟩
          exact ⟨b', ⟨_, hone, h⟩, hr'⟩

/-! ## Tokens read off steps -/

/-- An instruction whose condition can be read is a token with an operand. -/
theorem exists_operandToken {op : FlowOp} {c : Condition} (hop : i.opcode = .flow op)
    (hc : condition i = .ok c) : ∃ k : OperandToken op, k.instruction = i := by
  obtain ⟨operand, ho, -⟩ := condition_eq_ok_iff.1 hc
  exact ⟨⟨⟨i, hop⟩, operand, ho⟩, rfl⟩

/-- A label whose value can be read is a token with that value. -/
theorem exists_caseToken {v : UInt32} (hop : i.opcode = .flow .caseLabel)
    (hv : caseValue i = .ok v) : ∃ k : CaseToken, k.instruction = i ∧ k.value = v := by
  obtain ⟨operand, ho, hscalar, hx⟩ := caseValue_eq_ok_iff.1 hv
  exact ⟨⟨⟨⟨i, hop⟩, operand, ho⟩, hscalar⟩, rfl, hx⟩

/-! ## Trees read off runs -/

/-- The instruction at hand ends the code that lies directly in the innermost scope, or in the
function. -/
inductive Ends (b : Builder L) (i : Instruction) (b' : Builder L) : Prop where
  | elseArm {alternative : BlockId} {merge : BlockId} {outer : List Scope}
      (hop : i.opcode = .flow .elseArm) (hs : b.scopes = .branch alternative none :: outer)
      (hs' : b'.scopes = .branch alternative (some merge) :: outer) (hr : b'.returned = false)
  | endIf {alternative : BlockId} {merge : Option BlockId} (hop : i.opcode = .flow .endIf)
      (hs : b.scopes = .branch alternative merge :: b'.scopes) (hr : b'.returned = false)
  | endLoop {entrance exit : BlockId} (hop : i.opcode = .flow .endLoop)
      (hs : b.scopes = .loop entrance exit :: b'.scopes) (hr : b'.returned = false)
  | endSwitch {s : SwitchScope} (hop : i.opcode = .flow .endSwitch)
      (hs : b.scopes = .switch s :: b'.scopes) (hr : b'.returned = false)
  | ret (hop : i.opcode = .flow .ret) (hs : b.scopes = [])

/-- A run through instructions, cut at the end of the code that lies directly in the innermost
scope: the code is legal there, and the scopes are the same when it ends, up to labels. -/
structure Parsed (stage : Stage) (puts : Placement L) (b : Builder L) (is : List Instruction)
    (b' : Builder L) (t : Body) (last : Instruction) (rest : List Instruction)
    (b₁ b₂ : Builder L) : Prop where
  eq : is = t.tokens ++ last :: rest
  legal : t.Legal stage b.maxNesting (b.scopes.map Scope.kind)
  fits : b.labels.Fits t.caseValues t.defaultCount
  scopes : ∃ labels, b₁.scopes = relabel labels b.scopes
  ends : Ends b₁ last b₂
  limit : b₂.maxNesting = b.maxNesting
  reads : Reads stage puts b₂ rest b'

section

variable {b₀ b₂ : Builder L} {t u : Body} {last : Instruction} {js rest : List Instruction}

/-- Where code ends at once, there is none. -/
theorem Parsed.nil (h : Reads stage puts b₀ is b') (hl : b₀.maxNesting = b.maxNesting)
    (he : Ends b i b₀) : Parsed stage puts b (i :: is) b' .nil i is b b₀ where
  eq := rfl
  legal := trivial
  fits := ⟨List.nodup_nil, nofun, Nat.zero_le 1, fun _ => rfl⟩
  scopes := ⟨b.labels, congrArg Builder.scopes adopt_self.symm⟩
  ends := he
  limit := hl
  reads := h

/-- A statement before code, where the labels of the statement fit to those of the code. -/
theorem Parsed.prepend (h : Parsed stage puts b₀ js b' t last rest b₁ b₂)
    (pre : List Instruction) (his : is = pre ++ js) (htok : u.tokens = pre ++ t.tokens)
    (hscopes : ∀ labels, relabel labels b₀.scopes = relabel labels b.scopes)
    (hlimit : b₀.maxNesting = b.maxNesting)
    (hlegal : u.Legal stage b.maxNesting (b.scopes.map Scope.kind))
    (hfits : b.labels.Fits u.caseValues u.defaultCount) :
    Parsed stage puts b is b' u last rest b₁ b₂ where
  eq := by rw [his, h.eq, htok, List.append_assoc]
  legal := hlegal
  fits := hfits
  scopes := by
    obtain ⟨labels, hl⟩ := h.scopes
    exact ⟨labels, hl.trans (hscopes labels)⟩
  ends := h.ends
  limit := h.limit.trans hlimit
  reads := h.reads

/-- A statement before code, where the statement has no labels and leaves the scopes as they
were. -/
theorem Parsed.behind (h : Parsed stage puts b₀ js b' t last rest b₁ b₂)
    (pre : List Instruction) (his : is = pre ++ js) (htok : u.tokens = pre ++ t.tokens)
    (hscopes : b₀.scopes = b.scopes)
    (hlimit : b₀.maxNesting = b.maxNesting)
    (hlegal : t.Legal stage b.maxNesting (b.scopes.map Scope.kind) →
      u.Legal stage b.maxNesting (b.scopes.map Scope.kind))
    (hlabels : u.caseValues = t.caseValues ∧ u.defaultCount = t.defaultCount) :
    Parsed stage puts b is b' u last rest b₁ b₂ := by
  have hsame : b₀.labels = b.labels := by
    unfold labels
    rw [hscopes]
  refine h.prepend pre his htok (fun _ => by rw [hscopes]) hlimit (hlegal ?_) ?_
  · rw [← hlimit, ← hscopes]
    exact h.legal
  · rw [hlabels.1, hlabels.2, ← hsame]
    exact h.fits

/-- What lies behind the end of code is shorter. -/
theorem Parsed.rest_length_lt (h : Parsed stage puts b is b' t last rest b₁ b₂) :
    rest.length < is.length := by
  rw [h.eq, List.length_append, List.length_cons]
  omega

end

/-- Directly in a switch, the labels at hand are those of the switch. -/
theorem labels_eq_of_switch {s : SwitchScope} {outer : List Scope}
    (hs : b.scopes = .switch s :: outer) : b.labels = ⟨s.cases, s.fallback⟩ := by
  unfold labels
  rw [hs]

/-- From a run that returns a tree can be read off. The induction is on the length of the list; the
scopes are general, because the code inside of a scope is read off in the same way. -/
theorem exists_parsed (h : Reads stage puts b is b') (hr : b.returned = false)
    (hr' : b'.returned = true) :
    ∃ t last rest b₁ b₂, Parsed stage puts b is b' t last rest b₁ b₂ := by
  induction hn : is.length using Nat.strongRecOn generalizing b is with
  | ind n ih =>
  subst hn
  cases h with
  | nil => cases hr.symm.trans hr'
  | @cons _ b₀ _ i is _ ht h =>
  cases ht with
  | put hi hv | skip hi hv =>
    obtain ⟨t, last, rest, b₁, b₂, hp⟩ := ih _ (Nat.lt_succ_self _) h hr rfl
    exact ⟨.straight ⟨i, hi⟩ t, last, rest, b₁, b₂,
      hp.behind [i] rfl rfl rfl rfl id ⟨rfl, rfl⟩⟩
  | control hstep =>
  cases hstep with
  | beginIf hop hc hd ho =>
    obtain ⟨k, rfl⟩ := exists_operandToken hop hc
    obtain ⟨body, last, rest, b₁, b₂, hp⟩ := ih _ (Nat.lt_succ_self _) h hr rfl
    obtain ⟨_, hscopes⟩ := hp.scopes
    have hdepth : (b.scopes.map Scope.kind).length < b.maxNesting := by simpa [depth] using hd
    have hshort : rest.length < (k.instruction :: is).length := Nat.lt_succ_of_lt hp.rest_length_lt
    -- The innermost scope is still that of the `if`, so what ends the first arm belongs to an `if`.
    cases hp.ends with
    | endLoop _ hs | endSwitch _ hs | ret _ hs => cases hscopes.symm.trans hs
    | endIf hop' hs hr₂ =>
      obtain ⟨-, hs₂⟩ := List.cons.inj (hs.symm.trans hscopes)
      obtain ⟨t, last', rest', b₃, b₄, hq⟩ := ih _ hshort hp.reads hr₂ rfl
      exact ⟨.branch k body ⟨last, hop'⟩ t, last', rest', b₃, b₄,
        hq.behind (k.instruction :: (body.tokens ++ [last])) (by simp [hp.eq])
          (by simp [Body.tokens]) hs₂ hp.limit (fun hlegal => ⟨hdepth, hp.legal, hlegal⟩)
          ⟨rfl, rfl⟩⟩
    | elseArm hop' hs hs' hr₂ =>
      obtain ⟨-, houter⟩ := List.cons.inj (hs.symm.trans hscopes)
      subst houter
      obtain ⟨other, last', rest', b₃, b₄, hq⟩ := ih _ hshort hp.reads hr₂ rfl
      obtain ⟨_, hscopes'⟩ := hq.scopes
      rw [hs'] at hscopes'
      have hother : other.Legal stage b.maxNesting (.branch :: b.scopes.map Scope.kind) := by
        have hlegal := hq.legal
        rw [hp.limit, hs'] at hlegal
        exact hlegal
      cases hq.ends with
      | elseArm _ hs | endLoop _ hs | endSwitch _ hs | ret _ hs => cases hscopes'.symm.trans hs
      | endIf hop'' hs hr₄ =>
        obtain ⟨-, hs₄⟩ := List.cons.inj (hs.symm.trans hscopes')
        obtain ⟨t, last'', rest'', b₅, b₆, hw⟩ :=
          ih _ (Nat.lt_trans hq.rest_length_lt hshort) hq.reads hr₄ rfl
        exact ⟨.branchElse k body ⟨last, hop'⟩ other ⟨last', hop''⟩ t, last'', rest'', b₅, b₆,
          hw.behind (k.instruction :: (body.tokens ++ last :: (other.tokens ++ [last'])))
            (by simp [hp.eq, hq.eq]) (by simp [Body.tokens]) hs₄ (hq.limit.trans hp.limit)
            (fun hlegal => ⟨hdepth, hp.legal, hother, hlegal⟩) ⟨rfl, rfl⟩⟩
  | elseArm hop hs ho =>
    exact ⟨_, _, _, _, _, .nil h rfl (.elseArm hop hs rfl hr)⟩
  | endIf hop hs ho =>
    exact ⟨_, _, _, _, _, .nil h rfl (.endIf hop hs hr)⟩
  | beginLoop hop hd ho =>
    obtain ⟨body, last, rest, b₁, b₂, hp⟩ := ih _ (Nat.lt_succ_self _) h hr rfl
    obtain ⟨_, hscopes⟩ := hp.scopes
    have hdepth : (b.scopes.map Scope.kind).length < b.maxNesting := by simpa [depth] using hd
    cases hp.ends with
    | elseArm _ hs | endIf _ hs | endSwitch _ hs | ret _ hs => cases hscopes.symm.trans hs
    | endLoop hop' hs hr₂ =>
      obtain ⟨-, hs₂⟩ := List.cons.inj (hs.symm.trans hscopes)
      obtain ⟨t, last', rest', b₃, b₄, hq⟩ :=
        ih _ (Nat.lt_succ_of_lt hp.rest_length_lt) hp.reads hr₂ rfl
      exact ⟨.loop ⟨i, hop⟩ body ⟨last, hop'⟩ t, last', rest', b₃, b₄,
        hq.behind (i :: (body.tokens ++ [last])) (by simp [hp.eq]) (by simp [Body.tokens]) hs₂
          hp.limit (fun hlegal => ⟨hdepth, hp.legal, hlegal⟩) ⟨rfl, rfl⟩⟩
  | endLoop hop hs ho =>
    exact ⟨_, _, _, _, _, .nil h rfl (.endLoop hop hs hr)⟩
  | beginSwitch hop hsel hd =>
    obtain ⟨body, last, rest, b₁, b₂, hp⟩ := ih _ (Nat.lt_succ_self _) h hr rfl
    obtain ⟨_, hscopes⟩ := hp.scopes
    have hdepth : (b.scopes.map Scope.kind).length < b.maxNesting := by simpa [depth] using hd
    cases hp.ends with
    | elseArm _ hs | endIf _ hs | endLoop _ hs | ret _ hs => cases hscopes.symm.trans hs
    | endSwitch hop' hs hr₂ =>
      obtain ⟨-, hs₂⟩ := List.cons.inj (hs.symm.trans hscopes)
      obtain ⟨t, last', rest', b₃, b₄, hq⟩ :=
        ih _ (Nat.lt_succ_of_lt hp.rest_length_lt) hp.reads hr₂ rfl
      exact ⟨.switch ⟨⟨i, hop⟩, _, hsel⟩ body ⟨last, hop'⟩ t, last', rest', b₃, b₄,
        hq.behind (i :: (body.tokens ++ [last])) (by simp [hp.eq]) (by simp [Body.tokens]) hs₂
          hp.limit
          (fun hlegal => ⟨hdepth, hp.legal, hp.fits.nodup, hp.fits.default_le, hlegal⟩) ⟨rfl, rfl⟩⟩
  | caseLabel hop hv hs hnew ho =>
    obtain ⟨t, last, rest, b₁, b₂, hp⟩ := ih _ (Nat.lt_succ_self _) h hr rfl
    obtain ⟨k, rfl, rfl⟩ := exists_caseToken hop hv
    refine ⟨.caseLabel k t, last, rest, b₁, b₂,
      hp.prepend [k.instruction] rfl rfl (fun _ => by rw [hs]; rfl) rfl ?_ ?_⟩
    · rw [hs]
      exact ⟨rfl, hp.legal⟩
    · rw [labels_eq_of_switch hs]
      exact (Labels.fits_cons_iff b.graph.size).2 ⟨hnew, hp.fits⟩
  | defaultLabel hop hs hnew ho =>
    obtain ⟨t, last, rest, b₁, b₂, hp⟩ := ih _ (Nat.lt_succ_self _) h hr rfl
    refine ⟨.defaultLabel ⟨i, hop⟩ t, last, rest, b₁, b₂,
      hp.prepend [i] rfl rfl (fun _ => by rw [hs]; rfl) rfl ?_ ?_⟩
    · rw [hs]
      exact ⟨rfl, hp.legal⟩
    · rw [labels_eq_of_switch hs]
      exact (Labels.fits_succ_iff b.graph.size).2 ⟨hnew, hp.fits⟩
  | endSwitch hop hs ho hdo =>
    exact ⟨_, _, _, _, _, .nil h rfl (.endSwitch hop hs hr)⟩
  | leave way hop ht hin ho =>
    obtain ⟨t, last, rest, b₁, b₂, hp⟩ := ih _ (Nat.lt_succ_self _) h hr rfl
    have hto := exists_target_iff.1 ⟨_, ht⟩
    refine ⟨.leave way ⟨i, hop⟩ t, last, rest, b₁, b₂,
      hp.behind [i] rfl rfl rfl rfl (fun hlegal => ⟨hto, ?_, hlegal⟩) ⟨rfl, rfl⟩⟩
    intro h
    simpa using hin h
  | leaveIf way hop ht hc ho =>
    obtain ⟨t, last, rest, b₁, b₂, hp⟩ := ih _ (Nat.lt_succ_self _) h hr rfl
    obtain ⟨k, rfl⟩ := exists_operandToken hop hc
    have hto := exists_target_iff.1 ⟨_, ht⟩
    exact ⟨.leaveIf way k t, last, rest, b₁, b₂,
      hp.behind [k.instruction] rfl rfl rfl rfl (fun hlegal => ⟨hto, hlegal⟩) ⟨rfl, rfl⟩⟩
  | ret hop hs ho =>
    exact ⟨_, _, _, _, _, .nil h rfl (.ret hop hs)⟩
  | discard hop hst hc ho =>
    obtain ⟨t, last, rest, b₁, b₂, hp⟩ := ih _ (Nat.lt_succ_self _) h hr rfl
    obtain ⟨k, rfl⟩ := exists_operandToken hop hc
    exact ⟨.discard k t, last, rest, b₁, b₂,
      hp.behind [k.instruction] rfl rfl rfl rfl (fun hlegal => ⟨hst, hlegal⟩) ⟨rfl, rfl⟩⟩

/-- A builder finishes on a list if it reads a first part of it, with ids for all blocks, and
returns at the end of the part. -/
theorem build_isSome_iff_reads {limit : Nat} {value : Instruction → L} :
    (build? stage limit value is).isSome = true ↔
      ∃ done rest b, is = done ++ rest ∧
        Reads stage (.of fun i => some (value i)) (.start limit) done b ∧ b.returned = true ∧
        b.graph.size ≤ UInt32.size := by
  rw [← feed_returned_iff]
  unfold build?
  cases h : feed stage value is (.start limit) with
  | ok u b =>
    cases hr : b.returned with
    | true => simpa [finish?, hr] using size_le_of_feed_start h hr
    | false => simp [finish?, hr]
  | error e b => simp

/-- A builder that reads a list and returns has read legal code and a return. -/
theorem exists_legal_of_reads {limit : Nat} (hread : Reads stage puts (.start limit) is b)
    (hr : b.returned = true) :
    ∃ (t : Body) (r : Token .ret) (rest : List Instruction),
      t.Legal stage limit [] ∧ is = t.tokens ++ r.instruction :: rest := by
  obtain ⟨t, last, rest, b₁, b₂, hp⟩ := exists_parsed hread rfl hr
  obtain ⟨_, hscopes⟩ := hp.scopes
  cases hp.ends with
  | elseArm _ hs | endIf _ hs | endLoop _ hs | endSwitch _ hs => cases hscopes.symm.trans hs
  | ret hop => exact ⟨t, ⟨last, hop⟩, rest, hp.legal, hp.eq⟩

/-- The blocks of a first part of what is read are among all blocks. -/
theorem Reads.add_allocated_le {js : List Instruction}
    (hread : Reads stage puts b (is ++ i :: js) b') :
    b.graph.size + allocated is ≤ b'.graph.size := by
  obtain ⟨b₁, hfirst, hrest⟩ := hread.split
  cases hrest with
  | cons hr ht h =>
    rw [← hfirst.size_eq hr]
    exact Nat.le_trans ht.size_le.1 h.size_le.1

/-- Legal code and a return are what a builder finishes on, if there are ids for the blocks that the
code allocates and the two that are there from the start. -/
theorem build_isSome_iff_legal {limit : Nat} {value : Instruction → L} :
    (build? stage limit value is).isSome = true ↔
      ∃ (t : Body) (r : Token .ret) (rest : List Instruction),
        t.Legal stage limit [] ∧ is = t.tokens ++ r.instruction :: rest ∧
          2 + allocated t.tokens ≤ 2 ^ 32 := by
  rw [build_isSome_iff_reads]
  constructor
  · rintro ⟨done, rest, b, rfl, hread, hr, hfit⟩
    obtain ⟨t, r, rest', hlegal, rfl⟩ := exists_legal_of_reads hread hr
    exact ⟨t, r, rest' ++ rest, hlegal, by simp, Nat.le_trans hread.add_allocated_le hfit⟩
  · rintro ⟨t, r, rest, hlegal, rfl, hfit⟩
    obtain ⟨b, hread, hr, -, hsize⟩ := reads_function (fun i => some (value i)) hlegal r
    exact ⟨t.tokens ++ [r.instruction], rest, b, by simp, hread, hr, hsize ▸ hfit⟩

/-- Any number of `discard`s in a row is legal code for pixel shaders, with two blocks for each. -/
theorem exists_discards (k : OperandToken .discard) (n : Nat) :
    ∃ t : Body, t.tokens = List.replicate n k.instruction ∧
      (∀ limit kinds, t.Legal .pixel limit kinds) ∧ allocated t.tokens = 2 * n := by
  induction n with
  | zero => exact ⟨.nil, rfl, fun _ _ => trivial, rfl⟩
  | succ n ih =>
    obtain ⟨t, ht, hlegal, hsize⟩ := ih
    refine ⟨.discard k t, ?_, fun limit kinds => ⟨rfl, hlegal limit kinds⟩, ?_⟩
    · rw [Body.tokens, ht, List.replicate_succ]
    · have htwo : k.instruction.opcode.allocated = 2 := by
        rw [k.opcode_eq]
        rfl
      rw [Body.tokens, allocated, hsize, htwo]
      omega

/-- `discard`s and a return behind them are of the grammar, but the builder finishes on fewer than
`2 ^ 31` of them only: the next one finds no ids for its blocks. So the bound on the ids cannot be
left out of `build_isSome_iff_legal`. -/
theorem build_discards_isSome_iff (k : OperandToken .discard) (r : Token .ret) (limit : Nat)
    (value : Instruction → L) (n : Nat) :
    (build? .pixel limit value (List.replicate n k.instruction ++ [r.instruction])).isSome = true ↔
      n < 2 ^ 31 := by
  obtain ⟨t, ht, hlegal, hsize⟩ := exists_discards k n
  rw [build_isSome_iff_legal]
  constructor
  · rintro ⟨t', r', rest, -, heq, hfit⟩
    -- There is one return in the list, so the code in front of it is all of the `discard`s.
    have htokens : t'.tokens = t.tokens := by
      rw [ht]
      rcases List.append_eq_append_iff.1 heq with ⟨more, hmore, hlast⟩ | ⟨more, hmore, hlast⟩
      · cases more with
        | nil => simpa using hmore
        | cons i more => simp at hlast
      · cases more with
        | nil => simpa using hmore.symm
        | cons i more =>
          have hmem : i ∈ List.replicate n k.instruction := by simp [hmore]
          have hop := r'.opcode_eq
          rw [(List.cons.inj hlast).1, List.eq_of_mem_replicate hmem, k.opcode_eq] at hop
          cases hop
    rw [htokens, hsize] at hfit
    omega
  · intro hn
    exact ⟨t, r, [], hlegal limit [], by rw [ht], by omega⟩

end Builder

end ShaderFlow
