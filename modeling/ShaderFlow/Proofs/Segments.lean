import ShaderFlow.Proofs.Alignment
import ShaderFlow.Proofs.Intake

/-!
# What becomes of ordinary instructions

A compilation hands each ordinary instruction to its lowering once, in the order of the program, and
puts the answer into the current block. The calls are seen by compiling with a lowering that keeps a
list of them (`Lowering.recorded`); what they have to be is read off the program alone
(`Program.request?`). Cut at its control flow, the program falls into segments, and each segment has
a block of its own that holds its answers (`Compilation.placed_of_result`).
-/

namespace ShaderFlow

/-! ## Calls of a lowering -/

/-- What a lowering is asked. -/
structure Request where
  instruction : Instruction
  location : Location
  resources : Resources

/-- A request with the answer to it. -/
structure Call (L : Type) extends Request where
  value : L

/-- The lowering that also keeps a list of the calls that it answers. -/
def Lowering.recorded {σ L : Type} (lower : Lowering σ L) : Lowering (σ × List (Call L)) L :=
  fun instruction location resources (state, calls) => do
    let (value, state) ← lower instruction location resources state
    return (value, state, calls ++ [{ instruction, location, resources, value }])

/-- Whether an instruction is to be lowered: it is no control flow and declares nothing. -/
def Opcode.isLowered (op : Opcode) : Bool :=
  op ≠ .nop && op ≠ .customData && !op.isDeclaration && !op.isControlFlow

/-- What is known about the resources after one more instruction: a declaration adds to them, and an
instruction that is lowered marks those that it uses. -/
def Resources.note (stage : Stage) (r : Resources) (i : Instruction) : Resources :=
  if i.opcode.isResourceDeclaration then
    match declare stage i r with
    | .ok () r' => r'
    | .error _ _ => r
  else if i.opcode.isLowered then
    match track i r with
    | .ok () r' => r'
    | .error _ _ => r
  else r

namespace Program

/-- What the first instructions of a program, up to a number of them, say about the resources. -/
def resourcesAt (p : Program) (k : Nat) : Resources :=
  (p.instructions.take k).foldl (Resources.note p.stage) {}

/-- What a lowering has to be asked at a position, if the instruction there is to be lowered. The
resources are those after the instruction itself. -/
def request? (p : Program) (k : Nat) : Option Request :=
  p.instructions[k]?.bind fun i =>
    if i.opcode.isLowered then some ⟨i, .of k i, p.resourcesAt (k + 1)⟩ else none

/-- What a lowering has to be asked before a position, in order. -/
def requests (p : Program) (k : Nat) : List Request := (List.range k).filterMap p.request?

/-- The position of the first return outside of all scopes. -/
def returnAt? (p : Program) : Option Nat :=
  (List.range p.instructions.length).find? fun k => p.flowAt? k = some .ret ∧ p.openAt k = []

/-- The answers for the instructions of one segment of a program. -/
def segmentValues {L : Type} (p : Program) (m : Nat) (calls : List (Call L)) : List L :=
  (calls.filter fun c => p.segment c.location.instruction = m).map Call.value

/-- The number of discards before a position. -/
def discardsAt (p : Program) (k : Nat) : Nat :=
  (List.range k).countP fun j => p.flowAt? j = some .discard

variable {p : Program} {k : Nat} {i : Instruction}

/-- What is known at the next position is what the instruction adds to what was known. -/
theorem resourcesAt_succ (hi : p.instructions[k]? = some i) :
    p.resourcesAt (k + 1) = (p.resourcesAt k).note p.stage i := by
  rw [resourcesAt, List.take_add_one, hi, List.foldl_append]
  rfl

/-- The requests before the next position are those before and the one that the instruction makes,
if any. -/
theorem requests_succ : p.requests (k + 1) = p.requests k ++ (p.request? k).toList := by
  rw [requests, requests, List.range_succ, List.filterMap_append]
  cases h : p.request? k <;> simp [h]

/-- A `discard` counts from the next position on. -/
theorem discardsAt_succ :
    p.discardsAt (k + 1) = p.discardsAt k + if p.flowAt? k = some .discard then 1 else 0 := by
  rw [discardsAt, discardsAt, List.range_succ, List.countP_append]
  simp [List.countP_singleton]

/-- A request is located where its instruction stands. -/
theorem location_of_request? {r : Request} (h : p.request? k = some r) :
    r.location.instruction = k := by
  obtain ⟨i, -, hr⟩ := Option.bind_eq_some_iff.1 h
  split at hr
  · cases hr
    rfl
  · cases hr

/-- Control flow makes no request. -/
theorem request?_of_flow {op : FlowOp} (h : p.flowAt? k = some op) : p.request? k = none := by
  obtain ⟨i, hi, hop⟩ := flowAt?_eq_some_iff.1 h
  rw [request?, hi, Option.bind_some, if_neg]
  simp [hop, Opcode.isLowered, Opcode.isControlFlow]

end Program

/-! ## Items of a graph -/

/-- The value of an item, unless it is a discard. -/
def BlockItem.value? {L : Type} : BlockItem L → Option L
  | .lowered value => some value
  | .discard => none

/-- Whether an item discards the pixel. -/
def BlockItem.isDiscard {L : Type} : BlockItem L → Bool
  | .lowered _ => false
  | .discard => true

namespace Graph

variable {L : Type} {g : Graph L} {b x : BlockId}

/-- The lowered instructions of the block at a position. -/
def loweredAt (g : Graph L) (b : BlockId) : List L := (g.itemsAt b).filterMap BlockItem.value?

/-- The number of discards in a graph. -/
def discards (g : Graph L) : Nat :=
  ((List.range g.size).flatMap g.itemsAt).countP BlockItem.isDiscard

/-- The lowered instructions of a block are those found at its position. -/
theorem lowered_of_block? {block : Block L} (h : g.block? b = some block) :
    block.lowered = g.loweredAt b := by
  rw [loweredAt, itemsAt, h]
  rfl

/-- A lowered instruction is added to its block and to no other. -/
theorem loweredAt_push_lowered {value : L} (h : b < g.size) :
    (g.push b (.lowered value)).loweredAt x = g.loweredAt x ++ if x = b then [value] else [] := by
  unfold loweredAt
  split
  · next hx =>
    rw [hx, itemsAt_push_self h, List.filterMap_append]
    rfl
  · next hx => rw [itemsAt_push_of_ne hx, List.append_nil]

/-- A new block has no discards. -/
theorem discards_alloc {name : String} : (g.alloc name).discards = g.discards := by
  have hitems : (g.alloc name).itemsAt = g.itemsAt := funext fun _ => itemsAt_alloc
  rw [discards, hitems, size_alloc, List.range_succ, List.flatMap_append]
  simp [discards, itemsAt_of_size_le (Nat.le_refl g.size)]

/-- Closing a block adds no discard. -/
theorem discards_close {t : Terminator} : (g.close b t).discards = g.discards := by
  have hitems : (g.close b t).itemsAt = g.itemsAt := funext fun _ => itemsAt_close
  rw [discards, hitems, size_close, discards]

/-- A lowered instruction is no discard. -/
theorem discards_push_lowered {value : L} :
    (g.push b (.lowered value)).discards = g.discards := by
  unfold discards
  rw [size_push, List.countP_eq_length_filter, List.countP_eq_length_filter, List.filter_flatMap,
    List.filter_flatMap]
  congr 1
  refine List.flatMap_congr fun x hx => ?_
  by_cases hxb : x = b
  · subst hxb
    rw [itemsAt_push_self (List.mem_range.1 hx), List.filter_append]
    exact List.append_nil _
  · rw [itemsAt_push_of_ne hxb]

/-- The blocks of a `discard` hold one discard. -/
theorem discards_allocDiscard : g.allocDiscard.discards = g.discards + 1 := by
  have hold : (List.range g.size).flatMap g.allocDiscard.itemsAt =
      (List.range g.size).flatMap g.itemsAt := by
    refine List.flatMap_congr fun x hx => ?_
    rw [itemsAt_allocDiscard_of_ne (Nat.ne_of_lt (List.mem_range.1 hx))]
  have hlast : g.allocDiscard.itemsAt (g.size + 1) = [] := by
    rw [itemsAt_allocDiscard_of_ne (Nat.succ_ne_self _), itemsAt_of_size_le (Nat.le_succ _)]
  simp [discards, List.range_succ, hold, itemsAt_allocDiscard_self, hlast, BlockItem.isDiscard]

end Graph

namespace Builder

variable {L : Type} {stage : Stage} {b b' : Builder L} {i : Instruction}

/-- Control flow lowers nothing. -/
theorem Step.loweredAt (h : Step stage b i b') (x : BlockId) :
    b'.graph.loweredAt x = b.graph.loweredAt x := by
  cases h with
  | discard =>
    unfold Graph.loweredAt
    rw [Graph.itemsAt_close]
    by_cases hx : x = b.graph.size
    · rw [hx, Graph.itemsAt_allocDiscard_self, Graph.itemsAt_of_size_le (Nat.le_refl _)]
      rfl
    · rw [Graph.itemsAt_allocDiscard_of_ne hx]
  | _ => simp [Graph.loweredAt]

/-- A discard is the only control flow that puts a discard into a block. -/
theorem Step.discards (h : Step stage b i b') :
    b'.graph.discards = b.graph.discards + if i.opcode = .flow .discard then 1 else 0 := by
  cases h with
  | discard hop => simp [hop, Graph.discards_close, Graph.discards_allocDiscard]
  | leave way hop | leaveIf way hop =>
    cases way <;> simp [hop, Graph.discards_close, Graph.discards_alloc, Leave.op, Leave.opIf]
  | beginIf hop | elseArm hop | endIf hop | beginLoop hop | endLoop hop | beginSwitch hop
  | caseLabel hop | defaultLabel hop | endSwitch hop | ret hop =>
    simp [hop, Graph.discards_close, Graph.discards_alloc]

/-- A function returns at a `ret` outside of all scopes, and only there. -/
theorem Step.returned_iff (h : Step stage b i b') (hr : b.returned = false) :
    b'.returned = true ↔ i.opcode = .flow .ret ∧ b.scopes = [] := by
  cases h with
  | ret hop hs => exact iff_of_true rfl ⟨hop, hs⟩
  | leave way hop ht hin =>
    refine iff_of_false (by simp [hr]) fun ⟨hop', hs⟩ => ?_
    cases way with
    | ret => exact hin rfl hs
    | _ => cases hop.symm.trans hop'
  | leaveIf way hop =>
    refine iff_of_false (by simp [hr]) fun ⟨hop', _⟩ => ?_
    cases way <;> cases hop.symm.trans hop'
  | beginIf hop | elseArm hop | endIf hop | beginLoop hop | endLoop hop | beginSwitch hop
  | caseLabel hop | defaultLabel hop | endSwitch hop | discard hop =>
    refine iff_of_false (by simp [hr]) fun ⟨hop', _⟩ => ?_
    cases hop.symm.trans hop'

end Builder

/-! ## One instruction -/

/-- What is ordinary is to be lowered, and it declares nothing. -/
theorem Opcode.isLowered_of_isOrdinary {op : Opcode} (h : op.isOrdinary = true) :
    op.isLowered = true ∧ op.isResourceDeclaration = false := by
  cases op with
  | sample | view | atomic | plain =>
    simp [isLowered, isDeclaration, isControlFlow, isResourceDeclaration]
  | _ => cases h

/-- What declares something is not to be lowered. -/
theorem Opcode.isLowered_of_isResourceDeclaration {op : Opcode}
    (h : op.isResourceDeclaration = true) : op.isLowered = false := by
  cases op with
  | resourceDcl | customData => simp [isLowered, isDeclaration]
  | _ => cases h

/-- A declaration of an input or output is not lowered and declares no resource. -/
theorem Opcode.isLowered_of_isStageDeclaration {op : Opcode} (h : op.isStageDeclaration = true) :
    op.isLowered = false ∧ op.isResourceDeclaration = false := by
  cases op with
  | stageDcl => simp [isLowered, isDeclaration, isResourceDeclaration]
  | _ => cases h

/-- Control flow is not lowered and declares no resource. -/
theorem Opcode.isLowered_of_isControlFlow {op : Opcode} (h : op.isControlFlow = true) :
    op.isLowered = false ∧ op.isResourceDeclaration = false := by
  cases op with
  | flow => simp [isLowered, isControlFlow, isResourceDeclaration]
  | _ => cases h

namespace Session

variable {σ L : Type} {stage : Stage} {signatures : Signatures} {lower : Lowering σ L}
  {position : Nat} {i : Instruction} {s s' : Session σ L}

/-- The session in which the lowering has kept the given calls. -/
def record (s : Session σ L) (calls : List (Call L)) : Session (σ × List (Call L)) L where
  builder := s.builder
  resources := s.resources
  interface := s.interface
  lowering := (s.lowering, calls)

/-- A session takes note of an instruction as the program says. -/
theorem Takes.resources_eq (h : Takes stage signatures lower position s i s') :
    s'.resources = s.resources.note stage i := by
  unfold Resources.note
  cases h with
  | nop hop => simp [hop, Opcode.isResourceDeclaration, Opcode.isLowered]
  | resource hop h => simp [hop, h]
  | interface hop => simp [Opcode.isLowered_of_isStageDeclaration hop]
  | control hop => simp [Opcode.isLowered_of_isControlFlow hop]
  | ordinary hop h => simp [Opcode.isLowered_of_isOrdinary hop, h]

/-- A discard is the only instruction that puts a discard into a block. -/
theorem Takes.discards_eq (h : Takes stage signatures lower position s i s')
    (hfit : s'.builder.graph.size ≤ UInt32.size) :
    s'.builder.graph.discards =
      s.builder.graph.discards + if i.opcode = .flow .discard then 1 else 0 := by
  cases h with
  | nop hop => simp [hop]
  | resource hop | interface hop =>
    rw [if_neg]
    · rfl
    · intro hflow
      rw [hflow] at hop
      cases hop
  | control _ h =>
    have hstep := Builder.step_of_control h hfit
    exact hstep.discards
  | ordinary hop =>
    rw [if_neg]
    · exact Graph.discards_push_lowered
    · intro hflow
      rw [hflow] at hop
      cases hop

/-- What an instruction does when calls are kept: it adds one call if it is to be lowered, and its
answer goes to the current block. -/
theorem Takes.exists_calls (h : Takes stage signatures lower position s i s')
    (hfit : s'.builder.graph.size ≤ UInt32.size)
    (hlt : s.builder.current < s.builder.graph.size) (calls : List (Call L)) :
    ∃ new : List (Call L),
      Takes stage signatures lower.recorded position (s.record calls) i
        (s'.record (calls ++ new)) ∧
      new.map Call.toRequest =
        (if i.opcode.isLowered then [⟨i, .of position i, s'.resources⟩] else []) ∧
      ∀ x, s'.builder.graph.loweredAt x = s.builder.graph.loweredAt x ++
        if x = s.builder.current then new.map Call.value else [] := by
  cases h with
  | nop hop =>
    refine ⟨[], ?_, by simp [hop, Opcode.isLowered], by simp⟩
    rw [List.append_nil]
    exact .nop hop
  | resource hop h =>
    refine ⟨[], ?_, by simp [Opcode.isLowered_of_isResourceDeclaration hop], by simp⟩
    rw [List.append_nil]
    exact .resource hop h
  | interface hop h =>
    refine ⟨[], ?_, by simp [Opcode.isLowered_of_isStageDeclaration hop], by simp⟩
    rw [List.append_nil]
    exact .interface hop h
  | control hop h =>
    have hstep := Builder.step_of_control h hfit
    refine ⟨[], ?_, by simp [Opcode.isLowered_of_isControlFlow hop], by simpa using hstep.loweredAt⟩
    rw [List.append_nil]
    exact .control hop h
  | @ordinary resources value lowering hop h hl =>
    refine ⟨[⟨⟨i, .of position i, resources⟩, value⟩], .ordinary hop h ?_, ?_, fun x => ?_⟩
    · have hrecorded : lower.recorded i (.of position i) resources (s.lowering, calls) =
          lower i (.of position i) resources s.lowering >>= fun a =>
            .ok (a.1, a.2, calls ++ [⟨⟨i, .of position i, resources⟩, a.1⟩]) := rfl
      exact hrecorded.trans (by rw [hl]; rfl)
    · rw [if_pos (Opcode.isLowered_of_isOrdinary hop).1]
      rfl
    · exact Graph.loweredAt_push_lowered hlt

end Session

/-! ## All instructions -/

namespace Compilation

variable {σ L : Type} {C : Compilation σ L}

/-- The compilation that also keeps the calls of its lowering. -/
def recorded (C : Compilation σ L) : Compilation (σ × List (Call L)) L where
  program := C.program
  signatures := C.signatures
  lower := C.lower.recorded
  initial := (C.initial, [])
  options := C.options

namespace History

variable {H : C.History} {k n : Nat} {calls : List (Call L)}

/-- The sessions know about the resources what the program says up to there. -/
theorem resources_eq (hk : k ≤ H.length) : (H.session k).resources = C.program.resourcesAt k := by
  induction k with
  | zero =>
    rw [H.session_zero]
    rfl
  | succ k ih =>
    obtain ⟨i, hi, hs⟩ := H.step hk
    rw [(Session.step_eq_ok_iff.1 hs).resources_eq, ih (Nat.le_of_lt hk),
      Program.resourcesAt_succ hi]

/-- The graph holds the discards of the program up to there. -/
theorem discards_eq (hk : k ≤ H.length) :
    (H.builder k).graph.discards = C.program.discardsAt k := by
  induction k with
  | zero =>
    rw [builder_zero]
    rfl
  | succ k ih =>
    obtain ⟨i, hi, hs⟩ := H.step hk
    have hflow : C.program.flowAt? k = some .discard ↔ i.opcode = .flow .discard := by
      simp [Program.flowAt?_eq_some_iff, hi]
    rw [builder, (Session.step_eq_ok_iff.1 hs).discards_eq (size_le hk), ← builder,
      ih (Nat.le_of_lt hk), Program.discardsAt_succ]
    simp [hflow]

/-- The calls before a position: with them the recorded compilation comes to the position, they are
those that the program asks for, and their answers are in the blocks that were current. -/
structure Logs (H : C.History) (k : Nat) (calls : List (Call L)) : Prop where
  session : C.recorded.sessionAt k = .ok ((H.session k).record calls)
  requests : calls.map Call.toRequest = C.program.requests k
  lowered : ∀ x, (H.builder k).graph.loweredAt x =
    (calls.filter fun c => H.current c.location.instruction = x).map Call.value

/-- Calls that are logged belong to instructions that have been taken in. -/
theorem Logs.lt (h : H.Logs k calls) {c : Call L} (hc : c ∈ calls) :
    c.location.instruction < k := by
  have hmem : c.toRequest ∈ calls.map Call.toRequest := List.mem_map.2 ⟨c, hc, rfl⟩
  rw [h.requests] at hmem
  obtain ⟨j, hj, hr⟩ := List.mem_filterMap.1 hmem
  rw [Program.location_of_request? hr]
  exact List.mem_range.1 hj

/-- At the start nothing is logged. -/
theorem logs_zero : H.Logs 0 [] := by
  refine ⟨?_, rfl, fun x => ?_⟩
  · rw [H.session_zero]
    rfl
  · rw [builder_zero]
    rcases x with _ | _ | x <;> rfl

/-- One more instruction adds its call to the log, if it is to be lowered. -/
theorem Logs.exists_succ (h : H.Logs k calls) (hk : k < H.length) :
    ∃ calls', H.Logs (k + 1) calls' := by
  obtain ⟨i, hi, hs⟩ := H.step hk
  obtain ⟨new, hnew, hrequest, hlowered⟩ :=
    (Session.step_eq_ok_iff.1 hs).exists_calls (size_le hk) (current_lt hk) calls
  replace hrequest : new.map Call.toRequest = (C.program.request? k).toList := by
    rw [hrequest, Program.request?, hi, Option.bind_some, resources_eq hk]
    split <;> rfl
  have hposition : ∀ c ∈ new, c.location.instruction = k := by
    intro c hc
    have hmem : c.toRequest ∈ new.map Call.toRequest := List.mem_map.2 ⟨c, hc, rfl⟩
    rw [hrequest, Option.mem_toList] at hmem
    exact Program.location_of_request? hmem
  refine ⟨calls ++ new, sessionAt_succ h.session hi (H.running hk) hnew.step_eq_ok, ?_, ?_⟩
  · rw [List.map_append, h.requests, hrequest, Program.requests_succ]
  · intro x
    have hfilter : (new.filter fun c => H.current c.location.instruction = x) =
        if x = H.current k then new else [] := by
      split
      · next hx => exact List.filter_eq_self.2 fun c hc => by simp [hposition c hc, hx]
      · next hx =>
        refine List.filter_eq_nil_iff.2 fun c hc => ?_
        simpa [hposition c hc] using Ne.symm hx
    rw [builder, hlowered, ← builder, h.lowered, List.filter_append, List.map_append, hfilter,
      current, builder]
    split <;> rfl

/-- At every position there is a log that fits. -/
theorem exists_logs (hk : k ≤ H.length) : ∃ calls, H.Logs k calls := by
  induction k with
  | zero => exact ⟨[], logs_zero⟩
  | succ k ih =>
    obtain ⟨calls, h⟩ := ih (Nat.le_of_lt hk)
    exact h.exists_succ hk

/-- The builder has no open scope where the program has none. -/
theorem scopes_eq_nil_iff (hk : k ≤ H.length) :
    (H.builder k).scopes = [] ↔ C.program.openAt k = [] := by
  have hlen := (aligned hk).length_eq
  rw [← List.length_eq_zero_iff, ← hlen, List.length_eq_zero_iff]

/-- The last instruction that is taken in is the first return outside of all scopes. -/
theorem returns_iff (hk : k < H.length) :
    (C.program.flowAt? k = some .ret ∧ C.program.openAt k = []) ↔ k + 1 = H.length := by
  rw [← scopes_eq_nil_iff (Nat.le_of_lt hk)]
  constructor
  · rintro ⟨hop, hs⟩
    obtain ⟨i, hi, hstep⟩ := control hk hop
    have hr := (hstep.returned_iff (H.running hk)).2 ⟨hi, hs⟩
    refine Nat.le_antisymm hk (Nat.le_of_not_lt fun hlt => ?_)
    cases (H.running hlt).symm.trans hr
  · intro hlast
    have hr : (H.builder (k + 1)).returned = true := by
      rw [builder, hlast]
      exact H.returned
    cases hop : C.program.flowAt? k with
    | none =>
      rw [(quiet hk hop).returned] at hr
      cases (H.running hk).symm.trans hr
    | some op =>
      obtain ⟨i, hi, hstep⟩ := control hk hop
      obtain ⟨hret, hs⟩ := (hstep.returned_iff (H.running hk)).1 hr
      cases hi.symm.trans hret
      exact ⟨rfl, hs⟩

/-- The history ends with the first return outside of all scopes. -/
theorem returnAt?_eq (hn : n + 1 = H.length) : C.program.returnAt? = some n := by
  have hlt : n < H.length := hn ▸ Nat.lt_succ_self n
  obtain ⟨i, hi, -⟩ := takes hlt
  refine List.find?_range_eq_some.2 ⟨decide_eq_true ((returns_iff hlt).2 hn), ?_, fun j hj => ?_⟩
  · exact List.mem_range.2 (List.getElem?_eq_some_iff.1 hi).1
  · have hne : j + 1 ≠ H.length := hn ▸ Nat.ne_of_lt (Nat.succ_lt_succ hj)
    rw [Bool.not_eq_true', decide_eq_false_iff_not]
    exact mt (returns_iff (Nat.lt_trans hj hlt)).1 hne

end History

/-- How the calls of a lowering and the blocks of a graph fit the part of a program before its
return. -/
structure Placed (C : Compilation σ L) (n : Nat) (calls : List (Call L)) (g : Graph L) : Prop where
  /-- There is one call for each instruction that is to be lowered, in order. -/
  requests : calls.map Call.toRequest = C.program.requests n
  /-- The block that is filled at a position holds the answers for the whole segment. -/
  segment : ∀ k ≤ n, ∃ x block, C.blockAt? k = some x ∧ g.block? x = some block ∧
    block.lowered = C.program.segmentValues (C.program.segment k) calls
  /-- Each segment has a block of its own. -/
  distinct : ∀ j ≤ n, ∀ k ≤ n,
    C.blockAt? j = C.blockAt? k ↔ C.program.segment j = C.program.segment k
  /-- Blocks that belong to no segment hold no lowered instructions. -/
  unfilled : ∀ x block, g.block? x = some block → (∀ k ≤ n, C.blockAt? k ≠ some x) →
    block.lowered = []
  discards : g.discards = C.program.discardsAt n

/-- Calls that are kept do not change what a compilation gives. -/
theorem result_recorded {c : CompiledShader L} {final : σ} {s : Session σ L} {k : Nat}
    {calls : List (Call L)} (h : C.result = .ok (c, final)) (hs : C.sessionAt k = .ok s)
    (hr : s.builder.returned = true) (hs' : C.recorded.sessionAt k = .ok (s.record calls))
    (hk : k ≤ C.program.instructions.length) : C.recorded.result = .ok (c, final, calls) := by
  have hrun := sessionAt_of_returned hs hr hk
  have hrun' : C.recorded.sessionAt C.recorded.program.instructions.length =
      .ok (s.record calls) := sessionAt_of_returned hs' hr hk
  rw [sessionAt, List.take_length] at hrun hrun'
  unfold result Program.compile at h
  simp only [except_bind_eq_ok_iff] at h
  obtain ⟨u, hu, s₁, hs₁, graph, hg, t, ht, h⟩ := h
  cases hrun.symm.trans hs₁
  cases h
  unfold result Program.compile
  simp only [except_bind_eq_ok_iff]
  exact ⟨u, hu, s.record calls, hrun', graph, hg, t, ht, rfl⟩

/-- A log that fits at the end says where everything has gone. -/
theorem History.Logs.placed {H : C.History} {n : Nat} {calls : List (Call L)}
    (h : H.Logs H.length calls) (hn : n + 1 = H.length) : C.Placed n calls H.graph := by
  have hlt {k : Nat} (hk : k ≤ n) : k < H.length := hn ▸ Nat.lt_succ_of_le hk
  have hblockAt {k : Nat} (hk : k ≤ n) : C.blockAt? k = some (H.current k) :=
    H.blockAt?_eq_some_iff.2 ⟨hlt hk, rfl⟩
  obtain ⟨hret, -⟩ := (History.returns_iff (hlt (Nat.le_refl n))).2 hn
  constructor
  case requests =>
    rw [h.requests, ← hn, Program.requests_succ, Program.request?_of_flow hret]
    exact List.append_nil _
  case segment =>
    intro k hk
    have hsize : H.current k < H.graph.size :=
      Nat.lt_of_lt_of_le (current_lt (hlt hk)) (size_mono (Nat.le_of_lt (hlt hk)) (Nat.le_refl _))
    obtain ⟨block, hblock⟩ : ∃ block, H.graph.block? (H.current k) = some block :=
      Option.ne_none_iff_exists'.1 (mt Graph.block?_eq_none_iff.1 (Nat.not_le_of_lt hsize))
    refine ⟨H.current k, block, hblockAt hk, hblock, ?_⟩
    rw [Graph.lowered_of_block? hblock, graph, h.lowered, Program.segmentValues]
    congr 1
    refine List.filter_congr fun c hc => ?_
    rw [decide_eq_decide]
    exact current_eq_iff (h.lt hc) (hlt hk)
  case distinct =>
    intro j hj k hk
    rw [hblockAt hj, hblockAt hk, Option.some_inj]
    exact current_eq_iff (hlt hj) (hlt hk)
  case unfilled =>
    intro x block hblock hx
    rw [Graph.lowered_of_block? hblock, graph, h.lowered, List.map_eq_nil_iff,
      List.filter_eq_nil_iff]
    intro c hc
    have hle : c.location.instruction ≤ n := by
      have hpos := h.lt hc
      rw [← hn] at hpos
      exact Nat.le_of_lt_succ hpos
    rw [decide_eq_true_iff]
    rintro rfl
    exact hx _ hle (hblockAt hle)
  case discards =>
    rw [graph, discards_eq (Nat.le_refl _), ← hn, Program.discardsAt_succ, hret]
    rfl

/-- No ordinary instruction is lost, taken twice or moved. Up to its return, a program that compiles
has each instruction that is to be lowered handed to the lowering once, with what is then known
about the resources, and each segment of it has a block of its own with the answers. -/
theorem placed_of_result {c : CompiledShader L} {final : σ} (h : C.result = .ok (c, final)) :
    ∃ n calls, C.program.returnAt? = some n ∧ C.recorded.result = .ok (c, final, calls) ∧
      C.Placed n calls c.graph := by
  obtain ⟨H, hg⟩ := exists_history h
  obtain ⟨n, hn⟩ := H.exists_last
  obtain ⟨calls, hlogs⟩ := H.exists_logs (Nat.le_refl H.length)
  have hlen : H.length ≤ C.program.instructions.length := by
    have hlt : n < H.length := hn ▸ Nat.lt_succ_self n
    obtain ⟨i, hi, -⟩ := History.takes hlt
    rw [← hn]
    exact (List.getElem?_eq_some_iff.1 hi).1
  refine ⟨n, calls, History.returnAt?_eq hn, ?_, hg ▸ hlogs.placed hn⟩
  exact result_recorded h (History.sessionAt_eq (Nat.le_refl _)) H.returned hlogs.session hlen

/-- A pixel shader with a branch that writes a buffer and may discard, and code behind its return.
The buffer is declared after the first instruction and read behind the branch. -/
def ofBranchProgram : Compilation Unit Instruction where
  program := {
    stage := .pixel
    model := .sm51
    instructions := [
      { opcode := .resourceDcl .temps, declaration := some (.temps 2) },
      { opcode := .plain .mov },
      { opcode := .resourceDcl .uavRaw, operands := [.register .unorderedAccessView (.d1 0)],
        declaration := some (.uavRaw 0 0) },
      { opcode := .flow .beginIf, operands := [.register .temp (.d1 0)] },
      { opcode := .view .storeRaw, operands := [.register .unorderedAccessView (.d1 0)] },
      { opcode := .flow .discard, operands := [.register .temp (.d1 1)] },
      { opcode := .nop },
      { opcode := .plain .mul },
      { opcode := .flow .endIf },
      { opcode := .view .ldRaw, operands := [.register .unorderedAccessView (.d1 0)] },
      { opcode := .flow .ret },
      { opcode := .plain .mov }] }
  signatures := ⟨[], []⟩
  lower := .passthrough
  initial := ()
  options := {}

/-- Four of its instructions are lowered. The first is shown no buffer, the next two are shown one
that is written, and the last is shown one that is read, too. -/
theorem placed_ofBranchProgram :
    ∃ c calls, ofBranchProgram.recorded.result = .ok (c, (), calls) ∧
      (calls.map fun call => call.resources.accessViews[(0 : UInt32)]?.map (·.use)) =
        [none, some ⟨false, true⟩, some ⟨false, true⟩, some ⟨true, true⟩] ∧
      ofBranchProgram.Placed 10 calls c.graph := by
  obtain ⟨c, ⟨⟩, hc⟩ := exists_result (C := ofBranchProgram) (by decide +kernel)
  obtain ⟨n, calls, hn, hresult, hplaced⟩ := placed_of_result hc
  have hten : ofBranchProgram.program.returnAt? = some 10 := by decide
  cases hten.symm.trans hn
  refine ⟨c, calls, hresult, ?_, hplaced⟩
  have huses := congrArg
    (List.map fun r => r.resources.accessViews[(0 : UInt32)]?.map AccessView.use) hplaced.requests
  rw [List.map_map] at huses
  exact huses.trans (by decide +kernel)

end Compilation

end ShaderFlow
