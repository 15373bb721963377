import OpcodeRecovery.Proofs.Accesses
import OpcodeRecovery.Proofs.Batches
import OpcodeRecovery.Proofs.CallSites
import OpcodeRecovery.Proofs.Comparisons

/-!
Every access is within bounds. A comparison cuts a slice only of a body that is long enough; a
window is as long as its pattern, so the positions that a shape reads stand in it; and before a call
there are as many instructions as flags when they are cut out. So checked recovery never fails, and
its answers are those of recovery without checks.
-/
namespace OpcodeRecovery.Checked

variable {b : Body} {p : Pattern}

@[simp] theorem ok_bind {α β : Type} (a : α) (f : α → Checked β) : (Except.ok a >>= f) = f a := rfl

theorem difference_eq_ok {m n : Nat} (small : n ≤ m) : difference m n = .ok (m - n) := if_pos small

theorem slice_eq_ok {start stop : Nat} (ordered : start ≤ stop) (bound : stop ≤ b.length) :
    slice b start stop = .ok (b.extract start stop) :=
  if_pos ⟨ordered, bound⟩

theorem read_eq_ok {index : Nat} {i : Instruction} (there : b[index]? = some i) :
    read b index = .ok i := by
  rw [read, there]

example : read [] Generated.argumentIndexLoadField = .error (.index ⟨0, 2⟩) := rfl

theorem get_eq_ok {w : Window} {index : Nat} {i : Instruction} (there : w.get? index = some i) :
    get w index = .ok i := by
  rw [get, Window.get, there]
  rfl

/-! ## Comparisons -/

theorem isExactly_extract_iff {start : Nat} (bound : start + p.length ≤ b.length) :
    Body.isExactly (b.extract start (start + p.length)) p = true ↔ b.Reads p start := by
  rw [Body.isExactly_iff]
  constructor
  · intro same
    exact ⟨bound, same⟩
  · intro reads
    exact reads.opcodes

theorem startsWith_eq_ok (b : Body) (p : Pattern) : startsWith b p = .ok (b.startsWith p) := by
  by_cases fits : p.length ≤ b.length
  · have cut : slice b 0 p.length = .ok (b.extract 0 p.length) := slice_eq_ok (Nat.zero_le _) fits
    have front : Body.isExactly (b.extract 0 p.length) p = b.startsWith p := by
      have bound : 0 + p.length ≤ b.length := by omega
      have whole := isExactly_extract_iff bound
      rw [Nat.zero_add] at whole
      rw [Bool.eq_iff_iff, whole, Body.startsWith_iff_reads]
    rw [startsWith, if_pos fits, cut, ok_bind, front]
    rfl
  · have short : b.startsWith p = false := by
      rw [Bool.eq_false_iff, ne_eq, Body.startsWith_iff_reads]
      intro reads
      have bound := reads.bound
      omega
    rw [startsWith, if_neg fits, short]
    rfl

theorem endsWith_eq_ok (b : Body) (p : Pattern) : endsWith b p = .ok (b.endsWith p) := by
  by_cases fits : p.length ≤ b.length
  · have cut : slice b (b.length - p.length) b.length =
        .ok (b.extract (b.length - p.length) b.length) :=
      slice_eq_ok (Nat.sub_le _ _) (Nat.le_refl _)
    have stop : b.length - p.length + p.length = b.length := Nat.sub_add_cancel fits
    have back : Body.isExactly (b.extract (b.length - p.length) b.length) p = b.endsWith p := by
      have whole := isExactly_extract_iff (Nat.le_of_eq stop)
      rw [stop] at whole
      rw [Bool.eq_iff_iff, whole, Body.endsWith_iff_reads]
      constructor
      · intro reads
        exact ⟨_, stop, reads⟩
      · rintro ⟨start, size, reads⟩
        have same : start = b.length - p.length := by omega
        exact same ▸ reads
    rw [endsWith, if_pos fits, difference_eq_ok fits, ok_bind, cut, ok_bind, back]
    rfl
  · have short : b.endsWith p = false := by
      rw [Bool.eq_false_iff, ne_eq, Body.endsWith_iff_reads]
      rintro ⟨start, size, reads⟩
      have bound := reads.bound
      omega
    rw [endsWith, if_neg fits, short]
    rfl

theorem findIdx?_windows_eq (nonempty : p ≠ []) (fits : p.length ≤ b.length) :
    (((List.range (b.length + 1 - p.length)).map fun start =>
      b.extract start (start + p.length)).findIdx? fun w => Body.isExactly w p) =
      (b.find? p).map Window.start := by
  have reads_iff (start : Nat) (inside : start < b.length + 1 - p.length) :
      Body.isExactly (b.extract start (start + p.length)) p = true ↔ b.Reads p start :=
    isExactly_extract_iff (by omega)
  cases located : b.find? p with
  | none =>
    rw [Option.map_none, List.findIdx?_eq_none_iff]
    intro w member
    obtain ⟨start, inside, rfl⟩ := List.mem_map.mp member
    rw [List.mem_range] at inside
    rw [Bool.eq_false_iff, ne_eq, reads_iff start inside]
    rcases Body.find?_eq_none_iff.mp located with empty | nowhere
    · exact absurd empty nonempty
    · exact nowhere start
  | some w =>
    obtain ⟨_, reads, least, _⟩ := Body.find?_eq_some_iff_reads.mp located
    have bound := reads.bound
    rw [Option.map_some, List.findIdx?_eq_some_iff_getElem]
    refine ⟨by rw [List.length_map, List.length_range]; omega, ?_, ?_⟩
    · rw [List.getElem_map, List.getElem_range, reads_iff _ (by omega)]
      exact reads
    · intro earlier smaller
      rw [List.getElem_map, List.getElem_range, reads_iff _ (by omega)]
      exact least earlier smaller

theorem find?_eq_ok (b : Body) (p : Pattern) : find? b p = .ok (b.find? p) := by
  by_cases hopeless : p = [] ∨ b.length < p.length
  · have missing : b.find? p = none := by
      rw [Body.find?_eq_none_iff]
      refine hopeless.imp_right fun short start reads => ?_
      have bound := reads.bound
      omega
    have guard : (p.isEmpty || decide (b.length < p.length)) = true := by simpa using hopeless
    rw [find?, if_pos guard, missing]
    rfl
  · obtain ⟨nonempty, long⟩ := not_or.mp hopeless
    have guard : ¬ (p.isEmpty || decide (b.length < p.length)) = true := by simpa using hopeless
    have size : p.length ≠ 0 := fun zero => nonempty (List.length_eq_zero_iff.mp zero)
    have first := findIdx?_windows_eq nonempty (Nat.le_of_not_lt long)
    have listed : windows b p.length = .ok _ := if_neg size
    rw [find?, if_neg guard, listed, ok_bind, first]
    cases located : b.find? p with
    | none => rfl
    | some w =>
      obtain ⟨_, reads, _, cut⟩ := Body.find?_eq_some_iff_reads.mp located
      have taken : slice b w.start (w.start + p.length) = .ok w.instructions := by
        rw [slice_eq_ok (Nat.le_add_right _ _) reads.bound, cut]
      simp only [Option.map_some, taken, ok_bind]
      rfl

/-! ## Calls -/

theorem anyM_eq_ok {α : Type} {xs : List α} {f : α → Checked Bool} {g : α → Bool}
    (each : ∀ x ∈ xs, f x = .ok (g x)) : xs.anyM f = .ok (xs.any g) := by
  induction xs with
  | nil => rfl
  | cons x xs ih =>
    rw [List.forall_mem_cons] at each
    rw [List.anyM, each.1, ok_bind, List.any_cons]
    cases g x with
    | true => rfl
    | false => exact ih each.2

theorem bodyContains_eq_ok (s : MethodSource) (p : Pattern) (t : Token) :
    bodyContains s p t = .ok (s.bodyContains p t) := by
  unfold bodyContains MethodSource.bodyContains
  cases s.body? t with
  | none => rfl
  | some b =>
    simp only [find?_eq_ok, ok_bind]
    rfl

theorem calleeContains_eq_ok (v : VirtualInstruction) (p : Pattern) :
    calleeContains v p = .ok (v.calleeContains p) :=
  anyM_eq_ok fun t _ => bodyContains_eq_ok v.context.methods p t

theorem all_zip_truth?_eq {arguments : List Instruction} {flags : List Bool}
    (size : arguments.length = flags.length) :
    ((arguments.zip flags).all fun (i, flag) => i.truth? == some flag) =
      (arguments.map Instruction.truth? == flags.map some) := by
  induction arguments generalizing flags with
  | nil =>
    cases flags with
    | nil => rfl
    | cons flag flags => cases size
  | cons i arguments ih =>
    cases flags with
    | nil => cases size
    | cons flag flags =>
      rw [List.zip_cons_cons, List.all_cons, ih (Nat.succ.inj size)]
      rfl

def passesAt (v : VirtualInstruction) (p : Pattern) (flags : List Bool) (call : Instruction)
    (index : Nat) : Bool :=
  call.callTarget?.any fun target =>
    decide (flags.length ≤ index) &&
    ((v.body.extract (index - flags.length) index).map Instruction.truth? == flags.map some) &&
    v.context.methods.bodyContains p target

theorem callPasses_eq_ok {v : VirtualInstruction} {flags : List Bool} {call : Instruction}
    {index : Nat} (there : v.body[index]? = some call) :
    callPasses v p flags call index = .ok (passesAt v p flags call index) := by
  unfold callPasses passesAt
  cases call.callTarget? with
  | none => rfl
  | some target =>
    by_cases early : index < flags.length
    · simp only [Option.any_some, if_pos early, decide_eq_false (Nat.not_le_of_lt early)]
      rfl
    · have enough : flags.length ≤ index := Nat.le_of_not_lt early
      have bound : index < v.body.length := (List.getElem?_eq_some_iff.mp there).1
      have size : (v.body.extract (index - flags.length) index).length = flags.length := by
        rw [List.extract_eq_take_drop, List.length_take, List.length_drop]
        omega
      have cut := slice_eq_ok (Nat.sub_le index flags.length) (Nat.le_of_lt bound)
      simp only [Option.any_some, if_neg early, difference_eq_ok enough, cut, ok_bind,
        all_zip_truth?_eq size, decide_eq_true enough, Bool.true_and]
      cases List.map Instruction.truth? _ == List.map some flags with
      | true => exact bodyContains_eq_ok _ _ _
      | false => rfl

theorem passesTo_iff_position {flags : List Bool} {target : Token} :
    b.PassesTo flags target ↔
      ∃ call index, b[index]? = some call ∧ call.callTarget? = some target ∧
        flags.length ≤ index ∧
        (b.extract (index - flags.length) index).map Instruction.truth? = flags.map some := by
  constructor
  · rintro ⟨before, arguments, call, after, rfl, called, read⟩
    have size : arguments.length = flags.length := by simpa using congrArg List.length read
    refine ⟨call, before.length + arguments.length, ?_, called, by omega, ?_⟩
    · simp
    · have cut : (before ++ arguments ++ [call] ++ after).extract
          (before.length + arguments.length - flags.length) (before.length + arguments.length) =
          arguments := by
        simp [List.extract_eq_take_drop, ← size]
      rw [cut, read]
  · rintro ⟨call, index, there, called, enough, read⟩
    obtain ⟨bound, here⟩ := List.getElem?_eq_some_iff.mp there
    refine ⟨b.take (index - flags.length), _, call, b.drop (index + 1), ?_, called, read⟩
    have front : b.take (index - flags.length) ++ b.extract (index - flags.length) index =
        b.take index := by
      rw [List.extract_eq_take_drop]
      have parts := List.take_append_drop (index - flags.length) (b.take index)
      rwa [List.take_take, Nat.min_eq_left (Nat.sub_le _ _), List.drop_take] at parts
    rw [front, ← here, List.take_append_getElem bound, List.take_append_drop]

theorem any_passesAt_eq (v : VirtualInstruction) (p : Pattern) (flags : List Bool) :
    (v.body.zipIdx.any fun x => passesAt v p flags x.1 x.2) = v.flaggedCallContains p flags := by
  rw [Bool.eq_iff_iff, VirtualInstruction.flaggedCallContains, List.any_eq_true, List.any_eq_true]
  simp only [Bool.and_eq_true]
  constructor
  · rintro ⟨⟨call, index⟩, member, passed⟩
    obtain ⟨target, called, tested⟩ := (Option.any_eq_true _ _).mp passed
    simp only [Bool.and_eq_true, decide_eq_true_iff, beq_iff_eq] at tested
    obtain ⟨⟨enough, read⟩, holds⟩ := tested
    have passes : v.body.PassesTo flags target := passesTo_iff_position.mpr
      ⟨call, index, List.mem_zipIdx_iff_getElem?.mp member, called, enough, read⟩
    obtain ⟨s, listed, passed, rfl⟩ := Body.exists_callSite_passes_iff.mpr passes
    exact ⟨s, listed, passed, holds⟩
  · rintro ⟨s, listed, passed, holds⟩
    have passes : v.body.PassesTo flags s.target :=
      Body.exists_callSite_passes_iff.mp ⟨s, listed, passed, rfl⟩
    obtain ⟨call, index, there, called, enough, read⟩ := passesTo_iff_position.mp passes
    refine ⟨(call, index), List.mem_zipIdx_iff_getElem?.mpr there,
      (Option.any_eq_true _ _).mpr ⟨s.target, called, ?_⟩⟩
    simp only [Bool.and_eq_true, decide_eq_true_iff, beq_iff_eq]
    exact ⟨⟨enough, read⟩, holds⟩

theorem flaggedCallContains_eq_ok (v : VirtualInstruction) (p : Pattern) (flags : List Bool) :
    flaggedCallContains v p flags = .ok (v.flaggedCallContains p flags) := by
  have each : ∀ x ∈ v.body.zipIdx, callPasses v p flags x.1 x.2 =
      .ok (passesAt v p flags x.1 x.2) := by
    intro x member
    exact callPasses_eq_ok (List.mem_zipIdx_iff_getElem?.mp member)
  rw [flaggedCallContains, anyM_eq_ok each, any_passesAt_eq]

/-! ## Shapes -/

/-- What is evaluated behind a test has to succeed only where the test does. -/
theorem and_eq_ok {x y : Checked Bool} {a c : Bool} (first : x = .ok a)
    (second : a = true → y = .ok c) : (x <&&> y) = .ok (a && c) := by
  subst first
  cases a with
  | true => exact second rfl
  | false => rfl

theorem anyWindow_eq_ok {test : Window → Checked Bool} {verdict : Window → Bool}
    (tested : ∀ w, b.find? p = some w → test w = .ok (verdict w)) :
    anyWindow b p test = .ok ((b.find? p).any verdict) := by
  rw [anyWindow, find?_eq_ok, ok_bind]
  cases located : b.find? p with
  | none => rfl
  | some w => exact tested w located

theorem get_window_eq_ok {w : Window} (found : b.find? p = some w) {k : Nat}
    (inside : k < p.length) (test : Instruction → Bool) :
    (do return test (← get w k) : Checked Bool) = .ok ((w.get? k).any test) := by
  obtain ⟨i, _, there⟩ := Body.get?_of_find? found inside
  rw [get_eq_ok there, there]
  rfl

theorem read_body_eq_ok {k : Nat} (inside : k < b.length) (test : Instruction → Bool) :
    (do return test (← read b k) : Checked Bool) = .ok (b[k]?.any test) := by
  have there := List.getElem?_eq_getElem inside
  rw [read_eq_ok there, there]
  rfl

theorem length_of_startsWith (starts : b.startsWith p = true) : p.length ≤ b.length := by
  have bound := (Body.startsWith_iff_reads.mp starts).bound
  omega

open Generated in
theorem accepts_eq_ok (s : Shape) (v : VirtualInstruction) : accepts s v = .ok (s.accepts v) := by
  cases s with
  | indirect helper => exact calleeContains_eq_ok v helper
  | discriminated helper flags => exact flaggedCallContains_eq_ok v helper flags
  | opening stub => exact startsWith_eq_ok v.body stub
  | delegating stub helper =>
    exact and_eq_ok (startsWith_eq_ok v.body stub) fun _ => calleeContains_eq_ok v helper
  | argumentStore width =>
    refine and_eq_ok (anyWindow_eq_ok fun w found => ?_) fun _ => endsWith_eq_ok _ _
    exact get_window_eq_ok found (by decide) fun i => v.returns i width.returnType
  | argumentIndexLoad index =>
    refine and_eq_ok (startsWith_eq_ok _ _) fun starts => ?_
    have long := length_of_startsWith starts
    rw [Template.length_fill] at long
    exact read_body_eq_ok (Nat.lt_of_lt_of_le (by decide) long) v.isArgumentsField
  | argumentAddressLoad width =>
    refine anyWindow_eq_ok fun w found => and_eq_ok ?_ fun _ => ?_
    · exact get_window_eq_ok found (by decide) v.isArgumentsField
    · exact get_window_eq_ok found (by decide) fun i => v.returns i width.returnType
  | argumentLoad width =>
    rw [Shape.accepts, Bool.and_assoc]
    refine and_eq_ok rfl fun whole => ?_
    have size := (Body.isExactly_iff_startsWith.mp whole).2
    refine and_eq_ok ?_ fun _ => ?_
    · exact read_body_eq_ok (by rw [size]; decide) fun i => v.returns i width.returnType
    · exact read_body_eq_ok (by rw [size]; decide) v.isArgumentsField
  | constantLoad constant => rfl

/-! ## Recovery -/

theorem filterM_pure {α : Type} (test : α → Bool) (xs : List α) :
    xs.filterM (fun x => (pure (test x) : Checked Bool)) = pure (xs.filter test) := by
  have scan (kept : List α) : xs.filterAuxM (fun x => (pure (test x) : Checked Bool)) kept =
      pure ((xs.filter test).reverse ++ kept) := by
    -- The scan puts what passes in front of what it kept before.
    induction xs generalizing kept with
    | nil => rfl
    | cons x xs ih =>
      rw [List.filterAuxM, pure_bind, ih]
      cases passes : test x with
      | true => simp [passes]
      | false => simp [passes]
  rw [List.filterM, scan, pure_bind, List.append_nil, List.reverse_reverse]

theorem candidates_eq_ok (p : Policy) (v : VirtualInstruction) :
    candidates p v = .ok (p.candidates v) := by
  have total : (fun r : Recognizer => accepts r.shape v) = fun r => pure (r.accepts v) :=
    funext fun r => accepts_eq_ok r.shape v
  rw [candidates, total, filterM_pure]
  rfl

theorem recover?_eq_ok (p : Policy) (v : VirtualInstruction) :
    recover? p v = .ok (p.recover? v) := by
  have total : (fun r : Recognizer => accepts r.shape v) = fun r => pure (r.accepts v) :=
    funext fun r => accepts_eq_ok r.shape v
  rw [recover?, total, List.findM?_pure]
  rfl

theorem verdicts_eq_ok (p : Policy) (batch : List VirtualInstruction) :
    verdicts p batch = .ok (batch.map p.recover?) := by
  have total : recover? p = fun v => pure (p.recover? v) := funext fun v => recover?_eq_ok p v
  have done : ((batch.map fun v => Task.spawn fun _ => recover? p v).map Task.get).mapM id =
      batch.mapM (recover? p) := by
    rw [List.map_map, List.mapM_map]
    rfl
  rw [verdicts, done, ite_self, total, List.mapM_pure]
  rfl

theorem recoverAll_eq_ok (p : Policy) (batch : List VirtualInstruction) :
    recoverAll p batch = .ok (p.recoverAll batch) := by
  rw [recoverAll, verdicts_eq_ok, Policy.recoverAll_eq, List.map_prod_left_eq_zip]
  rfl

/-- No access fails while a shape is evaluated, whatever its patterns, the source and the handler
    are, nor while opcodes are recovered. -/
theorem accesses_within_bounds :
    (∀ (s : Shape) (v : VirtualInstruction), accepts s v = .ok (s.accepts v)) ∧
    ∀ p : Policy, (∀ v, candidates p v = .ok (p.candidates v)) ∧
      (∀ v, recover? p v = .ok (p.recover? v)) ∧
      ∀ batch, recoverAll p batch = .ok (p.recoverAll batch) :=
  ⟨accepts_eq_ok, fun p => ⟨candidates_eq_ok p, recover?_eq_ok p, recoverAll_eq_ok p⟩⟩

end OpcodeRecovery.Checked
