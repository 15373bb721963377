import Mathlib.Data.List.Basic
import OpcodeRecovery.Body.CallSite

/-!
Call sites of a body, said by taking the body apart. The truth values passed at a call site are
those pushed by the instructions directly before it.
-/
namespace OpcodeRecovery

/-- A call of the target stands in the body directly behind pushes of these truth values. -/
def Body.PassesTo (b : Body) (flags : List Bool) (target : Token) : Prop :=
  ∃ before arguments call after, b = before ++ arguments ++ [call] ++ after ∧
    call.callTarget? = some target ∧ arguments.map Instruction.truth? = flags.map some

namespace Body

/-- The call sites are listed with the instructions before them in reverse, so those that the scan
    has passed already stand at the end. -/
theorem mem_callSitesAfter_iff {passed : List Instruction} {b : Body} {s : CallSite} :
    s ∈ callSitesAfter passed b ↔
      ∃ before call after, b = before ++ call :: after ∧
        call.callTarget? = some s.target ∧ s.before = before.reverse ++ passed := by
  induction b generalizing passed with
  | nil => simp [callSitesAfter]
  | cons i b ih =>
    have scanned : s ∈ callSitesAfter passed (i :: b) ↔
        (i.callTarget? = some s.target ∧ s.before = passed) ∨
          s ∈ callSitesAfter (i :: passed) b := by
      cases called : i.callTarget? with
      | none => simp [callSitesAfter, called]
      | some target =>
        simp only [callSitesAfter, called, List.mem_cons, Option.some.injEq]
        refine or_congr_left ⟨?_, ?_⟩
        · intro same
          subst same
          exact ⟨rfl, rfl⟩
        · intro same
          obtain ⟨rfl, rfl⟩ := same
          rfl
    rw [scanned, ih]
    constructor
    · intro listed
      rcases listed with ⟨target, rfl⟩ | ⟨before, call, after, rfl, target, behind⟩
      · exact ⟨[], i, b, rfl, target, rfl⟩
      · exact ⟨i :: before, call, after, rfl, target, by simp [behind]⟩
    · intro apart
      obtain ⟨before, call, after, split, target, behind⟩ := apart
      -- The call is the first instruction or it is met later, with the first one passed.
      cases before with
      | nil =>
        obtain ⟨rfl, rfl⟩ := List.cons.inj split
        exact Or.inl ⟨target, behind⟩
      | cons j before =>
        obtain ⟨rfl, rfl⟩ := List.cons.inj split
        exact Or.inr ⟨before, call, after, rfl, target, by simp [behind]⟩

theorem mem_callSites_iff {b : Body} {s : CallSite} :
    s ∈ b.callSites ↔
      ∃ before call after, b = before ++ call :: after ∧
        call.callTarget? = some s.target ∧ s.before = before.reverse := by
  simp [callSites, mem_callSitesAfter_iff]

end Body

theorem CallSite.passes_iff {s : CallSite} {flags : List Bool} :
    s.passes flags = true ↔
      ∃ earlier arguments, s.before.reverse = earlier ++ arguments ∧
        arguments.map Instruction.truth? = flags.map some := by
  simp only [passes, beq_iff_eq]
  constructor
  · intro read
    refine ⟨(s.before.drop flags.length).reverse, (s.before.take flags.length).reverse, ?_, ?_⟩
    · rw [← List.reverse_append, List.take_append_drop]
    · rw [List.map_reverse, read, ← List.map_reverse, List.reverse_reverse]
  · intro apart
    obtain ⟨earlier, arguments, split, read⟩ := apart
    have size : flags.length = arguments.reverse.length := by
      simpa using (congrArg List.length read).symm
    have reversed : s.before = arguments.reverse ++ earlier.reverse := by
      rw [← List.reverse_append, ← split, List.reverse_reverse]
    rw [reversed, size, List.take_left, List.map_reverse, read, List.map_reverse]

theorem Body.exists_callSite_passes_iff {b : Body} {flags : List Bool} {target : Token} :
    (∃ s ∈ b.callSites, s.passes flags = true ∧ s.target = target) ↔ b.PassesTo flags target := by
  constructor
  · intro site
    obtain ⟨s, listed, passed, rfl⟩ := site
    obtain ⟨before, call, after, split, target, behind⟩ := mem_callSites_iff.mp listed
    obtain ⟨earlier, arguments, same, read⟩ := CallSite.passes_iff.mp passed
    have apart : before = earlier ++ arguments := by rw [← same, behind, List.reverse_reverse]
    exact ⟨earlier, arguments, call, after, by simp [split, apart], target, read⟩
  · intro passes
    obtain ⟨before, arguments, call, after, split, called, read⟩ := passes
    refine ⟨⟨(before ++ arguments).reverse, target⟩, mem_callSites_iff.mpr ?_, ?_, rfl⟩
    · exact ⟨before ++ arguments, call, after, by simp [split], called, rfl⟩
    · exact CallSite.passes_iff.mpr ⟨before, arguments, List.reverse_reverse _, read⟩

def Instruction.passing (i : Instruction) : Option Token × Option Bool := (i.callTarget?, i.truth?)

theorem Body.PassesTo.rename {b b' : Body} {r : Token → Token} {flags : List Bool} {target : Token}
    (passes : b.PassesTo flags target)
    (same : b'.map Instruction.passing = b.map fun i => (i.callTarget?.map r, i.truth?)) :
    b'.PassesTo flags (r target) := by
  obtain ⟨before, arguments, call, after, split, called, read⟩ := passes
  rw [split, List.map_append, List.map_append, List.map_append] at same
  obtain ⟨upToCall, after', split₁, sameUpToCall, _⟩ := List.map_eq_append_iff.mp same
  obtain ⟨upToFlags, calls, split₂, sameUpToFlags, sameCall⟩ :=
    List.map_eq_append_iff.mp sameUpToCall
  obtain ⟨before', arguments', split₃, _, sameArguments⟩ :=
    List.map_eq_append_iff.mp sameUpToFlags
  obtain ⟨call', rfl, callRead⟩ := List.map_eq_singleton_iff.mp sameCall
  refine ⟨before', arguments', call', after', by rw [split₁, split₂, split₃], ?_, ?_⟩
  · have renamed : call'.callTarget? = call.callTarget?.map r := congrArg Prod.fst callRead
    rw [renamed, called, Option.map_some]
  · have truths := congrArg (List.map Prod.snd) sameArguments
    rw [List.map_map, List.map_map] at truths
    exact truths.trans read

end OpcodeRecovery
