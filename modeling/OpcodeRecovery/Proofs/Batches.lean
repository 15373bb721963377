import Mathlib.Data.List.Basic
import OpcodeRecovery.Report

/-!
Batches are judged instruction by instruction, however the work is spread. A report deals the
instructions of its batch out to two lists, each of which keeps the order of the batch, and it can
be written while the batch goes on: what was entered before stays as it is.
-/
namespace OpcodeRecovery

namespace Report

def append (r r' : Report) : Report :=
  ⟨r.identified ++ r'.identified, r.unresolved ++ r'.unresolved⟩

def enter (r : Report) (v : VirtualInstruction) : Option Opcode → Report
  | some c => ⟨r.identified ++ [(v, c)], r.unresolved⟩
  | none => ⟨r.identified, r.unresolved ++ [v]⟩

end Report

namespace Policy
variable (p : Policy)

/-- The pool shows in the journal only. -/
theorem result_report (pool : Pool) (batch : List VirtualInstruction) :
    (p.report pool batch).result = .ofVerdicts (batch.map fun v => (v, p.recover? v)) := by
  rw [report, Noted.result_bind, result_verdicts, List.map_prod_left_eq_zip]
  rfl

theorem recoverAll_eq (batch : List VirtualInstruction) :
    p.recoverAll batch = .ofVerdicts (batch.map fun v => (v, p.recover? v)) :=
  p.result_report .single batch

theorem identified_recoverAll (batch : List VirtualInstruction) :
    (p.recoverAll batch).identified =
      batch.filterMap fun v => (p.recover? v).map fun c => (v, c) := by
  rw [recoverAll_eq]
  exact List.filterMap_map

theorem unresolved_recoverAll (batch : List VirtualInstruction) :
    (p.recoverAll batch).unresolved = batch.filter fun v => (p.recover? v).isNone := by
  rw [recoverAll_eq]
  induction batch with
  | nil => rfl
  | cons v rest ih =>
    simp only [Report.ofVerdicts, Report.unresolvedOf] at ih
    simp only [Report.ofVerdicts, Report.unresolvedOf, List.map_cons, List.filterMap_cons,
      List.filter_cons, ih]
    cases p.recover? v <;> rfl

theorem map_fst_identified_recoverAll (batch : List VirtualInstruction) :
    (p.recoverAll batch).identified.map Prod.fst =
      batch.filter fun v => (p.recover? v).isSome := by
  rw [identified_recoverAll]
  induction batch with
  | nil => rfl
  | cons v rest ih => cases verdict : p.recover? v <;> simp [verdict, ih]

theorem perm_recoverAll (batch : List VirtualInstruction) :
    ((p.recoverAll batch).identified.map Prod.fst ++ (p.recoverAll batch).unresolved).Perm
      batch := by
  have dealt := List.filter_append_perm (fun v => (p.recover? v).isSome) batch
  simp only [Option.not_isSome] at dealt
  rw [map_fst_identified_recoverAll, unresolved_recoverAll]
  exact dealt

theorem size_recoverAll (batch : List VirtualInstruction) :
    (p.recoverAll batch).size = batch.length := by
  have lengths := (p.perm_recoverAll batch).length_eq
  rw [List.length_append, List.length_map] at lengths
  exact lengths

theorem isComplete_recoverAll_iff (batch : List VirtualInstruction) :
    (p.recoverAll batch).isComplete = true ↔ ∀ v ∈ batch, ∃ c, p.recover? v = some c := by
  rw [Report.isComplete, List.isEmpty_iff, unresolved_recoverAll, List.filter_eq_nil_iff]
  simp only [Option.isNone_iff_eq_none, ← Option.ne_none_iff_exists']

theorem recoverAll_append (xs ys : List VirtualInstruction) :
    p.recoverAll (xs ++ ys) = (p.recoverAll xs).append (p.recoverAll ys) := by
  simp only [recoverAll_eq, Report.append, Report.ofVerdicts, Report.identifiedOf,
    Report.unresolvedOf, List.map_append, List.filterMap_append]

theorem enter_eq_append (r : Report) (v : VirtualInstruction) :
    r.enter v (p.recover? v) = r.append (p.recoverAll [v]) := by
  cases verdict : p.recover? v <;>
    simp [recoverAll_eq, verdict, Report.enter, Report.append, Report.ofVerdicts,
      Report.identifiedOf, Report.unresolvedOf]

theorem foldl_enter (r : Report) (batch : List VirtualInstruction) :
    batch.foldl (fun r v => r.enter v (p.recover? v)) r = r.append (p.recoverAll batch) := by
  -- What was entered before is generalized: it stands in front of the report on the rest.
  induction batch generalizing r with
  | nil => simp [recoverAll_eq, Report.append, Report.ofVerdicts, Report.identifiedOf,
      Report.unresolvedOf]
  | cons v rest ih =>
    have first : p.recoverAll (v :: rest) = (p.recoverAll [v]).append (p.recoverAll rest) :=
      p.recoverAll_append [v] rest
    rw [List.foldl_cons, ih, enter_eq_append, first]
    simp only [Report.append, List.append_assoc]

theorem recoverAll_withParallelThreshold (threshold : UInt64) (batch : List VirtualInstruction) :
    (p.withParallelThreshold threshold).recoverAll batch = p.recoverAll batch := by
  rw [recoverAll_eq, recoverAll_eq]
  rfl

/-- A report lists the identified and the unresolved instructions of its batch, in order and with
    their own verdicts. Reports on two batches join to that on both, entering the verdicts one by
    one makes no other report, and neither does a policy that spreads the work otherwise. -/
theorem report_on_batch (xs ys : List VirtualInstruction) (r : Report) (threshold : UInt64) :
    (p.recoverAll xs).identified =
      xs.filterMap (fun v => (p.recover? v).map fun c => (v, c)) ∧
    (p.recoverAll xs).unresolved = xs.filter (fun v => (p.recover? v).isNone) ∧
    ((p.recoverAll xs).identified.map Prod.fst ++ (p.recoverAll xs).unresolved).Perm xs ∧
    (p.recoverAll xs).size = xs.length ∧
    ((p.recoverAll xs).isComplete = true ↔ ∀ v ∈ xs, ∃ c, p.recover? v = some c) ∧
    p.recoverAll (xs ++ ys) = (p.recoverAll xs).append (p.recoverAll ys) ∧
    xs.foldl (fun r v => r.enter v (p.recover? v)) r = r.append (p.recoverAll xs) ∧
    (p.withParallelThreshold threshold).recoverAll xs = p.recoverAll xs :=
  ⟨p.identified_recoverAll xs, p.unresolved_recoverAll xs, p.perm_recoverAll xs,
    p.size_recoverAll xs, p.isComplete_recoverAll_iff xs, p.recoverAll_append xs ys,
    p.foldl_enter r xs, p.recoverAll_withParallelThreshold threshold xs⟩

end Policy
end OpcodeRecovery
