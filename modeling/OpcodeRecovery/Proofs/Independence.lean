import Mathlib.Data.List.Forall2
import OpcodeRecovery.Method.Declared
import OpcodeRecovery.Policy
import OpcodeRecovery.Proofs.Imitation

/-!
What recovery depends on. Two handlers may live in different machines, under different tokens and
virtual codes: if they show the same where recovery looks, they are recovered alike. Operands that
no recognizer reads do not matter, nor does anything behind the methods that are called directly.
-/
namespace OpcodeRecovery

/-- The two instructions differ at most in operands that recovery does not read. -/
structure Instruction.ShowsSame (i j : Instruction) : Prop where
  opcode : i.opcode = j.opcode
  callTarget : i.callTarget? = j.callTarget?
  truth : i.truth? = j.truth?
  loadedField : i.opcode = .ldfld → i.field? = j.field?

/-- Of the methods called, only the opcodes of their bodies and their return types are compared,
    and of the callees only which they are. -/
structure VirtualInstruction.LooksLike (v w : VirtualInstruction) : Prop where
  argumentsField : v.context.argumentsField = w.context.argumentsField
  body : List.Forall₂ Instruction.ShowsSame v.body w.body
  callees : ∀ t, t ∈ v.callees ↔ t ∈ w.callees
  bodies : ∀ t ∈ v.body.callTargets ++ v.callees,
    (v.context.methods.body? t).map Body.opcodes = (w.context.methods.body? t).map Body.opcodes
  returnTypes : ∀ t ∈ v.body.callTargets ++ v.callees,
    v.context.methods.returnType? t = w.context.methods.returnType? t

theorem Instruction.showsSame_iff {i j : Instruction} : i.ShowsSame j ↔ i.reading = j.reading := by
  constructor
  · intro same
    have loaded : i.opcode = .ldfld ↔ j.opcode = .ldfld := by rw [same.opcode]
    by_cases load : i.opcode = .ldfld
    · simp [reading, same.opcode, same.callTarget, same.truth, loaded.mp load,
        same.loadedField load]
    · have other : ¬ j.opcode = .ldfld := fun h => load (loaded.mpr h)
      simp [reading, same.opcode, same.callTarget, same.truth, other]
  · intro same
    simp only [reading, Reading.mk.injEq] at same
    obtain ⟨opcode, callTarget, truth, loadedField⟩ := same
    refine ⟨opcode, callTarget, truth, ?_⟩
    intro load
    have load' : j.opcode = .ldfld := opcode ▸ load
    simpa [load, load'] using loadedField

instance (i j : Instruction) : Decidable (i.ShowsSame j) :=
  decidable_of_iff _ Instruction.showsSame_iff.symm

namespace VirtualInstruction.LooksLike
variable {v w : VirtualInstruction}

theorem reading (alike : v.LooksLike w) :
    v.body.map Instruction.reading = w.body.map Instruction.reading := by
  have same : List.Forall₂ (fun i j => Instruction.reading i = Instruction.reading j)
      v.body w.body := alike.body.imp fun _ _ h => Instruction.showsSame_iff.mp h
  rw [← List.forall₂_eq_eq_eq]
  simpa using same

theorem callTargets (alike : v.LooksLike w) : v.body.callTargets = w.body.callTargets := by
  have read := congrArg (List.filterMap Instruction.Reading.callTarget?) alike.reading
  simpa [List.filterMap_map, Function.comp_def, Body.callTargets, Instruction.reading] using read

theorem symm (alike : v.LooksLike w) : w.LooksLike v where
  argumentsField := alike.argumentsField.symm
  body := alike.body.flip.imp fun i j same =>
    Instruction.showsSame_iff.mpr (Instruction.showsSame_iff.mp same).symm
  callees t := (alike.callees t).symm
  bodies t asked := by
    rw [← alike.callTargets, List.mem_append, ← alike.callees t, ← List.mem_append] at asked
    exact (alike.bodies t asked).symm
  returnTypes t asked := by
    rw [← alike.callTargets, List.mem_append, ← alike.callees t, ← List.mem_append] at asked
    exact (alike.returnTypes t asked).symm

theorem imitates (alike : v.LooksLike w) : Imitates id v w where
  body := by
    rw [← alike.reading]
    simp [Instruction.Reading.rename]
  callees t called := (alike.callees t).mp called
  holds t asked p held := by
    obtain ⟨codes, known, window⟩ := MethodSource.holds_iff.mp held
    refine MethodSource.holds_iff.mpr ⟨codes, ?_, window⟩
    rw [id, ← alike.bodies t (List.mem_append.mpr asked), known]
  returnType t called type returned := by
    rw [id, ← alike.returnTypes t (List.mem_append_left _ called), returned]
  argumentsField := alike.argumentsField.symm

theorem accepts_eq (alike : v.LooksLike w) (s : Shape) : s.accepts v = s.accepts w :=
  Bool.eq_iff_iff.mpr ⟨alike.imitates.accepts, alike.symm.imitates.accepts⟩

end VirtualInstruction.LooksLike

/-- Handlers that look alike have the same shapes, and every policy recovers the same from them. -/
theorem recovery_of_looksLike (v w : VirtualInstruction) (alike : v.LooksLike w) :
    (∀ s : Shape, s.accepts v = s.accepts w) ∧
    (∀ r ∈ catalog, r.accepts v = r.accepts w) ∧
    ∀ p : Policy, p.candidates v = p.candidates w ∧ p.recover? v = p.recover? w := by
  have verdict : ∀ r : Recognizer, r.accepts v = r.accepts w := fun r => alike.accepts_eq r.shape
  refine ⟨alike.accepts_eq, fun r _ => verdict r, fun p => ⟨?_, ?_⟩⟩
  · simp only [Policy.candidates, verdict]
  · simp only [Policy.recover?_eq_find?, verdict]

def shiftHandler : VirtualInstruction :=
  let helper : Token := .methodDef 16
  let reader : Token := .ofParts Token.memberRefTable 1
  let declared : Declarations := [
    ⟨.methodDef 1, some [⟨.ldlocS, .localVar 4⟩, ⟨.ldcI4S, .immediate (.int8 1)⟩,
      ⟨.call, .methodRef helper⟩, ⟨.callvirt, .methodRef reader⟩, ⟨.ret, .absent⟩], none, none⟩,
    ⟨helper, some [⟨.ldcI4S, .immediate (.int8 31)⟩, ⟨.and, .absent⟩, ⟨.shr, .absent⟩,
      ⟨.callvirt, .methodRef reader⟩, ⟨.ldloc0, .absent⟩, ⟨.ret, .absent⟩], none, none⟩]
  ⟨⟨declared.source [], .field 1⟩, 7, .methodDef 1⟩

/-- The same handler from another machine: locals, the width of the truth value, the order of the
    callees and the operands of the helper are others. -/
def rebuiltShiftHandler : VirtualInstruction :=
  let helper : Token := .methodDef 16
  let reader : Token := .ofParts Token.memberRefTable 1
  let declared : Declarations := [
    ⟨.methodDef 2, some [⟨.ldlocS, .localVar 9⟩, ⟨.ldcI4S, .immediate (.int64 1)⟩,
      ⟨.call, .methodRef helper⟩, ⟨.callvirt, .methodRef reader⟩, ⟨.ret, .typeRef (.typeDef 5)⟩],
      none, some [reader, helper, reader]⟩,
    ⟨helper, some [⟨.ldcI4S, .immediate (.int32 63)⟩, ⟨.and, .absent⟩, ⟨.shr, .target 3⟩,
      ⟨.callvirt, .methodRef (.methodDef 40)⟩, ⟨.ldloc0, .absent⟩, ⟨.ret, .absent⟩], none, none⟩]
  ⟨⟨declared.source [], .field 1⟩, 99, .methodDef 2⟩

theorem recovery_of_rebuilt_shift :
    shiftHandler.LooksLike rebuiltShiftHandler ∧
    ((∀ s : Shape, s.accepts shiftHandler = s.accepts rebuiltShiftHandler) ∧
    (∀ r ∈ catalog, r.accepts shiftHandler = r.accepts rebuiltShiftHandler) ∧
    ∀ p : Policy, p.candidates shiftHandler = p.candidates rebuiltShiftHandler ∧
      p.recover? shiftHandler = p.recover? rebuiltShiftHandler) ∧
    Policy.strict.recover? rebuiltShiftHandler = some .shr := by
  have callees : shiftHandler.callees = [.methodDef 16, .ofParts Token.memberRefTable 1] := by
    decide
  have rebuilt : rebuiltShiftHandler.callees =
      [.ofParts Token.memberRefTable 1, .methodDef 16, .ofParts Token.memberRefTable 1] := by
    decide
  have alike : shiftHandler.LooksLike rebuiltShiftHandler := {
    argumentsField := rfl
    body := by decide
    callees := by
      intro t
      simp only [callees, rebuilt, List.mem_cons, List.not_mem_nil, or_false]
      tauto
    bodies := by decide
    returnTypes := by decide }
  exact ⟨alike, recovery_of_looksLike _ _ alike, by decide⟩

end OpcodeRecovery
