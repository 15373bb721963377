import OpcodeRecovery.Catalog
import OpcodeRecovery.Method.Declared
import OpcodeRecovery.Proofs.Imitation

/-!
The field that holds the arguments. Most shapes never ask which it is. Loads of arguments compare
it with the field that one instruction of the body loads, and which instruction that is depends on
the body alone: so no body loads arguments from two fields, and none from what is no field.
-/
namespace OpcodeRecovery

def VirtualInstruction.withArgumentsField (v : VirtualInstruction) (f : Token) :
    VirtualInstruction :=
  v.inContext ⟨v.context.methods, f⟩

/-- The instruction whose field is compared with the one that holds the arguments. -/
def Shape.fieldLoad? (s : Shape) (b : Body) : Option Instruction :=
  match s with
  | .argumentIndexLoad _ => b[Generated.argumentIndexLoadField]?
  | .argumentAddressLoad _ =>
    (b.find? Generated.argumentAddressLoad).bind fun w => w.get? Generated.argumentAddressLoadField
  | .argumentLoad _ => b[Generated.argumentLoadField]?
  | _ => none

def Shape.comparesField : Shape → Bool
  | .argumentIndexLoad _ | .argumentAddressLoad _ | .argumentLoad _ => true
  | _ => false

namespace Shape
variable {s : Shape} {v : VirtualInstruction}

theorem accepts_withArgumentsField_eq (other : s.comparesField = false) (f g : Token) :
    s.accepts (v.withArgumentsField f) = s.accepts (v.withArgumentsField g) := by
  cases s with
  | argumentIndexLoad index => cases other
  | argumentAddressLoad width => cases other
  | argumentLoad width => cases other
  | _ => rfl

theorem fieldLoad?_of_accepts (compares : s.comparesField = true) (accepted : s.accepts v = true) :
    ∃ i ∈ v.body, s.fieldLoad? v.body = some i ∧ i.opcode = .ldfld ∧ v.RefersToArguments i := by
  cases s with
  | argumentIndexLoad index =>
    obtain ⟨⟨rest, start⟩, i, here, loads⟩ := accepts_argumentIndexLoad_iff.mp accepted
    have load : i.opcode = .ldfld := Body.opcode_eq_of_getElem? here (by rw [start]; rfl)
    exact ⟨i, List.mem_of_getElem? here, here, load, loads⟩
  | argumentAddressLoad width =>
    obtain ⟨x, w, y, first, ⟨i, here, loads⟩, _⟩ := accepts_argumentAddressLoad_iff.mp accepted
    have found : v.body.find? Generated.argumentAddressLoad = some ⟨x.length, w⟩ :=
      Body.find?_eq_some_iff.mpr ⟨by decide, x, y, first, rfl⟩
    have member : i ∈ v.body := by
      rw [first.split]
      exact List.mem_append_left y (List.mem_append_right x (List.mem_of_getElem? here))
    have load : i.opcode = .ldfld := by simpa using (first.opcode_at here).symm
    refine ⟨i, member, ?_, load, loads⟩
    rw [fieldLoad?, found]
    exact here
  | argumentLoad width =>
    obtain ⟨whole, _, i, here, loads⟩ := accepts_argumentLoad_iff.mp accepted
    have load : i.opcode = .ldfld := Body.opcode_eq_of_getElem? here (by rw [whole]; rfl)
    exact ⟨i, List.mem_of_getElem? here, here, load, loads⟩
  | _ => cases compares

end Shape

def argumentLoadOpcodes : List Opcode :=
  [.ldarg, .ldargS, .ldarga, .ldargaS, .ldarg0, .ldarg1, .ldarg2, .ldarg3]

theorem comparesField_of_mem_catalog :
    ∀ r ∈ catalog, r.shape.comparesField = true ↔ r.opcode ∈ argumentLoadOpcodes := by
  decide

theorem loads_of_accepts {r : Recognizer} (listed : r ∈ catalog)
    (load : r.opcode ∈ argumentLoadOpcodes) {v : VirtualInstruction} {f : Token}
    (accepted : r.accepts (v.withArgumentsField f) = true) :
    ∃ i ∈ v.body, r.shape.fieldLoad? v.body = some i ∧ i.opcode = .ldfld ∧
      i.operand = .fieldRef f ∧ f.isFieldLike = true := by
  have compares := (comparesField_of_mem_catalog r listed).mpr load
  obtain ⟨i, member, compared, opcode, loads⟩ := Shape.fieldLoad?_of_accepts compares accepted
  obtain ⟨operand, field⟩ := Instruction.field?_eq_some_iff.mp loads
  exact ⟨i, member, compared, opcode, operand, field⟩

/-- Which field holds the arguments matters to nothing but the loads of arguments. Each of these
    accepts a handler for one field at most, which is a field indeed and is loaded by the one
    instruction that is compared; if that names anything else, the handler is refused. -/
theorem accepts_by_argumentsField (v : VirtualInstruction) :
    (∀ r ∈ catalog, r.opcode ∉ argumentLoadOpcodes → ∀ f g,
      r.accepts (v.withArgumentsField f) = r.accepts (v.withArgumentsField g)) ∧
    ∀ r ∈ catalog, r.opcode ∈ argumentLoadOpcodes →
      (∀ f g, r.accepts (v.withArgumentsField f) = true →
        r.accepts (v.withArgumentsField g) = true → f = g) ∧
      (∀ f, r.accepts (v.withArgumentsField f) = true →
        (f.table = Token.fieldTable ∨ f.table = Token.memberRefTable) ∧
        ∃ i ∈ v.body, r.shape.fieldLoad? v.body = some i ∧ i.opcode = .ldfld ∧
          i.operand = .fieldRef f) ∧
      (∀ f, (∀ i, r.shape.fieldLoad? v.body = some i → i.operand ≠ .fieldRef f) →
        r.accepts (v.withArgumentsField f) = false) ∧
      ∀ f, f.table ≠ Token.fieldTable → f.table ≠ Token.memberRefTable →
        r.accepts (v.withArgumentsField f) = false := by
  constructor
  · intro r listed other f g
    have silent : r.shape.comparesField = false := by
      by_contra compares
      exact other ((comparesField_of_mem_catalog r listed).mp (by simpa using compares))
    exact Shape.accepts_withArgumentsField_eq silent f g
  intro r listed load
  refine ⟨?_, ?_, ?_, ?_⟩
  · intro f g accepted accepted'
    obtain ⟨i, _, compared, _, operand, _⟩ := loads_of_accepts listed load accepted
    obtain ⟨j, _, compared', _, operand', _⟩ := loads_of_accepts listed load accepted'
    obtain rfl : i = j := Option.some.inj (compared.symm.trans compared')
    exact Operand.fieldRef.inj (operand.symm.trans operand')
  · intro f accepted
    obtain ⟨i, member, compared, opcode, operand, field⟩ := loads_of_accepts listed load accepted
    exact ⟨Token.isFieldLike_iff.mp field, i, member, compared, opcode, operand⟩
  · intro f unnamed
    by_contra accepted
    obtain ⟨i, _, compared, _, operand, _⟩ :=
      loads_of_accepts listed load (eq_true_of_ne_false accepted)
    exact unnamed i compared operand
  · intro f declared referred
    by_contra accepted
    obtain ⟨_, _, _, _, _, field⟩ := loads_of_accepts listed load (eq_true_of_ne_false accepted)
    rcases Token.isFieldLike_iff.mp field with here | there
    · exact declared here
    · exact referred there

/-- Loads the address of an argument, and then another that only looks like one. -/
def lookAlikeHandler : VirtualInstruction :=
  let operand (f : Token) : Opcode → Operand
    | .ldfld => .fieldRef f
    | .callvirt => .methodRef (.methodDef 17)
    | _ => .absent
  let load (f : Token) : Body := Generated.argumentAddressLoad.map fun c => ⟨c, operand f c⟩
  let declared : Declarations := [
    ⟨.methodDef 1, some (load (.field 1) ++ load (.field 2)), none, none⟩,
    ⟨.methodDef 17, some (Generated.orHelper.map fun c => ⟨c, .absent⟩), some "System.UInt16", none⟩]
  ⟨⟨declared.source [], .field 1⟩, 6, .methodDef 1⟩

theorem accepts_of_lookAlikeHandler :
    let address : Recognizer := ⟨.ldarga, .argumentAddressLoad .word, .uncertain⟩
    let disjunction : Recognizer := ⟨.or, .indirect Generated.orHelper, .certain⟩
    address.accepts lookAlikeHandler = true ∧
    (∀ f, address.accepts (lookAlikeHandler.withArgumentsField f) = true → f = .field 1) ∧
    address.accepts (lookAlikeHandler.withArgumentsField (.field 2)) = false ∧
    address.accepts (lookAlikeHandler.withArgumentsField (.methodDef 1)) = false ∧
    ∀ f, disjunction.accepts (lookAlikeHandler.withArgumentsField f) = true := by
  intro address disjunction
  have accepted : address.accepts (lookAlikeHandler.withArgumentsField (.field 1)) = true := by
    decide
  obtain ⟨others, loads⟩ := accepts_by_argumentsField lookAlikeHandler
  obtain ⟨unique, _, unnamed, misplaced⟩ := loads address (by decide) (by decide)
  refine ⟨accepted, fun f found => unique f _ found accepted, ?_, ?_, ?_⟩
  · exact unnamed (.field 2) (by decide)
  · exact misplaced (.methodDef 1) (by decide) (by decide)
  · intro f
    have same := others disjunction (by decide) (by decide) f (.field 1)
    exact same.trans (by decide)

end OpcodeRecovery
