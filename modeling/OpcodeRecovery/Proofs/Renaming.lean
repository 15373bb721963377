import Mathlib.Data.List.Basic
import Mathlib.Logic.Function.Basic
import OpcodeRecovery.Proofs.GraphHistory
import OpcodeRecovery.Proofs.Imitation

/-!
Tokens are names. If all tokens of a world are renamed, so that different ones stay different and
the tables that hold fields and methods are respected, then the same virtual instructions can be
made, and recovery takes the same way with each of them.
-/
namespace OpcodeRecovery

/-- New names for tokens, under which fields stay fields and methods stay methods. -/
structure Renaming where
  map : Token → Token
  injective : Function.Injective map
  isFieldLike_map : ∀ t, (map t).isFieldLike = t.isFieldLike
  isMethodLike_map : ∀ t, (map t).isMethodLike = t.isMethodLike

instance : CoeFun Renaming fun _ => Token → Token := ⟨Renaming.map⟩

def Operand.rename (r : Token → Token) : Operand → Operand
  | .fieldRef token => .fieldRef (r token)
  | .methodRef token => .methodRef (r token)
  | .typeRef token => .typeRef (r token)
  | .stringRef token => .stringRef (r token)
  | other => other

def Instruction.rename (r : Token → Token) (i : Instruction) : Instruction :=
  { i with operand := i.operand.rename r }

def Body.rename (r : Token → Token) (b : Body) : Body := b.map (Instruction.rename r)

def Method.rename (r : Token → Token) (m : Method) : Method :=
  { m with token := r m.token, body := m.body.rename r }

theorem eraseDups_map_of_injective {α β : Type} [BEq α] [LawfulBEq α] [BEq β] [LawfulBEq β]
    {f : α → β} (injective : Function.Injective f) (xs : List α) :
    (xs.map f).eraseDups = xs.eraseDups.map f := by
  induction size : xs.length using Nat.strongRecOn generalizing xs with
  | ind n ih =>
    cases xs with
    | nil => rfl
    | cons x xs =>
      have others : (xs.map f).filter (fun y => !y == f x) = (xs.filter fun y => !y == x).map f := by
        rw [List.filter_map]
        congr 2
        funext y
        by_cases same : y = x
        · simp [same]
        · simp [same, injective.ne same]
      have smaller : (xs.filter fun y => !y == x).length < n := by
        have bound := List.length_filter_le (fun y => !y == x) xs
        simp only [List.length_cons] at size
        omega
      rw [List.map_cons, List.eraseDups_cons, others, ih _ smaller _ rfl, List.eraseDups_cons,
        List.map_cons]

namespace Instruction
variable (r : Renaming) (i : Instruction)

@[simp] theorem opcode_rename : (i.rename r).opcode = i.opcode := rfl

theorem field?_rename : (i.rename r).field? = i.field?.map r := by
  obtain ⟨opcode, operand⟩ := i
  cases operand with
  | fieldRef token =>
    by_cases field : token.isFieldLike = true <;>
      simp [rename, Operand.rename, field?, r.isFieldLike_map, field]
  | _ => rfl

theorem method?_rename : (i.rename r).method? = i.method?.map r := by
  obtain ⟨opcode, operand⟩ := i
  cases operand with
  | methodRef token =>
    by_cases method : token.isMethodLike = true <;>
      simp [rename, Operand.rename, method?, r.isMethodLike_map, method]
  | _ => rfl

theorem callTarget?_rename : (i.rename r).callTarget? = i.callTarget?.map r := by
  have call : (i.rename r).isCall = i.isCall := rfl
  by_cases called : i.isCall = true
  · simp [callTarget?, call, called, method?_rename]
  · simp [callTarget?, call, called]

theorem literal?_rename : (i.rename r).literal? = i.literal? := by
  obtain ⟨opcode, operand⟩ := i
  cases operand with
  | immediate value => rfl
  | _ => simp [literal?, rename, Operand.rename]

theorem reading_rename : (i.rename r).reading = i.reading.rename r := by
  have truth : (i.rename r).truth? = i.truth? := by rw [truth?, literal?_rename, truth?]
  by_cases load : i.opcode = .ldfld
  · simp [reading, Reading.rename, callTarget?_rename, truth, field?_rename, load]
  · simp [reading, Reading.rename, callTarget?_rename, truth, load]

end Instruction

theorem Instruction.Reading.rename_of_leftInverse {r back : Token → Token}
    (undo : Function.LeftInverse back r) (x : Reading) : (x.rename r).rename back = x := by
  simp [rename, undo.comp_eq_id]

namespace Body
variable (r : Renaming) (b : Body)

theorem opcodes_rename : (b.rename r).opcodes = b.opcodes := by
  simp [opcodes, rename, Instruction.rename]

theorem reading_rename :
    (b.rename r).map Instruction.reading = b.map fun i => i.reading.rename r := by
  simp [rename, Function.comp_def, Instruction.reading_rename]

theorem callTargets_rename : (b.rename r).callTargets = b.callTargets.map r := by
  simp [callTargets, rename, List.filterMap_map, List.map_filterMap,
    Instruction.callTarget?_rename]

/-- The callees keep their order, because two calls of one method stay calls of one method. -/
theorem callees_rename : (b.rename r).callees = b.callees.map r := by
  rw [callees, callTargets_rename, eraseDups_map_of_injective r.injective, callees]

end Body

namespace Ledger
variable (r : Renaming) (l : Ledger) (t : Token)

theorem method?_rename :
    method? (l.map (Method.rename r)) (r t) = (l.method? t).map (Method.rename r) := by
  have same : ∀ m : Method, ((m.rename r).token == r t) = (m.token == t) := by
    intro m
    simp [Method.rename, r.injective.eq_iff]
  simp only [method?, List.find?_map, Function.comp_def, same]

theorem body?_source_rename :
    (source (l.map (Method.rename r))).body? (r t) = (l.source.body? t).map (Body.rename r) := by
  simp [source, method?_rename, Function.comp_def, Method.rename]

theorem returnType?_source_rename :
    (source (l.map (Method.rename r))).returnType? (r t) = l.source.returnType? t := by
  simp [source, method?_rename, Function.comp_def, Method.rename]

theorem callees_source_rename :
    (source (l.map (Method.rename r))).callees (r t) = (l.source.callees t).map r := by
  cases found : l.method? t with
  | none => simp [source, method?_rename, found]
  | some m => simp [source, method?_rename, found, Method.rename, Body.callees_rename]

end Ledger

/-- The second virtual instruction is the first in a world of other names. -/
structure VirtualInstruction.IsRenamed (r : Renaming) (v w : VirtualInstruction) : Prop where
  body : w.body = v.body.rename r
  callees : w.callees = v.callees.map r
  bodies : ∀ t, w.context.methods.body? (r t) = (v.context.methods.body? t).map (Body.rename r)
  returnTypes : ∀ t, w.context.methods.returnType? (r t) = v.context.methods.returnType? t
  argumentsField : w.context.argumentsField = r v.context.argumentsField

namespace VirtualInstruction.IsRenamed
variable {r : Renaming} {v w : VirtualInstruction}

theorem holds_iff (renamed : IsRenamed r v w) (p : Pattern) (t : Token) :
    w.context.methods.Holds p (r t) ↔ v.context.methods.Holds p t := by
  have same : (fun b : Body => (b.rename r).opcodes) = Body.opcodes := funext (Body.opcodes_rename r)
  simp only [MethodSource.holds_iff, renamed.bodies, Option.map_map, Function.comp_def, same]

theorem imitates (renamed : IsRenamed r v w) : Imitates r v w where
  body := by rw [renamed.body, Body.reading_rename]
  callees t called := by
    rw [renamed.callees]
    exact List.mem_map_of_mem called
  holds t _ p held := (renamed.holds_iff p t).mpr held
  returnType t _ type returned := (renamed.returnTypes t).trans returned
  argumentsField := renamed.argumentsField

theorem exists_of_asked (renamed : IsRenamed r v w) {t : Token}
    (asked : t ∈ w.body.callTargets ∨ t ∈ w.callees) : ∃ u, r u = t := by
  rw [renamed.body, Body.callTargets_rename, renamed.callees, List.mem_map, List.mem_map] at asked
  rcases asked with ⟨u, _, same⟩ | ⟨u, _, same⟩
  · exact ⟨u, same⟩
  · exact ⟨u, same⟩

theorem imitated (renamed : IsRenamed r v w) {back : Token → Token}
    (undo : Function.LeftInverse back r) : Imitates back w v where
  body := by
    have read := congrArg (List.map (Instruction.Reading.rename back)) renamed.imitates.body
    simpa [Function.comp_def, Instruction.Reading.rename_of_leftInverse undo] using read.symm
  callees t called := by
    obtain ⟨u, rfl⟩ := renamed.exists_of_asked (Or.inr called)
    rw [renamed.callees, List.mem_map_of_injective r.injective] at called
    rw [undo]
    exact called
  holds t asked p held := by
    obtain ⟨u, rfl⟩ := renamed.exists_of_asked asked
    rw [undo]
    exact (renamed.holds_iff p u).mp held
  returnType t called type returned := by
    obtain ⟨u, rfl⟩ := renamed.exists_of_asked (Or.inl called)
    rw [undo, ← renamed.returnTypes u, returned]
  argumentsField := by rw [renamed.argumentsField, undo]

theorem accepts_eq (renamed : IsRenamed r v w) (s : Shape) : s.accepts w = s.accepts v := by
  have nonempty : Nonempty Token := ⟨⟨0⟩⟩
  obtain ⟨back, undo⟩ := r.injective.hasLeftInverse
  exact Bool.eq_iff_iff.mpr ⟨(renamed.imitated undo).accepts, renamed.imitates.accepts⟩

end VirtualInstruction.IsRenamed

theorem Ledger.isRenamed (r : Renaming) (l : Ledger) (argumentsField : Token) (virtualCode : Int32)
    (handler : Token) :
    VirtualInstruction.IsRenamed r ⟨l.context argumentsField, virtualCode, handler⟩
      ⟨Ledger.context (l.map (Method.rename r)) (r argumentsField), virtualCode, r handler⟩ where
  body := by
    have known := l.body?_source_rename r handler
    simp only [VirtualInstruction.body, Ledger.context, known]
    cases l.source.body? handler <;> rfl
  callees := l.callees_source_rename r handler
  bodies t := l.body?_source_rename r t
  returnTypes t := l.returnType?_source_rename r t
  argumentsField := rfl

theorem Ledger.isSome_body?_source_rename (r : Renaming) (l : Ledger) (t : Token) :
    ((source (l.map (Method.rename r))).body? (r t)).isSome = (l.source.body? t).isSome := by
  rw [body?_source_rename, Option.isSome_map]

/-- Recovery is the same under any names. -/
theorem recovery_of_renamed (r : Renaming) (ms : List Method) (argumentsField : Token)
    (virtualCode : Int32) (handler : Token) :
    let world := (MethodGraph.ofList ms).context argumentsField
    let renamed := (MethodGraph.ofList (ms.map (Method.rename r))).context (r argumentsField)
    (∀ t, renamed.methods.callees (r t) = (world.methods.callees t).map r) ∧
    ((world.instruction virtualCode handler = .error (.methodNotFound handler) ∧
        renamed.instruction virtualCode (r handler) = .error (.methodNotFound (r handler))) ∨
      ∃ v w, world.instruction virtualCode handler = .ok v ∧
        renamed.instruction virtualCode (r handler) = .ok w ∧
        w.callees = v.callees.map r ∧
        (∀ s : Shape, s.accepts w = s.accepts v) ∧
        (∀ q ∈ catalog, q.accepts w = q.accepts v) ∧
        ∀ p : Policy, p.candidates w = p.candidates v ∧ p.recover? w = p.recover? v ∧
          p.recoverOrUnknown w = p.recoverOrUnknown v) := by
  intro world renamed
  have before : world = Ledger.context ms.reverse argumentsField :=
    (MethodGraph.Represents.ofList ms).context argumentsField
  have after : renamed = Ledger.context (ms.reverse.map (Method.rename r)) (r argumentsField) := by
    rw [List.map_reverse]
    exact (MethodGraph.Represents.ofList (ms.map (Method.rename r))).context (r argumentsField)
  rw [before, after]
  refine ⟨fun t => Ledger.callees_source_rename r ms.reverse t, ?_⟩
  have known := Ledger.isSome_body?_source_rename r ms.reverse handler
  cases found : ((Ledger.source ms.reverse).body? handler).isSome with
  | false =>
    rw [found] at known
    exact Or.inl ⟨Context.instruction_eq_error_iff.mpr ⟨found, rfl⟩,
      Context.instruction_eq_error_iff.mpr ⟨known, rfl⟩⟩
  | true =>
    rw [found] at known
    have same := Ledger.isRenamed r ms.reverse argumentsField virtualCode handler
    have verdict : ∀ q : Recognizer, q.accepts _ = q.accepts _ := fun q => same.accepts_eq q.shape
    refine Or.inr ⟨_, _, Context.instruction_eq_ok_iff.mpr ⟨found, rfl⟩,
      Context.instruction_eq_ok_iff.mpr ⟨known, rfl⟩, same.callees, same.accepts_eq,
      fun q _ => verdict q, fun p => ⟨?_, ?_, ?_⟩⟩
    · simp only [Policy.candidates, verdict]
    · simp only [Policy.recover?_eq_find?, verdict]
    · simp only [Policy.recoverOrUnknown, Policy.recover?_eq_find?, verdict]

def mirrored (t : Token) : Token := ⟨t.value ^^^ 0x00FFFFFF⟩

theorem mirrored_mirrored (t : Token) : mirrored (mirrored t) = t := by
  rw [mirrored, mirrored, UInt32.xor_assoc, UInt32.xor_self, UInt32.xor_zero]

theorem table_mirrored (t : Token) : (mirrored t).table = t.table := by
  have rows : (0x00FFFFFF : UInt32) >>> 24 = 0 := by decide
  have high : (t.value ^^^ 0x00FFFFFF) >>> 24 = t.value >>> 24 := by
    rw [UInt32.shiftRight_xor, rows, UInt32.xor_zero]
  rw [Token.table, mirrored, high, Token.table]

def mirroring : Renaming where
  map := mirrored
  injective := Function.LeftInverse.injective mirrored_mirrored
  isFieldLike_map t := by rw [Token.isFieldLike, table_mirrored, Token.isFieldLike]
  isMethodLike_map t := by rw [Token.isMethodLike, table_mirrored, Token.isMethodLike]

/-- A shift that keeps the sign; a first version of its helper is replaced. -/
def shiftMethods : List Method := [
  ⟨.methodDef 16, "Helper", "System.Void", [⟨.ret, .absent⟩]⟩,
  ⟨.methodDef 1, "Handler", "System.Void",
    [⟨.ldcI4_1, .absent⟩, ⟨.call, .methodRef (.methodDef 16)⟩,
     ⟨.callvirt, .methodRef (.methodDef 17)⟩, ⟨.call, .methodRef (.methodDef 16)⟩, ⟨.ret, .absent⟩]⟩,
  ⟨.methodDef 16, "Helper", "System.Void", Generated.shrHelper.map fun c => ⟨c, .absent⟩⟩]

theorem recovery_of_mirrored_shift :
    ∃ w, ((MethodGraph.ofList (shiftMethods.map (Method.rename mirroring))).context
        (mirroring (.field 1))).instruction 7 (mirroring (.methodDef 1)) = .ok w ∧
      w.callees = [⟨0x06FFFFEF⟩, ⟨0x06FFFFEE⟩] ∧ w.recover? = some .shr := by
  obtain ⟨_, outcome⟩ :=
    recovery_of_renamed mirroring shiftMethods (.field 1) 7 (.methodDef 1)
  have known : ((MethodGraph.ofList shiftMethods).body? (.methodDef 1)).isSome = true := by cbv
  rcases outcome with ⟨failed, _⟩ | ⟨v, w, made, remade, callees, _, _, recovered⟩
  · obtain ⟨unknown, _⟩ := Context.instruction_eq_error_iff.mp failed
    exact absurd (known.symm.trans unknown) (by decide)
  · obtain ⟨_, rfl⟩ := Context.instruction_eq_ok_iff.mp made
    refine ⟨w, remade, callees.trans (by cbv), ?_⟩
    rw [VirtualInstruction.recover?, (recovered Policy.standard).2.1]
    cbv

end OpcodeRecovery
