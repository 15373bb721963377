import Std.Data.String.ToInt
import OpcodeRecovery.Body.Search
import OpcodeRecovery.Proofs.Mnemonics

/-!
What a listing reveals. The text of an instruction is its mnemonic and, behind a space, the text of
its operand, which opens with letters of its own for every kind of operand. So opcodes can be read
off a listing, and operands too, but for three things: of a reference only the token is seen, of a
switch only how many targets it has, and floating-point constants are left aside here.
-/
namespace OpcodeRecovery

open Text

namespace Operand

def isFloat : Operand → Bool
  | .immediate (.float32 _) | .immediate (.float64 _) => true
  | _ => false

def reference? : Operand → Option Token
  | .fieldRef token | .methodRef token | .typeRef token | .stringRef token => some token
  | _ => none

/-- Operands that a listing does not tell apart. -/
def ListedAlike (x y : Operand) : Prop :=
  x.equals y = true ∨ (∃ t, x.reference? = some t ∧ y.reference? = some t) ∨
    ∃ a b, x = .switch a ∧ y = .switch b ∧ a.length = b.length

inductive Kind where
  | int8 | uint8 | int32 | int64 | target | reference | localVar | argument | switch
  deriving DecidableEq, Repr

def Kind.lead : Kind → String
  | .int8 => "Int8("
  | .uint8 => "UInt8("
  | .int32 => "Int32("
  | .int64 => "Int64("
  | .target => "IL_"
  | .reference => "0x"
  | .localVar => "V_"
  | .argument => "A_"
  | .switch => "switch("

def Kind.close : Kind → String
  | .target | .reference | .localVar | .argument => ""
  | .int8 | .uint8 | .int32 | .int64 | .switch => ")"

/-- An operand is listed under a kind, by a number. -/
inductive Listed : Operand → Kind → String → Prop where
  | int8 (value : Int8) : Listed (.immediate (.int8 value)) .int8 (toString value.toInt)
  | uint8 (value : UInt8) : Listed (.immediate (.uint8 value)) .uint8 (toString value.toNat)
  | int32 (value : Int32) : Listed (.immediate (.int32 value)) .int32 (toString value.toInt)
  | int64 (value : Int64) : Listed (.immediate (.int64 value)) .int64 (toString value.toInt)
  | target (offset : UInt32) : Listed (.target offset) .target (Hex.text .upper 4 offset.toNat)
  | reference {x : Operand} {token : Token} (named : x.reference? = some token) :
      Listed x .reference (Hex.text .lower 8 token.value.toNat)
  | localVar (index : UInt16) : Listed (.localVar index) .localVar (toString index.toNat)
  | argument (index : UInt16) : Listed (.argument index) .argument (toString index.toNat)
  | switch (offsets : List UInt32) : Listed (.switch offsets) .switch (toString offsets.length)

variable {x y : Operand} {k l : Kind} {s s' : String}

theorem exists_listed (free : x.isFloat = false) : x = .absent ∨ ∃ k s, Listed x k s := by
  cases x with
  | absent => exact .inl rfl
  | immediate value =>
    cases value with
    | int8 value => exact .inr ⟨_, _, .int8 value⟩
    | uint8 value => exact .inr ⟨_, _, .uint8 value⟩
    | int32 value => exact .inr ⟨_, _, .int32 value⟩
    | int64 value => exact .inr ⟨_, _, .int64 value⟩
    | float32 word => cases free
    | float64 word => cases free
  | target offset => exact .inr ⟨_, _, .target offset⟩
  | fieldRef token | methodRef token | typeRef token | stringRef token =>
    exact .inr ⟨_, _, .reference rfl⟩
  | localVar index => exact .inr ⟨_, _, .localVar index⟩
  | argument index => exact .inr ⟨_, _, .argument index⟩
  | switch offsets => exact .inr ⟨_, _, .switch offsets⟩

theorem text?_of_reference? {t : Token} (named : x.reference? = some t) : x.text? = some t.text := by
  cases x with
  | fieldRef token | methodRef token | typeRef token | stringRef token =>
    rw [← Option.some.inj named]
    rfl
  | _ => cases named

theorem Listed.text? (listed : Listed x k s) : x.text? = some (k.lead ++ (s ++ k.close)) := by
  cases listed with
  | int8 | uint8 | int32 | int64 | switch => exact congrArg some String.append_assoc
  | reference named =>
    rw [text?_of_reference? named, Kind.lead, Kind.close, String.append_empty, Token.text]
  | target | localVar | argument => rw [Kind.close, String.append_empty, Operand.text?, Kind.lead]

theorem Kind.apart_lead : Apart Kind.lead := by
  intro k l
  cases k <;> cases l <;> decide

theorem equals_self (free : x.isFloat = false) : x.equals x = true := by
  cases x with
  | immediate value =>
    cases value with
    | float32 word => cases free
    | float64 word => cases free
    | _ => exact beq_self_eq_true _
  | _ => exact beq_self_eq_true _

theorem eq_of_equals (free : x.isFloat = false) (same : x.equals y = true) : x = y := by
  cases x with
  | immediate value =>
    cases y with
    | immediate value' =>
      cases value with
      | float32 word => cases free
      | float64 word => cases free
      | _ => exact congrArg immediate (eq_of_beq same)
    | _ => exact eq_of_beq same
  | _ => exact eq_of_beq same

theorem Listed.alike (listed : Listed x k s) (listed' : Listed y k s') (same : s = s') :
    x.ListedAlike y := by
  cases listed with
  | int8 value =>
    cases listed' with
    | int8 value' =>
      obtain rfl := Int8.toInt_inj.mp (Int.repr_injective same)
      exact .inl (equals_self rfl)
  | uint8 value =>
    cases listed' with
    | uint8 value' =>
      obtain rfl := UInt8.toNat_inj.mp (Nat.repr_injective same)
      exact .inl (equals_self rfl)
  | int32 value =>
    cases listed' with
    | int32 value' =>
      obtain rfl := Int32.toInt_inj.mp (Int.repr_injective same)
      exact .inl (equals_self rfl)
  | int64 value =>
    cases listed' with
    | int64 value' =>
      obtain rfl := Int64.toInt_inj.mp (Int.repr_injective same)
      exact .inl (equals_self rfl)
  | target offset =>
    cases listed' with
    | target offset' =>
      obtain rfl := UInt32.toNat_inj.mp (Hex.text_inj same)
      exact .inl (equals_self rfl)
  | reference named =>
    cases listed' with
    | reference named' =>
      rw [token_text_inj ((String.append_right_inj "0x").mpr same)] at named
      exact .inr (.inl ⟨_, named, named'⟩)
  | localVar index =>
    cases listed' with
    | localVar index' =>
      obtain rfl := UInt16.toNat_inj.mp (Nat.repr_injective same)
      exact .inl (equals_self rfl)
  | argument index =>
    cases listed' with
    | argument index' =>
      obtain rfl := UInt16.toNat_inj.mp (Nat.repr_injective same)
      exact .inl (equals_self rfl)
  | switch offsets =>
    cases listed' with
    | switch offsets' => exact .inr (.inr ⟨_, _, rfl, rfl, Nat.repr_injective same⟩)

theorem text?_eq_iff (free : x.isFloat = false) (free' : y.isFloat = false) :
    x.text? = y.text? ↔ x.ListedAlike y := by
  constructor
  · intro same
    rcases exists_listed free with rfl | ⟨k, s, listed⟩
    · rcases exists_listed free' with rfl | ⟨l, s', listed'⟩
      · exact .inl (equals_self rfl)
      · rw [listed'.text?] at same
        cases same
    · rcases exists_listed free' with rfl | ⟨l, s', listed'⟩
      · rw [listed.text?] at same
        cases same
      · rw [listed.text?, listed'.text?, Option.some.injEq] at same
        obtain rfl : k = l := Kind.apart_lead.eq_of_append_eq same
        exact listed.alike listed'
          ((String.append_left_inj _).mp ((String.append_right_inj _).mp same))
  · rintro (equal | ⟨t, named, named'⟩ | ⟨a, b, rfl, rfl, lengths⟩)
    · rw [eq_of_equals free equal]
    · rw [text?_of_reference? named, text?_of_reference? named']
    · rw [Operand.text?, Operand.text?, lengths]

end Operand

namespace Instruction

def shown (i : Instruction) : String :=
  match i.operand.text? with
  | some operand => " " ++ operand
  | none => ""

theorem text_eq (i : Instruction) : i.text = i.opcode.mnemonic ++ i.shown := by
  cases operand : i.operand.text? with
  | none => simp only [text, shown, operand, String.append_empty]
  | some s => simp only [text, shown, operand, String.append_assoc]

theorem parts_shown (i : Instruction) : Parts i.shown := by
  unfold shown
  split
  · exact parts_append (c := ' ') rfl (by decide)
  · exact parts_empty

theorem operand_text?_eq_of_shown_eq {i j : Instruction} (same : i.shown = j.shown) :
    i.operand.text? = j.operand.text? := by
  unfold shown at same
  cases operand : i.operand.text? with
  | none =>
    cases operand' : j.operand.text? with
    | none => rfl
    | some s' =>
      rw [operand, operand'] at same
      exact absurd same.symm (append_ne_empty (by decide))
  | some s =>
    cases operand' : j.operand.text? with
    | none =>
      rw [operand, operand'] at same
      exact absurd same (append_ne_empty (by decide))
    | some s' =>
      rw [operand, operand'] at same
      rw [(String.append_right_inj " ").mp same]

theorem text_eq_iff {i j : Instruction} :
    i.text = j.text ↔ i.opcode = j.opcode ∧ i.operand.text? = j.operand.text? := by
  constructor
  · intro same
    rw [text_eq, text_eq] at same
    obtain ⟨names, rest⟩ := append_inj i.opcode.word_mnemonic.plain j.opcode.word_mnemonic.plain
      i.parts_shown j.parts_shown same
    exact ⟨Opcode.mnemonic_injective names, operand_text?_eq_of_shown_eq rest⟩
  · rintro ⟨opcodes, operands⟩
    unfold text
    rw [opcodes, operands]

end Instruction

namespace Body

theorem opcodes_eq_of_texts_eq {a b : Body} (same : a.texts = b.texts) :
    a.opcodes = b.opcodes := by
  induction a generalizing b with
  | nil =>
    cases b with
    | nil => rfl
    | cons j b => cases same
  | cons i a ih =>
    cases b with
    | nil => cases same
    | cons j b =>
      obtain ⟨first, others⟩ := List.cons.inj same
      rw [opcodes_cons, opcodes_cons, (Instruction.text_eq_iff.mp first).1, ih others]

theorem comparisons_of_opcodes_eq {a b : Body} (same : a.opcodes = b.opcodes) (p : Pattern) :
    a.startsWith p = b.startsWith p ∧ a.endsWith p = b.endsWith p ∧
    a.isExactly p = b.isExactly p ∧ a.contains p = b.contains p ∧
    (a.find? p).map Window.start = (b.find? p).map Window.start := by
  have starts : (a.find? p).map Window.start = (b.find? p).map Window.start := by
    unfold find?
    split
    · rfl
    · rw [Option.map_map, Option.map_map, same]
      rfl
  have found : a.contains p = b.contains p := by
    unfold contains
    rw [← Option.isSome_map (f := Window.start), starts, Option.isSome_map]
  refine ⟨?_, ?_, ?_, found, starts⟩
  · rw [startsWith, startsWith, same]
  · rw [endsWith, endsWith, same]
  · rw [isExactly, isExactly, same]

end Body

/-- Texts of instructions without floating-point constants tell apart all but references to one
    token and switches of one length. From a listing the opcodes can be read off, and so the
    outcome of every comparison. -/
theorem listings_reveal :
    (∀ i j : Instruction, i.operand.isFloat = false → j.operand.isFloat = false →
      (i.text = j.text ↔ i.opcode = j.opcode ∧ i.operand.ListedAlike j.operand)) ∧
    ∀ a b : Body, a.texts = b.texts → a.opcodes = b.opcodes ∧ ∀ p : Pattern,
      a.startsWith p = b.startsWith p ∧ a.endsWith p = b.endsWith p ∧
      a.isExactly p = b.isExactly p ∧ a.contains p = b.contains p ∧
      (a.find? p).map Window.start = (b.find? p).map Window.start := by
  constructor
  · intro i j free free'
    rw [Instruction.text_eq_iff, Operand.text?_eq_iff free free']
  · intro a b same
    have opcodes := Body.opcodes_eq_of_texts_eq same
    exact ⟨opcodes, Body.comparisons_of_opcodes_eq opcodes⟩

theorem listings_reveal_tokens_and_targets :
    (⟨.ldtoken, .fieldRef ⟨0x0A000001⟩⟩ : Instruction).text =
      (⟨.ldtoken, .methodRef ⟨0x0A000001⟩⟩ : Instruction).text ∧
    (⟨.br, .target 7⟩ : Instruction).text ≠ (⟨.br, .localVar 7⟩ : Instruction).text ∧
    Body.startsWith [⟨.ldarg0, .absent⟩, ⟨.switch, .switch [1, 2]⟩] [.ldarg0] =
      Body.startsWith [⟨.ldarg0, .absent⟩, ⟨.switch, .switch [7, 9]⟩] [.ldarg0] := by
  refine ⟨(listings_reveal.1 _ _ rfl rfl).mpr ⟨rfl, .inr (.inl ⟨_, rfl, rfl⟩)⟩, ?_, ?_⟩
  · intro same
    rcases ((listings_reveal.1 _ _ rfl rfl).mp same).2 with equal | ⟨t, named, _⟩ | ⟨a, b, kind, _⟩
    · exact absurd equal (by decide)
    · cases named
    · cases kind
  · exact ((listings_reveal.2 _ _ rfl).2 [.ldarg0]).1

end OpcodeRecovery
