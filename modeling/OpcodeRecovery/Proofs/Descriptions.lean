import OpcodeRecovery.Catalog
import OpcodeRecovery.Proofs.Mnemonics

/-!
Descriptions of patterns, shapes and recognizers, read back. A shape is described in one sentence,
which opens with a phrase, goes on with a list and ends with what is left to say. Phrases, lists and
ends can be told apart, whatever words a list has, so no two shapes are described alike; and the
opcode and the confidence of a recognizer stand before the description of its shape.
-/
namespace OpcodeRecovery

open Text

theorem Structured.list_append_inj {xs ys : List String} {r s : String} (words : ∀ x ∈ xs, Word x)
    (words' : ∀ y ∈ ys, Word y) (same : Structured.list xs ++ r = Structured.list ys ++ s) :
    xs = ys ∧ r = s := by
  simp only [Structured.list, String.append_assoc, String.append_right_inj] at same
  obtain ⟨items, close⟩ := intercalate_append_inj words words'
    (closes_append (c := ']') rfl (by decide) (by decide))
    (closes_append (c := ']') rfl (by decide) (by decide)) same
  exact ⟨items, (String.append_right_inj "]").mp close⟩

namespace Pattern

theorem words_mnemonics (p : Pattern) : ∀ x ∈ p.map Opcode.mnemonic, Word x := by
  intro x member
  obtain ⟨c, _, rfl⟩ := List.mem_map.mp member
  exact c.word_mnemonic

theorem eq_of_mnemonics_eq {p q : Pattern} (same : p.map Opcode.mnemonic = q.map Opcode.mnemonic) :
    p = q :=
  List.map_injective_iff.mpr Opcode.mnemonic_injective same

theorem text_inj {p q : Pattern} (same : p.text = q.text) : p = q := by
  have closed : p.text ++ "" = q.text ++ "" := by rw [same]
  exact eq_of_mnemonics_eq
    (Structured.list_append_inj p.words_mnemonics q.words_mnemonics closed).1

end Pattern

theorem TemplateItem.word_text (item : TemplateItem) : Word item.text := by
  cases item with
  | fixed c => exact c.word_mnemonic
  | constant => exact word_ofList (by decide)

theorem AccessorWidth.returnType_inj {w w' : AccessorWidth} (same : w.returnType = w'.returnType) :
    w = w' := by
  cases w <;> cases w' <;> first | rfl | exact absurd same (by decide)

theorem Structured.word_truth (b : Bool) : Word (Structured.truth b) := by
  cases b <;> exact word_ofList (by decide)

theorem Structured.truth_injective : Function.Injective Structured.truth := by
  intro a b
  cases a <;> cases b <;> decide

namespace Shape

inductive Phrase where
  | callee | flags | start | inside | whole
  deriving DecidableEq, Repr

def Phrase.text : Phrase → String
  | .callee => "callee contains "
  | .flags => "call with flags "
  | .start => "body starts with "
  | .inside => "body contains "
  | .whole => "body is "

def Phrase.bracket : Phrase → String
  | .flags => "("
  | _ => "["

def phrase : Shape → Phrase
  | .indirect _ => .callee
  | .discriminated _ _ => .flags
  | .opening _ | .delegating _ _ | .argumentIndexLoad _ => .start
  | .argumentStore _ | .argumentAddressLoad _ => .inside
  | .argumentLoad _ | .constantLoad _ => .whole

def items : Shape → List String
  | .indirect helper => helper.map Opcode.mnemonic
  | .discriminated _ flags => flags.map Structured.truth
  | .opening stub | .delegating stub _ => stub.map Opcode.mnemonic
  | .argumentStore _ => Generated.argumentStore.map Opcode.mnemonic
  | .argumentIndexLoad _ => Generated.argumentIndexLoad.map TemplateItem.text
  | .argumentAddressLoad _ => Generated.argumentAddressLoad.map Opcode.mnemonic
  | .argumentLoad _ => Generated.argumentLoad.map Opcode.mnemonic
  | .constantLoad _ => Generated.constantLoad.map TemplateItem.text

def ending : Shape → String
  | .indirect _ | .opening _ => ""
  | .discriminated helper _ => " to callee containing " ++ helper.text
  | .delegating _ helper => " and callee contains " ++ helper.text
  | .argumentStore width =>
    " with accessor returning " ++
      (width.returnType ++ (" and ends with " ++ Generated.argumentStoreTail.text))
  | .argumentIndexLoad index =>
    " where <constant> = " ++ (index.mnemonic ++ ", loading the argument field")
  | .argumentAddressLoad width | .argumentLoad width =>
    " loading the argument field, accessor returning " ++ width.returnType
  | .constantLoad constant => " where <constant> = " ++ constant.mnemonic

def Phrase.close : Phrase → String
  | .flags => ")"
  | _ => "]"

theorem text_eq (s : Shape) :
    s.text = s.phrase.text ++ (s.phrase.bracket ++ (", ".intercalate s.items ++
      (s.phrase.close ++ s.ending))) := by
  cases s
  all_goals
    unfold text ending
    simp only [phrase, Phrase.text, Phrase.bracket, Phrase.close, items, flagsText, Pattern.text,
      Template.text, Structured.list, String.append_assoc, String.append_empty]

theorem words_items (s : Shape) : ∀ x ∈ s.items, Word x := by
  have template (t : Template) : ∀ x ∈ t.map TemplateItem.text, Word x := by
    intro x member
    obtain ⟨item, _, rfl⟩ := List.mem_map.mp member
    exact item.word_text
  cases s with
  | indirect helper => exact helper.words_mnemonics
  | discriminated helper flags =>
    intro x member
    obtain ⟨b, _, rfl⟩ := List.mem_map.mp member
    exact Structured.word_truth b
  | opening stub => exact stub.words_mnemonics
  | delegating stub helper => exact stub.words_mnemonics
  | argumentStore width => exact Generated.argumentStore.words_mnemonics
  | argumentIndexLoad index => exact template Generated.argumentIndexLoad
  | argumentAddressLoad width => exact Generated.argumentAddressLoad.words_mnemonics
  | argumentLoad width => exact Generated.argumentLoad.words_mnemonics
  | constantLoad constant => exact template Generated.constantLoad

theorem Phrase.closes (k : Phrase) (rest : String) : Closes (k.close ++ rest) := by
  cases k with
  | flags => exact closes_append (c := ')') rfl (by decide) (by decide)
  | _ => exact closes_append (c := ']') rfl (by decide) (by decide)

theorem Phrase.apart_text : Apart Phrase.text := by
  intro k l
  cases k <;> cases l <;> decide +kernel

theorem parts_of_text_eq {s t : Shape} (same : s.text = t.text) :
    s.phrase = t.phrase ∧ s.items = t.items ∧ s.ending = t.ending := by
  rw [text_eq, text_eq] at same
  have opens : s.phrase = t.phrase := Phrase.apart_text.eq_of_append_eq same
  rw [opens, String.append_right_inj, String.append_right_inj] at same
  obtain ⟨list, rest⟩ := intercalate_append_inj s.words_items t.words_items
    (t.phrase.closes _) (t.phrase.closes _) same
  exact ⟨opens, list, (String.append_right_inj _).mp rest⟩

theorem text_inj {s t : Shape} (same : s.text = t.text) : s = t := by
  obtain ⟨phrases, lists, endings⟩ := parts_of_text_eq same
  cases s with
  | indirect helper =>
    cases t with
    | indirect helper' => exact congrArg indirect (Pattern.eq_of_mnemonics_eq lists)
    | _ => cases phrases
  | discriminated helper flags =>
    cases t with
    | discriminated helper' flags' =>
      have helpers := Pattern.text_inj ((String.append_right_inj _).mp endings)
      have passed := List.map_injective_iff.mpr Structured.truth_injective lists
      rw [helpers, passed]
    | _ => cases phrases
  | opening stub =>
    cases t with
    | opening stub' => exact congrArg opening (Pattern.eq_of_mnemonics_eq lists)
    | delegating stub' helper' => exact absurd endings.symm (append_ne_empty (by decide))
    | argumentIndexLoad index' => exact absurd endings.symm (append_ne_empty (by decide))
    | _ => cases phrases
  | delegating stub helper =>
    cases t with
    | opening stub' => exact absurd endings (append_ne_empty (by decide))
    | delegating stub' helper' =>
      have helpers := Pattern.text_inj ((String.append_right_inj _).mp endings)
      rw [Pattern.eq_of_mnemonics_eq lists, helpers]
    | argumentIndexLoad index' => exact absurd endings (append_ne_append (by decide +kernel))
    | _ => cases phrases
  | argumentStore width =>
    cases t with
    | argumentStore width' =>
      have widths := (String.append_left_inj _).mp ((String.append_right_inj _).mp endings)
      exact congrArg argumentStore (AccessorWidth.returnType_inj widths)
    | argumentAddressLoad width' => exact absurd (Pattern.eq_of_mnemonics_eq lists) (by decide)
    | _ => cases phrases
  | argumentIndexLoad index =>
    cases t with
    | opening stub' => exact absurd endings (append_ne_empty (by decide))
    | delegating stub' helper' => exact absurd endings (append_ne_append (by decide +kernel))
    | argumentIndexLoad index' =>
      have names := (String.append_left_inj _).mp ((String.append_right_inj _).mp endings)
      exact congrArg argumentIndexLoad (Opcode.mnemonic_injective names)
    | _ => cases phrases
  | argumentAddressLoad width =>
    cases t with
    | argumentStore width' => exact absurd (Pattern.eq_of_mnemonics_eq lists) (by decide)
    | argumentAddressLoad width' =>
      have widths := AccessorWidth.returnType_inj ((String.append_right_inj _).mp endings)
      exact congrArg argumentAddressLoad widths
    | _ => cases phrases
  | argumentLoad width =>
    cases t with
    | argumentLoad width' =>
      have widths := AccessorWidth.returnType_inj ((String.append_right_inj _).mp endings)
      exact congrArg argumentLoad widths
    | constantLoad constant' => exact absurd (List.cons.inj lists).1 (by decide)
    | _ => cases phrases
  | constantLoad constant =>
    cases t with
    | argumentLoad width' => exact absurd (List.cons.inj lists).1 (by decide)
    | constantLoad constant' =>
      have names := Opcode.mnemonic_injective ((String.append_right_inj _).mp endings)
      exact congrArg constantLoad names
    | _ => cases phrases

end Shape

def Confidence.mark : Confidence → String
  | .certain => ": "
  | .uncertain => " (uncertain): "

theorem Confidence.parts_mark (c : Confidence) (rest : String) : Parts (c.mark ++ rest) := by
  cases c with
  | certain => exact parts_append (c := ':') rfl (by decide)
  | uncertain => exact parts_append (c := ' ') rfl (by decide)

theorem Confidence.apart_mark : Apart Confidence.mark := by
  intro c d
  cases c <;> cases d <;> decide

namespace Recognizer

theorem text_eq (r : Recognizer) :
    r.text = r.opcode.mnemonic ++ (r.confidence.mark ++ r.shape.text) := by
  unfold text
  split
  · rename_i certain
    rw [certain, Confidence.mark, String.append_assoc]
  · rename_i uncertain
    rw [uncertain, Confidence.mark, String.append_assoc]

theorem text_inj {r r' : Recognizer} (same : r.text = r'.text) : r = r' := by
  rw [text_eq, text_eq] at same
  obtain ⟨names, rest⟩ := append_inj r.opcode.word_mnemonic.plain r'.opcode.word_mnemonic.plain
    (r.confidence.parts_mark _) (r'.confidence.parts_mark _) same
  have marks := Confidence.apart_mark.eq_of_append_eq rest
  rw [marks, String.append_right_inj] at rest
  have opcodes := Opcode.mnemonic_injective names
  have shapes := Shape.text_inj rest
  cases r
  cases r'
  simp_all

end Recognizer

/-- No two patterns, shapes or recognizers have one description. -/
theorem descriptions_unambiguous :
    (∀ p q : Pattern, p.text = q.text ↔ p = q) ∧ (∀ s t : Shape, s.text = t.text ↔ s = t) ∧
    ∀ r r' : Recognizer, r.text = r'.text ↔ r = r' := by
  refine ⟨fun p q => ⟨Pattern.text_inj, ?_⟩, fun s t => ⟨Shape.text_inj, ?_⟩,
    fun r r' => ⟨Recognizer.text_inj, ?_⟩⟩
  · exact fun same => congrArg Pattern.text same
  · exact fun same => congrArg Shape.text same
  · exact fun same => congrArg Recognizer.text same

end OpcodeRecovery
