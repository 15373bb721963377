import Mathlib.Data.List.Nodup
import OpcodeRecovery.Opcode.Table
import OpcodeRecovery.Proofs.Texts

/-!
Mnemonics and encodings as names. Each mnemonic is a word of its own: none is empty or holds a
separator, and no two opcodes share one, so the opcodes of a text that lists mnemonics can be read
off it. No two share an encoding either, and both ways back from the table find what was named. The
names are told apart by numbers read off them, as two hundred are too many to be compared in pairs.
-/
namespace OpcodeRecovery

/-- Whether the numbers differ from one another and from those whose bits are set in `met`. -/
def differ (met : Nat) : List Nat → Bool
  | [] => true
  | n :: ns => !met.testBit n && differ (met ||| 1 <<< n) ns

theorem nodup_of_differ {met : Nat} {ns : List Nat} (apart : differ met ns = true) :
    ns.Nodup ∧ ∀ n ∈ ns, met.testBit n = false := by
  induction ns generalizing met with
  | nil => exact ⟨List.nodup_nil, nofun⟩
  | cons n ns ih =>
    simp only [differ, Bool.and_eq_true, Bool.not_eq_true'] at apart
    obtain ⟨unmet, others⟩ := apart
    obtain ⟨nodup, later⟩ := ih others
    have unmarked : ∀ m ∈ ns, met.testBit m = false ∧ (1 <<< n).testBit m = false := by
      intro m member
      have unset := later m member
      rwa [Nat.testBit_or, Bool.or_eq_false_iff] at unset
    refine ⟨List.nodup_cons.mpr ⟨?_, nodup⟩, List.forall_mem_cons.mpr ⟨unmet, ?_⟩⟩
    · intro again
      have own := (unmarked n again).2
      rw [Nat.one_shiftLeft, Nat.testBit_two_pow_self] at own
      cases own
    · intro m member
      exact (unmarked m member).1

namespace Opcode

open Text

theorem word_mnemonic (c : Opcode) : Word c.mnemonic := by
  cases c <;> exact word_ofList (by decide)

theorem mem_all (c : Opcode) : c ∈ all := by
  have position : all[c.ctorIdx]? = some c := by cases c <;> rfl
  exact List.mem_of_getElem? position

theorem injective_of_differ {α : Type} {field : Opcode → α} (number : α → Nat)
    (apart : differ 0 (all.map fun c => number (field c)) = true) : Function.Injective field := by
  intro c d same
  exact List.inj_on_of_nodup_map (nodup_of_differ apart).1 (mem_all c) (mem_all d)
    (congrArg number same)

/-- The modulus is small, yet no two mnemonics meet. -/
def spelling (mnemonic : String) : Nat :=
  mnemonic.toList.foldl (fun n letter => 7 * n + letter.toNat) 0 % 2663

def position : Option Encoding → Nat
  | none => 0
  | some e => 256 * e.page.toNat + e.byte.toNat + 1

set_option maxRecDepth 1000 in
theorem mnemonic_injective : Function.Injective mnemonic :=
  injective_of_differ spelling (by decide +kernel)

set_option maxRecDepth 1000 in
theorem encoding?_injective : Function.Injective encoding? :=
  injective_of_differ position (by decide +kernel)

/-! ## Ways back -/

theorem find?_all_eq_some_iff {α : Type} [BEq α] [LawfulBEq α] {field : Opcode → α}
    (apart : Function.Injective field) {a : α} {c : Opcode} :
    (all.find? fun d => field d == a) = some c ↔ field c = a := by
  constructor
  · intro found
    have named := List.find?_some found
    exact eq_of_beq named
  · rintro rfl
    have met : (all.find? fun d => field d == field c).isSome = true :=
      List.find?_isSome.mpr ⟨c, mem_all c, beq_self_eq_true _⟩
    obtain ⟨d, found⟩ := Option.isSome_iff_exists.mp met
    have named := List.find?_some found
    rw [found, apart (eq_of_beq named)]

theorem ofMnemonic?_eq_some_iff {s : String} {c : Opcode} :
    ofMnemonic? s = some c ↔ c.mnemonic = s :=
  find?_all_eq_some_iff mnemonic_injective

theorem ofEncoding?_eq_some_iff {e : Encoding} {c : Opcode} :
    ofEncoding? e = some c ↔ c.encoding? = some e :=
  find?_all_eq_some_iff encoding?_injective

end Opcode
end OpcodeRecovery
