/-!
Hexadecimal texts of natural numbers. A width is the least number of digits; a number that needs
more gets them, so no text stands for two numbers.
-/
namespace OpcodeRecovery.Hex

inductive Case where
  | lower | upper
  deriving DecidableEq, Repr

def digit (letters : Case) (d : Nat) : Char :=
  if d < 10 then Char.ofNat (48 + d)
  else match letters with
    | .lower => Char.ofNat (87 + d)
    | .upper => Char.ofNat (55 + d)

/-- The last `width` digits of a number, most significant first. -/
def digits (letters : Case) : (width n : Nat) → List Char
  | 0, _ => []
  | width + 1, n => digits letters width (n / 16) ++ [digit letters (n % 16)]

def length (n : Nat) : Nat := n.log2 / 4 + 1

def text (letters : Case) (width n : Nat) : String :=
  String.ofList (digits letters (max width (length n)) n)

theorem length_digits (letters : Case) (width n : Nat) :
    (digits letters width n).length = width := by
  induction width generalizing n with
  | zero => rfl
  | succ width ih => simp [digits, ih]

theorem lt_pow_length (n : Nat) : n < Nat.pow 16 (length n) := by
  have bits : n.log2 + 1 ≤ 4 * length n := by unfold length; omega
  calc n < 2 ^ (n.log2 + 1) := Nat.lt_log2_self
    _ ≤ 2 ^ (4 * length n) := Nat.pow_le_pow_right (by decide) bits
    _ = Nat.pow 16 (length n) := Nat.pow_mul 2 4 (length n)

theorem digit_inj {letters : Case} {d e : Nat} (small : d < 16) (small' : e < 16)
    (same : digit letters d = digit letters e) : d = e := by
  have table : ∀ letters, ∀ d : Fin 16, ∀ e : Fin 16,
      digit letters d = digit letters e → d = e := by
    intro letters
    cases letters <;> decide
  exact Fin.mk.inj (table letters ⟨d, small⟩ ⟨e, small'⟩ same)

theorem eq_of_digits_eq {letters : Case} {width m n : Nat} (fits : m < Nat.pow 16 width)
    (fits' : n < Nat.pow 16 width) (same : digits letters width m = digits letters width n) :
    m = n := by
  induction width generalizing m n with
  | zero =>
    have one : Nat.pow 16 0 = 1 := rfl
    omega
  | succ width ih =>
    have power : Nat.pow 16 (width + 1) = Nat.pow 16 width * 16 := rfl
    obtain ⟨high, low⟩ := List.append_inj' same rfl
    have front : m / 16 = n / 16 := ih (by omega) (by omega) high
    have last : m % 16 = n % 16 :=
      digit_inj (Nat.mod_lt m (by decide)) (Nat.mod_lt n (by decide)) (List.cons.inj low).1
    omega

theorem text_inj {letters : Case} {width m n : Nat}
    (same : text letters width m = text letters width n) : m = n := by
  have digits := String.ofList_injective same
  have lengths := congrArg List.length digits
  rw [length_digits, length_digits] at lengths
  have fits (k : Nat) : k < Nat.pow 16 (max width (length k)) :=
    Nat.lt_of_lt_of_le (lt_pow_length k) (Nat.pow_le_pow_right (by decide) (Nat.le_max_right _ _))
  have fits' := fits n
  rw [← lengths] at fits' digits
  exact eq_of_digits_eq (fits m) fits' digits

theorem exists_digit_of_mem {letters : Case} {width n : Nat} {c : Char}
    (member : c ∈ digits letters width n) : ∃ d < 16, c = digit letters d := by
  induction width generalizing n with
  | zero => cases member
  | succ width ih =>
    rcases List.mem_append.mp member with high | low
    · exact ih high
    · exact ⟨n % 16, Nat.mod_lt n (by decide), List.mem_singleton.mp low⟩

end OpcodeRecovery.Hex
