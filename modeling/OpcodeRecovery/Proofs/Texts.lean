import OpcodeRecovery.Token

/-!
Texts that can be taken apart again. A plain text holds no separator, so in a longer text it ends
where the first separator stands, or where the longer text ends. Numbers and tokens are plain, and
none of them is written in two ways. A list of words is read item by item: a comma goes on with the
next one, and any other separator closes the list.
-/
namespace OpcodeRecovery.Text

def separators : List Char := [' ', ',', ':', '(', ')', '[', ']']

def Plain (s : String) : Prop := ∀ c ∈ s.toList, c ∉ separators

instance (s : String) : Decidable (Plain s) := List.decidableBAll (· ∉ separators) s.toList

structure Word (s : String) : Prop where
  nonempty : s ≠ ""
  plain : Plain s

/-- A text before which a plain text ends: it is empty or starts with a separator. -/
def Parts (s : String) : Prop := ∀ c ∈ s.toList.head?, c ∈ separators

/-- A text before which a list ends: it starts with a separator other than a comma. -/
def Closes (s : String) : Prop := ∃ c ∈ s.toList.head?, c ∈ separators ∧ c ≠ ','

variable {a b p q r s : String}

theorem Closes.parts (closes : Closes s) : Parts s := by
  obtain ⟨c, first, separates, _⟩ := closes
  intro d first'
  rw [Option.mem_unique first' first]
  exact separates

theorem head?_append {c : Char} (first : p.toList.head? = some c) :
    (p ++ r).toList.head? = some c := by
  rw [String.toList_append, List.head?_append, first, Option.some_or]

theorem parts_empty : Parts "" := nofun

theorem parts_append {c : Char} (first : p.toList.head? = some c) (separates : c ∈ separators) :
    Parts (p ++ r) := by
  intro d first'
  rw [head?_append first] at first'
  rw [← Option.some.inj first']
  exact separates

theorem closes_append {c : Char} (first : p.toList.head? = some c) (separates : c ∈ separators)
    (other : c ≠ ',') : Closes (p ++ r) :=
  ⟨c, head?_append first, separates, other⟩

theorem Plain.rest_eq_nil {rest behind : List Char} (plain : Plain b) (parts : Parts r)
    (longer : b.toList = a.toList ++ rest) (same : r.toList = rest ++ behind) : rest = [] := by
  cases rest with
  | nil => rfl
  | cons c rest =>
    have first : c ∈ r.toList.head? := by rw [same]; rfl
    have inside : c ∈ b.toList := by rw [longer]; simp
    exact absurd (parts c first) (plain c inside)

theorem append_inj (plain : Plain a) (plain' : Plain b) (parts : Parts r) (parts' : Parts s)
    (same : a ++ r = b ++ s) : a = b ∧ r = s := by
  have letters : a.toList ++ r.toList = b.toList ++ s.toList := by
    rw [← String.toList_append, same, String.toList_append]
  -- One of the two plain texts goes on where the other ends, but only by nothing.
  have ends : a.toList = b.toList := by
    rcases List.append_eq_append_iff.mp letters with ⟨rest, longer, behind⟩ | ⟨rest, longer, behind⟩
    · rw [longer, plain'.rest_eq_nil parts longer behind, List.append_nil]
    · rw [longer, plain.rest_eq_nil parts' longer behind, List.append_nil]
  obtain rfl : a = b := String.toList_inj.mp ends
  exact ⟨rfl, (String.append_right_inj a).mp same⟩

theorem append_ne_append (apart : ¬ p.toList <+: q.toList ∧ ¬ q.toList <+: p.toList) :
    p ++ r ≠ q ++ s := by
  intro same
  have begins : p.toList <+: (p ++ r).toList := by
    rw [String.toList_append]
    exact List.prefix_append _ _
  have begins' : q.toList <+: (p ++ r).toList := by
    rw [same, String.toList_append]
    exact List.prefix_append _ _
  rcases List.prefix_or_prefix_of_prefix begins begins' with shorter | shorter
  · exact apart.1 shorter
  · exact apart.2 shorter

/-- Texts none of which begins with another. -/
def Apart {α : Type} (lead : α → String) : Prop :=
  ∀ x y, x ≠ y → ¬ (lead x).toList <+: (lead y).toList

theorem Apart.eq_of_append_eq {α : Type} {lead : α → String} (apart : Apart lead) {x y : α}
    (same : lead x ++ r = lead y ++ s) : x = y := by
  by_cases equal : x = y
  · exact equal
  · exact absurd same (append_ne_append ⟨apart x y equal, apart y x (Ne.symm equal)⟩)

theorem append_ne_empty (nonempty : p ≠ "") : p ++ r ≠ "" := by
  intro same
  exact nonempty (String.append_eq_empty_iff.mp same).1

/-! ## Lists of words -/

theorem word_ofList {c : Char} {cs : List Char}
    (plain : (c :: cs).all (fun d => decide (d ∉ separators)) = true) :
    Word (String.ofList (c :: cs)) where
  nonempty same := by simpa using congrArg String.toList same
  plain d member := by
    rw [String.toList_ofList] at member
    exact of_decide_eq_true (List.all_eq_true.mp plain d member)

theorem Word.head?_not_separator (word : Word a) :
    ∃ c, (a ++ r).toList.head? = some c ∧ c ∉ separators := by
  cases letters : a.toList with
  | nil => exact absurd (String.toList_inj.mp letters) word.nonempty
  | cons c rest =>
    exact ⟨c, head?_append (by rw [letters]; rfl), word.plain c (by rw [letters]; simp)⟩

theorem Word.append_ne (word : Word a) (parts : Parts s) : a ++ r ≠ s := by
  obtain ⟨c, first, plain⟩ := word.head?_not_separator (r := r)
  intro same
  rw [same] at first
  exact plain (parts c first)

/-- What stands behind an item: the close of the list, or a comma and the other items. -/
def behind (xs : List String) (close : String) : String :=
  match xs with
  | [] => close
  | x :: xs => ", " ++ (", ".intercalate (x :: xs) ++ close)

theorem intercalate_cons_append (x : String) (xs : List String) (close : String) :
    ", ".intercalate (x :: xs) ++ close = x ++ behind xs close := by
  cases xs with
  | nil => rw [String.intercalate_singleton, behind]
  | cons y ys => rw [String.intercalate_cons_cons, behind, String.append_assoc, String.append_assoc]

theorem parts_behind {xs : List String} (closes : Closes r) : Parts (behind xs r) := by
  cases xs with
  | nil => exact closes.parts
  | cons x xs => exact parts_append (c := ',') rfl (by decide)

theorem comma_append_ne (closes : Closes s) : ", " ++ r ≠ s := by
  obtain ⟨c, first, _, other⟩ := closes
  intro same
  rw [← same, head?_append (c := ',') rfl] at first
  exact other (Option.some.inj first).symm

theorem intercalate_append_inj {xs ys : List String} (words : ∀ x ∈ xs, Word x)
    (words' : ∀ y ∈ ys, Word y) (closes : Closes r) (closes' : Closes s)
    (same : ", ".intercalate xs ++ r = ", ".intercalate ys ++ s) : xs = ys ∧ r = s := by
  induction xs generalizing ys with
  | nil =>
    cases ys with
    | nil => simpa using same
    | cons y ys =>
      rw [intercalate_cons_append, String.intercalate_nil, String.empty_append] at same
      exact absurd same.symm ((words' y List.mem_cons_self).append_ne closes.parts)
  | cons x xs ih =>
    cases ys with
    | nil =>
      rw [intercalate_cons_append, String.intercalate_nil, String.empty_append] at same
      exact absurd same ((words x List.mem_cons_self).append_ne closes'.parts)
    | cons y ys =>
      rw [intercalate_cons_append, intercalate_cons_append] at same
      obtain ⟨rfl, rest⟩ := append_inj (words x List.mem_cons_self).plain
        (words' y List.mem_cons_self).plain (parts_behind closes) (parts_behind closes') same
      -- Both lists end here, or both go on.
      cases xs with
      | nil =>
        cases ys with
        | nil => exact ⟨rfl, rest⟩
        | cons z zs => exact absurd rest.symm (comma_append_ne closes)
      | cons w ws =>
        cases ys with
        | nil => exact absurd rest (comma_append_ne closes')
        | cons z zs =>
          have further := (String.append_right_inj ", ").mp rest
          obtain ⟨items, close⟩ := ih (fun v member => words v (List.mem_cons_of_mem _ member))
            (fun v member => words' v (List.mem_cons_of_mem _ member)) further
          exact ⟨by rw [items], close⟩

/-! ## Numbers and tokens -/

theorem isDigit_not_separator {c : Char} (digit : c.isDigit = true) : c ∉ separators := by
  intro member
  have none : separators.all (fun c => !c.isDigit) = true := by decide
  rw [List.all_eq_true] at none
  simpa [digit] using none c member

theorem plain_toString_nat (n : Nat) : Plain (toString n) := by
  intro c member
  rw [Nat.toString_eq_repr, Nat.toList_repr] at member
  exact isDigit_not_separator (Nat.isDigit_of_mem_toDigits (by decide) (by decide) member)

theorem plain_toString_int (n : Int) : Plain (toString n) := by
  cases n with
  | ofNat n => exact plain_toString_nat n
  | negSucc n =>
    intro c member
    have letters : (toString (Int.negSucc n)).toList = '-' :: (toString (n + 1)).toList :=
      String.toList_append
    rw [letters, List.mem_cons] at member
    rcases member with sign | digit
    · rw [sign]
      decide
    · exact plain_toString_nat (n + 1) c digit

theorem plain_hex (letters : Hex.Case) (width n : Nat) : Plain (Hex.text letters width n) := by
  intro c member
  rw [Hex.text, String.toList_ofList] at member
  obtain ⟨d, small, rfl⟩ := Hex.exists_digit_of_mem member
  have table : ∀ d : Fin 16, Hex.digit letters d ∉ separators := by cases letters <;> decide
  exact table ⟨d, small⟩

theorem plain_append (plain : Plain a) (plain' : Plain b) : Plain (a ++ b) := by
  intro c member
  rw [String.toList_append, List.mem_append] at member
  rcases member with front | back
  · exact plain c front
  · exact plain' c back

theorem plain_token (t : Token) : Plain t.text :=
  plain_append (by decide) (plain_hex .lower 8 _)

theorem token_text_inj {t u : Token} (same : t.text = u.text) : t = u := by
  have digits := Hex.text_inj ((String.append_right_inj "0x").mp same)
  cases t
  cases u
  exact congrArg Token.mk (UInt32.toNat_inj.mp digits)

end OpcodeRecovery.Text
