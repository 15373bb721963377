import OpcodeRecovery.Body.Search
import OpcodeRecovery.Proofs.Descriptions

/-!
Templates beside what they are filled with. Filling and rendering go through a template item by
item, each in its own way, and stay together: the words of the text of a template stand where the
words of a filled pattern stand, and the two differ at the open positions and nowhere else. The
words are read off the texts alone, whatever made them.
-/
namespace OpcodeRecovery

namespace Text
variable {a b : List Char} {c : Char} {r s : String}

/-- The stretches of a text between its separators. -/
def stretches (letters : List Char) : List (List Char) :=
  (letters.splitOnP (· ∈ separators)).filter (· ≠ [])

def words (s : String) : List String := (stretches s.toList).map String.ofList

theorem stretches_append_cons (separates : c ∈ separators) :
    stretches (a ++ c :: b) = stretches a ++ stretches b := by
  rw [stretches, List.splitOnP_append_cons a b (decide_eq_true separates), List.filter_append,
    stretches, stretches]

theorem stretches_cons (separates : c ∈ separators) : stretches (c :: b) = stretches b :=
  stretches_append_cons (a := []) separates

theorem Word.stretches_eq (word : Word r) : stretches r.toList = [r.toList] := by
  have whole : r.toList.splitOnP (· ∈ separators) = [r.toList] :=
    List.splitOnP_eq_singleton fun c member => decide_eq_false (word.plain c member)
  have nonempty : r.toList ≠ [] := fun none => word.nonempty (String.toList_inj.mp none)
  rw [stretches, whole, List.filter_singleton, decide_eq_true nonempty, cond_true]

theorem words_empty : words "" = [] := by decide

theorem words_append (word : Word r) (parts : Parts s) : words (r ++ s) = r :: words s := by
  have first := word.stretches_eq
  cases letters : s.toList with
  | nil =>
    obtain rfl : s = "" := String.toList_inj.mp letters
    rw [String.append_empty, words_empty, words, first, List.map_singleton, String.ofList_toList]
  | cons c rest =>
    have separates : c ∈ separators := parts c (by rw [letters]; rfl)
    rw [words, words, String.toList_append, letters, stretches_append_cons separates,
      stretches_cons separates, first, List.singleton_append, List.map_cons, String.ofList_toList]

theorem words_comma_append (s : String) : words (", " ++ s) = words s := by
  have letters : (", " ++ s).toList = ',' :: ' ' :: s.toList := by
    rw [String.toList_append]
    rfl
  rw [words, letters, stretches_cons (by decide), stretches_cons (by decide), words]

theorem words_intercalate_append {xs : List String} (items : ∀ x ∈ xs, Word x) (closes : Closes r) :
    words (", ".intercalate xs ++ r) = xs ++ words r := by
  induction xs with
  | nil => rw [String.intercalate_nil, String.empty_append, List.nil_append]
  | cons x xs ih =>
    rw [intercalate_cons_append, words_append (items x List.mem_cons_self) (parts_behind closes)]
    have others := ih fun y member => items y (List.mem_cons_of_mem x member)
    cases xs with
    | nil => rfl
    | cons y ys =>
      rw [behind, words_comma_append, others]
      rfl

end Text

open Text

theorem Structured.words_list {xs : List String} (items : ∀ x ∈ xs, Word x) :
    words (list xs) = xs := by
  have letters : (list xs).toList = '[' :: (", ".intercalate xs ++ "]").toList := by
    rw [list, String.append_assoc, String.toList_append]
    rfl
  have inside := words_intercalate_append items
    (closes_append (c := ']') (p := "]") (r := "") rfl (by decide) (by decide))
  rw [String.append_empty] at inside
  rw [words, letters, stretches_cons (by decide), ← words, inside]
  have closed : words "]" = [] := by decide
  rw [closed, List.append_nil]

theorem Pattern.words_text (p : Pattern) : words p.text = p.map Opcode.mnemonic :=
  Structured.words_list p.words_mnemonics

theorem Opcode.mnemonic_ne_constant (c : Opcode) : c.mnemonic ≠ TemplateItem.constant.text := by
  have table : ∀ c ∈ all, c.mnemonic ≠ TemplateItem.constant.text := by decide +kernel
  exact table c c.mem_all

theorem TemplateItem.text_injective : Function.Injective TemplateItem.text := by
  intro item item' same
  cases item with
  | fixed code =>
    cases item' with
    | fixed code' => rw [Opcode.mnemonic_injective same]
    | constant => exact absurd same code.mnemonic_ne_constant
  | constant =>
    cases item' with
    | fixed code' => exact absurd same.symm code'.mnemonic_ne_constant
    | constant => rfl

namespace Template
variable {t u : Template} {c d : Opcode}

theorem words_text (t : Template) : words t.text = t.map TemplateItem.text := by
  refine Structured.words_list ?_
  intro x member
  obtain ⟨item, _, rfl⟩ := List.mem_map.mp member
  exact item.word_text

theorem text_inj (same : t.text = u.text) : t = u := by
  have items := congrArg words same
  rw [words_text, words_text] at items
  exact List.map_injective_iff.mpr TemplateItem.text_injective items

theorem fill_eq_of_not_mem (closed : .constant ∉ t) : t.fill c = t.fill d := by
  refine List.map_inj_left.mpr ?_
  intro item member
  cases item with
  | fixed code => rfl
  | constant => exact absurd member closed

theorem fill_eq_iff : t.fill c = t.fill d ↔ c = d ∨ .constant ∉ t := by
  constructor
  · intro same
    by_cases isOpen : .constant ∈ t
    · exact .inl (eq_of_fill_eq isOpen same)
    · exact .inr isOpen
  · intro alike
    rcases alike with rfl | closed
    · rfl
    · exact fill_eq_of_not_mem closed

theorem fill_eq_of_startsWith {b : Body} (starts : b.startsWith (t.fill c) = true)
    (starts' : b.startsWith (t.fill d) = true) : t.fill c = t.fill d := by
  have first := List.prefix_iff_eq_take.mp ((b.startsWith_iff _).mp starts)
  have second := List.prefix_iff_eq_take.mp ((b.startsWith_iff _).mp starts')
  rw [length_fill] at first second
  exact first.trans second.symm

theorem fill_eq_of_isExactly {b : Body} (whole : b.isExactly (t.fill c) = true)
    (whole' : b.isExactly (t.fill d) = true) : t.fill c = t.fill d :=
  ((b.isExactly_iff _).mp whole).symm.trans ((b.isExactly_iff _).mp whole')

/-- The template, what it is filled to and the words of both texts agree position by position. -/
structure Aligned (t : Template) (c : Opcode) : Prop where
  length_fill : (t.fill c).length = t.length
  length_words : (words t.text).length = t.length
  length_words_fill : (words (t.fill c).text).length = t.length
  fixed : ∀ (i : Nat) (code : Opcode), t[i]? = some (.fixed code) →
    (t.fill c)[i]? = some code ∧ (words t.text)[i]? = some code.mnemonic ∧
      (words (t.fill c).text)[i]? = some code.mnemonic
  constant : ∀ i : Nat, t[i]? = some .constant →
    (t.fill c)[i]? = some c ∧ (words t.text)[i]? = some "<constant>" ∧
      (words (t.fill c).text)[i]? = some c.mnemonic

theorem aligned (t : Template) (c : Opcode) : t.Aligned c where
  length_fill := t.length_fill c
  length_words := by rw [words_text, List.length_map]
  length_words_fill := by rw [Pattern.words_text, List.length_map, t.length_fill]
  fixed i code here := by
    have filled : (t.fill c)[i]? = some code := by rw [fill, List.getElem?_map, here]; rfl
    rw [words_text, Pattern.words_text, List.getElem?_map, List.getElem?_map, here, filled]
    exact ⟨rfl, rfl, rfl⟩
  constant i here := by
    have filled : (t.fill c)[i]? = some c := by rw [fill, List.getElem?_map, here]; rfl
    rw [words_text, Pattern.words_text, List.getElem?_map, List.getElem?_map, here, filled]
    exact ⟨rfl, rfl, rfl⟩

/-- Filling a template and rendering it go item by item alike. What a template is filled with makes
    a difference to patterns and to the bodies they are found in unless the template has no open
    position, and no two templates have one text. -/
theorem filled_as_rendered (t : Template) (c d : Opcode) :
    t.Aligned c ∧
    (t.fill c = t.fill d ↔ c = d ∨ .constant ∉ t) ∧
    (∀ b : Body, b.isExactly (t.fill c) = true → b.isExactly (t.fill d) = true →
      c = d ∨ .constant ∉ t) ∧
    (∀ b : Body, b.startsWith (t.fill c) = true → b.startsWith (t.fill d) = true →
      c = d ∨ .constant ∉ t) ∧
    ∀ u : Template, t.text = u.text ↔ t = u := by
  refine ⟨t.aligned c, fill_eq_iff, ?_, ?_, ?_⟩
  · exact fun b whole whole' => fill_eq_iff.mp (fill_eq_of_isExactly whole whole')
  · exact fun b starts starts' => fill_eq_iff.mp (fill_eq_of_startsWith starts starts')
  · exact fun u => ⟨text_inj, congrArg text⟩

theorem filled_constant_load :
    let body : Body := (Generated.constantLoad.fill .ldcI4_3).map fun c => ⟨c, .absent⟩
    let closed : Template := [.fixed .ldarg0, .fixed .newobj]
    (Generated.constantLoad[4]? = some .constant ∧
      (words Generated.constantLoad.text)[4]? = some "<constant>" ∧
      (words (Generated.constantLoad.fill .ldcI4_3).text)[4]? = some "ldc.i4.3") ∧
    (body.isExactly (Generated.constantLoad.fill .ldcI4_3) = true ∧
      ¬ body.isExactly (Generated.constantLoad.fill .ldcI4_5) = true) ∧
    (body.startsWith (closed.fill .ldcI4_3) = true ∧ body.startsWith (closed.fill .ldcI4_5) = true ∧
      (Opcode.ldcI4_3 = .ldcI4_5 ∨ .constant ∉ closed)) := by
  intro body closed
  obtain ⟨aligned, _, whole, _, _⟩ :=
    filled_as_rendered Generated.constantLoad .ldcI4_3 .ldcI4_5
  obtain ⟨_, _, _, starts, _⟩ := filled_as_rendered closed .ldcI4_3 .ldcI4_5
  obtain ⟨_, name, name'⟩ := aligned.constant 4 rfl
  have entire : body.isExactly (Generated.constantLoad.fill .ldcI4_3) = true := by decide
  have start : body.startsWith (closed.fill .ldcI4_3) = true := by decide
  have start' : body.startsWith (closed.fill .ldcI4_5) = true := by decide
  refine ⟨⟨rfl, name, name'⟩, ⟨entire, ?_⟩, start, start', starts body start start'⟩
  intro other
  rcases whole body entire other with same | alwaysClosed
  · exact absurd same (by decide)
  · exact alwaysClosed (by decide)

end Template
end OpcodeRecovery
