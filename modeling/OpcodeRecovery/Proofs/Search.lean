import Mathlib.Data.List.Basic
import OpcodeRecovery.Body.Search

/-!
Windows of a pattern in a body, said by taking the body apart. The search finds a window exactly
if there is one and the pattern is not empty, and the window it finds is the leftmost.
-/
namespace OpcodeRecovery

/-- A window of the pattern stands in the body between `x` and `y`. -/
structure Pattern.Occurs (p : Pattern) (b x w y : Body) : Prop where
  split : b = x ++ w ++ y
  opcodes : w.opcodes = p

/-- No window of the pattern starts further left. -/
structure Pattern.OccursFirst (p : Pattern) (b x w y : Body) : Prop extends
    Pattern.Occurs p b x w y where
  least : ∀ x' w' y', p.Occurs b x' w' y' → x.length ≤ x'.length

namespace Pattern

theorem Occurs.prefix_drop {p : Pattern} {b x w y : Body} (occurs : p.Occurs b x w y) :
    p <+: b.opcodes.drop x.length := by
  refine ⟨y.opcodes, ?_⟩
  have before : (x.opcodes).length = x.length := Body.length_opcodes x
  rw [occurs.split, Body.opcodes_append, Body.opcodes_append, occurs.opcodes, ← before,
    List.append_assoc, List.drop_left]

theorem occurs_of_prefix_drop {p : Pattern} {b : Body} {n : Nat} (found : p <+: b.opcodes.drop n) :
    p.Occurs b (b.take n) ((b.drop n).take p.length) ((b.drop n).drop p.length) where
  split := by rw [List.append_assoc, List.take_append_drop, List.take_append_drop]
  opcodes := by
    have taken : p = (b.opcodes.drop n).take p.length := List.prefix_iff_eq_take.mp found
    simpa [Body.opcodes, List.map_take, List.map_drop] using taken.symm

theorem Occurs.length_window {p : Pattern} {b x w y : Body} (occurs : p.Occurs b x w y) :
    w.length = p.length := by
  rw [← occurs.opcodes, Body.length_opcodes]

theorem Occurs.getElem?_window {p : Pattern} {b x w y : Body} (occurs : p.Occurs b x w y)
    {k : Nat} (bound : k < p.length) : w[k]? = b[x.length + k]? := by
  have inside : k < w.length := by rw [occurs.length_window]; exact bound
  rw [occurs.split, List.append_assoc, List.getElem?_append_right (Nat.le_add_right _ _),
    Nat.add_sub_cancel_left, List.getElem?_append_left inside]

theorem OccursFirst.unique {p : Pattern} {b x w y x' w' y' : Body} (first : p.OccursFirst b x w y)
    (first' : p.OccursFirst b x' w' y') : w = w' := by
  have start : x.length = x'.length :=
    Nat.le_antisymm (first.least _ _ _ first'.toOccurs) (first'.least _ _ _ first.toOccurs)
  have size : w.length = w'.length := by rw [first.length_window, first'.length_window]
  have split : x ++ (w ++ y) = x' ++ (w' ++ y') := by
    rw [← List.append_assoc, ← List.append_assoc, ← first.split, ← first'.split]
  exact (List.append_inj (List.append_inj split start).2 size).1

theorem OccursFirst.of_opcodes_eq {p : Pattern} {b b' x w y : Body}
    (first : p.OccursFirst b x w y) (same : b'.opcodes = b.opcodes) :
    ∃ x' w' y', p.OccursFirst b' x' w' y' ∧ x'.length = x.length := by
  have found : p <+: b'.opcodes.drop x.length := by rw [same]; exact first.prefix_drop
  have bound : x.length ≤ b'.length := by
    rw [← Body.length_opcodes b', same, Body.length_opcodes, first.split]
    simp only [List.length_append]
    omega
  have before : (b'.take x.length).length = x.length := List.length_take_of_le bound
  refine ⟨_, _, _, ⟨occurs_of_prefix_drop found, ?_⟩, before⟩
  intro x' w' y' other
  have elsewhere : p <+: b.opcodes.drop x'.length := by rw [← same]; exact other.prefix_drop
  have least := first.least _ _ _ (occurs_of_prefix_drop elsewhere)
  rw [before]
  exact Nat.le_trans least (List.length_take_le _ _)

theorem infix_opcodes_iff (p : Pattern) (b : Body) :
    p <:+: b.opcodes ↔ ∃ x w y, p.Occurs b x w y := by
  constructor
  · intro found
    obtain ⟨before, after, same⟩ := found
    refine ⟨_, _, _, occurs_of_prefix_drop (n := before.length) ⟨after, ?_⟩⟩
    rw [← same, List.append_assoc, List.drop_left]
  · intro found
    obtain ⟨x, w, y, occurs⟩ := found
    exact ⟨x.opcodes, y.opcodes, by simp [occurs.split, occurs.opcodes]⟩

theorem offset?_eq_some_iff {p : Pattern} {cs : List Opcode} {n : Nat} :
    p.offset? cs = some n ↔
      n ≤ cs.length ∧ p <+: cs.drop n ∧ ∀ m < n, ¬ p <+: cs.drop m := by
  induction cs generalizing n with
  | nil =>
    by_cases found : p <+: []
    · have read : p.isPrefixOf [] = true := List.isPrefixOf_iff_prefix.mpr found
      simp only [offset?, read, ↓reduceIte, Option.some.injEq, List.length_nil,
        Nat.le_zero, List.drop_nil, found, true_and]
      constructor
      · intro same
        subst same
        exact ⟨rfl, fun m small => absurd small (Nat.not_lt_zero m)⟩
      · exact fun h => h.1.symm
    · have unread : ¬ p.isPrefixOf [] = true := fun h => found (List.isPrefixOf_iff_prefix.mp h)
      simp [offset?, unread, found]
  | cons c cs ih =>
    by_cases found : p <+: c :: cs
    · have read : p.isPrefixOf (c :: cs) = true := List.isPrefixOf_iff_prefix.mpr found
      simp only [offset?, read, ↓reduceIte, Option.some.injEq]
      constructor
      · intro same
        subst same
        exact ⟨Nat.zero_le _, found, fun m small => absurd small (Nat.not_lt_zero m)⟩
      · intro first
        obtain ⟨_, _, least⟩ := first
        -- A later offset would not be the first: the pattern is read at the very start.
        cases n with
        | zero => rfl
        | succ n => exact absurd found (least 0 (Nat.succ_pos n))
    · have unread : ¬ p.isPrefixOf (c :: cs) = true :=
        fun h => found (List.isPrefixOf_iff_prefix.mp h)
      simp only [offset?, unread, Bool.false_eq_true, ↓reduceIte]
      cases n with
      | zero => simp [found]
      | succ n =>
        simp only [Option.map_eq_some_iff, Nat.add_right_cancel_iff, exists_eq_right, ih,
          List.length_cons, Nat.add_le_add_iff_right, List.drop_succ_cons]
        constructor
        · intro first
          obtain ⟨bound, here, least⟩ := first
          refine ⟨bound, here, fun m small => ?_⟩
          cases m with
          | zero => exact found
          | succ m => exact least m (Nat.lt_of_succ_lt_succ small)
        · intro first
          obtain ⟨bound, here, least⟩ := first
          exact ⟨bound, here, fun m small => least (m + 1) (Nat.succ_lt_succ small)⟩

theorem exists_offset?_of_prefix_drop {p : Pattern} {cs : List Opcode} {n : Nat}
    (bound : n ≤ cs.length) (found : p <+: cs.drop n) : ∃ k, p.offset? cs = some k := by
  induction n using Nat.strongRecOn with
  | ind n ih =>
    by_cases earlier : ∃ m < n, p <+: cs.drop m
    · obtain ⟨m, small, here⟩ := earlier
      exact ih m small (by omega) here
    · exact ⟨n, offset?_eq_some_iff.mpr
        ⟨bound, found, fun m small here => earlier ⟨m, small, here⟩⟩⟩

end Pattern

namespace Body

theorem find?_eq_some_iff {b : Body} {p : Pattern} {w : Window} :
    b.find? p = some w ↔
      p ≠ [] ∧ ∃ x y, p.OccursFirst b x w.instructions y ∧ w.start = x.length := by
  by_cases empty : p = []
  · simp [find?, empty]
  have nonempty : p.isEmpty = false := by simp [empty]
  simp only [find?, nonempty, Bool.false_eq_true, ↓reduceIte, Option.map_eq_some_iff,
    Pattern.offset?_eq_some_iff, length_opcodes, ne_eq, empty, not_false_eq_true, true_and]
  constructor
  · intro located
    obtain ⟨n, ⟨bound, found, least⟩, rfl⟩ := located
    have length_before : (b.take n).length = n := List.length_take_of_le bound
    refine ⟨b.take n, _, ⟨Pattern.occurs_of_prefix_drop found, ?_⟩, length_before.symm⟩
    intro x' w' y' other
    rw [length_before]
    by_contra smaller
    exact least x'.length (by omega) other.prefix_drop
  · intro taken
    obtain ⟨x, y, first, start⟩ := taken
    have bound : x.length ≤ b.length := by
      rw [first.split]
      simp only [List.length_append]
      omega
    refine ⟨x.length, ⟨bound, first.prefix_drop, ?_⟩, ?_⟩
    · intro m small found
      have other := first.least _ _ _ (Pattern.occurs_of_prefix_drop found)
      rw [List.length_take_of_le (by omega)] at other
      omega
    · have size : w.instructions.length = p.length := first.length_window
      have cut : (b.drop x.length).take p.length = w.instructions := by
        rw [first.split, List.append_assoc, List.drop_left, ← size, List.take_left]
      cases w
      simp_all

theorem contains_iff {b : Body} {p : Pattern} :
    b.contains p = true ↔ p ≠ [] ∧ ∃ x w y, p.Occurs b x w y := by
  constructor
  · intro found
    obtain ⟨w, here⟩ := Option.isSome_iff_exists.mp found
    obtain ⟨nonempty, x, y, first, _⟩ := find?_eq_some_iff.mp here
    exact ⟨nonempty, x, _, y, first.toOccurs⟩
  · intro there
    obtain ⟨nonempty, x, w, y, occurs⟩ := there
    have bound : x.length ≤ b.opcodes.length := by
      rw [length_opcodes, occurs.split]
      simp only [List.length_append]
      omega
    obtain ⟨k, found⟩ := Pattern.exists_offset?_of_prefix_drop bound occurs.prefix_drop
    simp [contains, find?, nonempty, found]

theorem any_find?_iff {b : Body} {p : Pattern} (nonempty : p ≠ []) (test : Window → Bool) :
    (b.find? p).any test = true ↔
      ∃ x w y, p.OccursFirst b x w y ∧ test ⟨x.length, w⟩ = true := by
  simp only [Option.any_eq_true, find?_eq_some_iff]
  constructor
  · intro tested
    obtain ⟨⟨start, w⟩, ⟨_, x, y, first, rfl⟩, passed⟩ := tested
    exact ⟨x, w, y, first, passed⟩
  · intro tested
    obtain ⟨x, w, y, first, passed⟩ := tested
    exact ⟨⟨x.length, w⟩, ⟨nonempty, x, y, first, rfl⟩, passed⟩

end Body
end OpcodeRecovery
