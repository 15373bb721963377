import Mathlib.Data.List.Induction
import OpcodeRecovery.Body

/-!
The methods that a body calls, each listed where it is called first. The list can be kept while the
body is read: a call enters its target unless it was entered before, and what was entered keeps its
place. So the list of a longer body begins with that of its front, and it is in the order of the
first calls.
-/
namespace OpcodeRecovery

def Instruction.Calls (i : Instruction) (t : Token) : Prop :=
  (i.opcode = .call ∨ i.opcode = .callvirt) ∧ i.operand = .methodRef t ∧
    (t.table = Token.methodDefTable ∨ t.table = Token.memberRefTable)

namespace Body

structure CallsFirstAt (b : Body) (t : Token) (n : Nat) : Prop where
  call : ∃ i, b[n]? = some i ∧ i.Calls t
  first : ∀ m < n, ∀ i, b[m]? = some i → ¬ i.Calls t

def CallsBefore (b : Body) (x y : Token) : Prop :=
  ∃ m n, m < n ∧ b.CallsFirstAt x m ∧ b.CallsFirstAt y n

/-- Enters the method that is called, unless it is listed already. -/
def enlist (listed : List Token) (i : Instruction) : List Token :=
  match i.callTarget? with
  | some t => if t ∈ listed then listed else listed ++ [t]
  | none => listed

end Body

namespace Instruction
variable {i : Instruction} {t : Token}

theorem callTarget?_eq_some_iff : i.callTarget? = some t ↔ i.Calls t := by
  rw [callTarget?, Option.ite_none_right_eq_some, method?_eq_some_iff, isCall, Opcode.isCall_iff,
    Token.isMethodLike_iff, Calls]

end Instruction

namespace Body
variable {b : Body} {i : Instruction} {t : Token} {n : Nat}

theorem mem_callees_iff : t ∈ b.callees ↔ ∃ i ∈ b, i.Calls t := by
  rw [mem_callees, callTargets, List.mem_filterMap]
  simp only [Instruction.callTarget?_eq_some_iff]

theorem callees_concat (b : Body) (i : Instruction) :
    callees (b ++ [i]) = enlist b.callees i := by
  rw [callees_append]
  cases called : i.callTarget? with
  | none => simp [callTargets, enlist, called, List.removeAll]
  | some t =>
    have single : callTargets [i] = [t] := by simp [callTargets, called]
    by_cases known : t ∈ b.callTargets
    · simp [enlist, called, single, known, List.removeAll]
    · simp [enlist, called, single, known, List.removeAll, List.eraseDups_cons]

theorem foldl_enlist (listed : List Token) (b : Body) :
    b.foldl enlist listed = listed ++ b.callees.filter fun t => t ∉ listed := by
  induction b using List.reverseRecOn with
  | nil => simp [callees, callTargets]
  | append_singleton b i ih =>
    rw [List.foldl_append, List.foldl_cons, List.foldl_nil, ih, callees_concat]
    cases called : i.callTarget? with
    | none => simp only [enlist, called]
    | some t =>
      by_cases before : t ∈ listed
      · by_cases known : t ∈ callees b <;> simp [enlist, called, before, known]
      · by_cases known : t ∈ callees b <;> simp [enlist, called, before, known]

theorem foldl_enlist_nil (b : Body) : b.foldl enlist [] = b.callees := by
  rw [foldl_enlist, List.nil_append, List.filter_eq_self]
  intro t _
  simp

theorem callees_append_eq_filter (a b : Body) :
    callees (a ++ b) = a.callees ++ b.callees.filter fun t => t ∉ a.callees := by
  rw [← foldl_enlist_nil, List.foldl_append, foldl_enlist_nil, foldl_enlist]

namespace CallsFirstAt

theorem lt_length (first : b.CallsFirstAt t n) : n < b.length := by
  obtain ⟨i, here, _⟩ := first.call
  exact (List.getElem?_eq_some_iff.mp here).1

theorem unique {m : Nat} (first : b.CallsFirstAt t m) (first' : b.CallsFirstAt t n) : m = n := by
  obtain ⟨i, here, calls⟩ := first.call
  obtain ⟨j, there, calls'⟩ := first'.call
  rcases Nat.lt_trichotomy m n with less | same | more
  · exact absurd calls (first'.first m less i here)
  · exact same
  · exact absurd calls' (first.first n more j there)

theorem append (first : b.CallsFirstAt t n) (rest : Body) : CallsFirstAt (b ++ rest) t n where
  call := by
    obtain ⟨i, here, calls⟩ := first.call
    exact ⟨i, by rw [List.getElem?_append_left first.lt_length, here], calls⟩
  first m less i here := by
    rw [List.getElem?_append_left (Nat.lt_trans less first.lt_length)] at here
    exact first.first m less i here

theorem concat (missing : t ∉ b.callees) (calls : i.Calls t) :
    CallsFirstAt (b ++ [i]) t b.length where
  call := ⟨i, List.getElem?_concat_length, calls⟩
  first m less j here := by
    intro calls'
    rw [List.getElem?_append_left less] at here
    exact missing (mem_callees_iff.mpr ⟨j, List.mem_of_getElem? here, calls'⟩)

theorem mem_callees (first : b.CallsFirstAt t n) : t ∈ b.callees := by
  obtain ⟨i, here, calls⟩ := first.call
  exact mem_callees_iff.mpr ⟨i, List.mem_of_getElem? here, calls⟩

end CallsFirstAt

theorem exists_callsFirstAt (member : t ∈ b.callees) : ∃ n, b.CallsFirstAt t n := by
  induction b using List.reverseRecOn with
  | nil => simp [callees, callTargets] at member
  | append_singleton b i ih =>
    by_cases known : t ∈ callees b
    · obtain ⟨n, first⟩ := ih known
      exact ⟨n, first.append [i]⟩
    · obtain ⟨j, listed, calls⟩ := mem_callees_iff.mp member
      rcases List.mem_append.mp listed with before | last
      · exact absurd (mem_callees_iff.mpr ⟨j, before, calls⟩) known
      · rw [List.mem_singleton.mp last] at calls
        exact ⟨b.length, .concat known calls⟩

theorem pairwise_callsBefore (b : Body) : b.callees.Pairwise b.CallsBefore := by
  induction b using List.reverseRecOn with
  | nil => exact List.Pairwise.nil
  | append_singleton b i ih =>
    have kept : (callees b).Pairwise (CallsBefore (b ++ [i])) := by
      refine ih.imp ?_
      intro x y before
      obtain ⟨m, n, less, first, first'⟩ := before
      exact ⟨m, n, less, first.append [i], first'.append [i]⟩
    rw [callees_concat]
    cases called : i.callTarget? with
    | none => simpa only [enlist, called] using kept
    | some t =>
      by_cases known : t ∈ callees b
      · simpa only [enlist, called, known, ↓reduceIte] using kept
      · -- The new method is called last, and every other was called before.
        simp only [enlist, called, known, ↓reduceIte]
        refine List.pairwise_append.mpr ⟨kept, List.pairwise_singleton _ t, ?_⟩
        intro x member y single
        rw [List.mem_singleton.mp single]
        obtain ⟨m, first⟩ := exists_callsFirstAt member
        have calls := Instruction.callTarget?_eq_some_iff.mp called
        exact ⟨m, b.length, first.lt_length, first.append [i], .concat known calls⟩

theorem nodup_callees (b : Body) : b.callees.Nodup := by
  refine (pairwise_callsBefore b).imp ?_
  intro x y before same
  obtain ⟨m, n, less, first, first'⟩ := before
  rw [same] at first
  exact absurd (first.unique first') (Nat.ne_of_lt less)

theorem listed_before_iff {x y : Token} :
    (∃ m n : Nat, m < n ∧ b.callees[m]? = some x ∧ b.callees[n]? = some y) ↔ b.CallsBefore x y := by
  have order := List.pairwise_iff_getElem.mp (pairwise_callsBefore b)
  constructor
  · intro listed
    obtain ⟨m, n, less, here, there⟩ := listed
    obtain ⟨bound, rfl⟩ := List.getElem?_eq_some_iff.mp here
    obtain ⟨bound', rfl⟩ := List.getElem?_eq_some_iff.mp there
    exact order m n bound bound' less
  · intro before
    obtain ⟨j, k, earlier, first, first'⟩ := before
    obtain ⟨m, bound, rfl⟩ := List.mem_iff_getElem.mp first.mem_callees
    obtain ⟨n, bound', rfl⟩ := List.mem_iff_getElem.mp first'.mem_callees
    rcases Nat.lt_trichotomy m n with less | same | more
    · exact ⟨m, n, less, List.getElem?_eq_getElem bound, List.getElem?_eq_getElem bound'⟩
    · subst same
      have together := first.unique first'
      omega
    · obtain ⟨k', j', later, again', again⟩ := order n m bound' bound more
      have together := first.unique again
      have together' := first'.unique again'
      omega

/-- The callees are the methods called, each once and in the order of their first calls. A second
    body adds those of its callees that the first does not call, in their order. -/
theorem callees_by_first_calls (b : Body) :
    (∀ t, t ∈ b.callees ↔ ∃ i ∈ b, i.Calls t) ∧ b.callees.Nodup ∧
    (∀ x y, (∃ m n : Nat, m < n ∧ b.callees[m]? = some x ∧ b.callees[n]? = some y) ↔
      ∃ m n, m < n ∧ b.CallsFirstAt x m ∧ b.CallsFirstAt y n) ∧
    (∀ rest, callees (b ++ rest) = b.callees ++ (callees rest).filter fun t => t ∉ b.callees) ∧
    b.callees = b.foldl enlist [] :=
  ⟨fun _ => mem_callees_iff, nodup_callees b, fun _ _ => listed_before_iff,
    callees_append_eq_filter b, (foldl_enlist_nil b).symm⟩

example :
    let method (row : UInt32) : Operand := .methodRef (.methodDef row)
    callees [⟨.call, method 2⟩, ⟨.newobj, method 9⟩, ⟨.callvirt, method 1⟩, ⟨.call, method 2⟩,
      ⟨.ldftn, method 8⟩, ⟨.calli, method 7⟩, ⟨.call, .methodRef (.field 6)⟩] =
        [.methodDef 2, .methodDef 1] := by
  decide

end Body
end OpcodeRecovery
