import Mathlib.Data.List.Forall2
import Mathlib.Data.Option.Basic
import OpcodeRecovery.Proofs.GraphHistory
import OpcodeRecovery.Proofs.Independence
import OpcodeRecovery.Proofs.Listings
import OpcodeRecovery.Proofs.NumberValues

/-!
Equality of instructions, bodies and methods. Floating-point constants are compared as numbers, so
equality is not identity: the two zeros are equal, and what is no number differs from itself and
makes all that holds it differ from itself too. Yet whatever is equal is read alike, because no
recognizer looks at a floating-point constant. So a method may be replaced by an equal one, in any
graph, and nothing that is recovered changes.
-/
namespace OpcodeRecovery

open Binary

/-- Symmetric and transitive. What holds no number differs from itself, and nothing else does. -/
structure PartialEquality {α : Type} (equals : α → α → Bool) (HoldsNaN : α → Prop) : Prop where
  symm : ∀ {x y}, equals x y = true → equals y x = true
  trans : ∀ {x y z}, equals x y = true → equals y z = true → equals x z = true
  self_iff : ∀ {x}, equals x x = true ↔ ¬ HoldsNaN x

theorem PartialEquality.of_part {α β κ : Type} {equals : β → β → Bool} {HoldsNaN : β → Prop}
    (parts : PartialEquality equals HoldsNaN) {whole : α → α → Bool} (key : α → κ) {part : α → β}
    (compares : ∀ x y, whole x y = true ↔ key x = key y ∧ equals (part x) (part y) = true) :
    PartialEquality whole fun x => HoldsNaN (part x) where
  symm same := by
    obtain ⟨keys, equal⟩ := (compares _ _).mp same
    exact (compares _ _).mpr ⟨keys.symm, parts.symm equal⟩
  trans first second := by
    obtain ⟨keys, equal⟩ := (compares _ _).mp first
    obtain ⟨keys', equal'⟩ := (compares _ _).mp second
    exact (compares _ _).mpr ⟨keys.trans keys', parts.trans equal equal'⟩
  self_iff := by
    intro x
    rw [compares, ← parts.self_iff]
    exact and_iff_right rfl

theorem Binary.Number.value?_eq_none_iff {x : Number} : x.value? = none ↔ x = .nan := by
  cases x <;> simp [value?]

theorem Binary.Format.partialEquality (f : Format) :
    PartialEquality (fun a b => (f.decode a).equals (f.decode b)) fun a => f.decode a = .nan where
  symm same := by
    obtain ⟨x, value, value'⟩ := (f.equals_decode_iff _ _).mp same
    exact (f.equals_decode_iff _ _).mpr ⟨x, value', value⟩
  trans first second := by
    obtain ⟨x, value, value'⟩ := (f.equals_decode_iff _ _).mp first
    obtain ⟨y, value'', value'''⟩ := (f.equals_decode_iff _ _).mp second
    obtain rfl : x = y := Option.some.inj (value'.symm.trans value'')
    exact (f.equals_decode_iff _ _).mpr ⟨x, value, value'''⟩
  self_iff := by
    intro a
    simp only [f.equals_decode_iff, and_self]
    rw [← Number.value?_eq_none_iff, ← ne_eq, Option.ne_none_iff_exists']

namespace Operand

def float? : Operand → Option (Format × Nat)
  | .immediate (.float32 word) => some (single, word.toNat)
  | .immediate (.float64 word) => some (double, word.toNat)
  | _ => none

def IsNaN (x : Operand) : Prop := ∃ f word, x.float? = some (f, word) ∧ f.decode word = .nan

variable {x y : Operand}

theorem isFloat_eq_isSome_float? (x : Operand) : x.isFloat = x.float?.isSome := by
  cases x with
  | immediate value => cases value <;> rfl
  | _ => rfl

theorem equals_iff_eq (plain : x.float? = none) : x.equals y = true ↔ x = y := by
  have free : x.isFloat = false := by rw [isFloat_eq_isSome_float?, plain, Option.isSome_none]
  constructor
  · exact eq_of_equals free
  · intro same
    rw [← same]
    exact equals_self free

theorem equals_iff_of_float? {f : Format} {a : Nat} (float : x.float? = some (f, a)) :
    x.equals y = true ↔
      ∃ b, y.float? = some (f, b) ∧ (f.decode a).equals (f.decode b) = true := by
  cases x with
  | immediate value =>
    cases value with
    | float32 word =>
      cases float
      cases y with
      | immediate value' => cases value' <;> simp [equals, Immediate.equals, float?, single, double]
      | _ => simp [equals, float?]
    | float64 word =>
      cases float
      cases y with
      | immediate value' => cases value' <;> simp [equals, Immediate.equals, float?, single, double]
      | _ => simp [equals, float?]
    | _ => cases float
  | _ => cases float

theorem partialEquality : PartialEquality equals IsNaN where
  symm := by
    intro x y same
    cases float : x.float? with
    | none =>
      obtain rfl := (equals_iff_eq float).mp same
      exact same
    | some word =>
      obtain ⟨f, a⟩ := word
      obtain ⟨b, float', equal⟩ := (equals_iff_of_float? float).mp same
      exact (equals_iff_of_float? float').mpr ⟨a, float, f.partialEquality.symm equal⟩
  trans := by
    intro x y z first second
    cases float : x.float? with
    | none =>
      rw [(equals_iff_eq float).mp first]
      exact second
    | some word =>
      obtain ⟨f, a⟩ := word
      obtain ⟨b, float', equal⟩ := (equals_iff_of_float? float).mp first
      obtain ⟨c, float'', equal'⟩ := (equals_iff_of_float? float').mp second
      exact (equals_iff_of_float? float).mpr ⟨c, float'', f.partialEquality.trans equal equal'⟩
  self_iff := by
    intro x
    cases float : x.float? with
    | none => simp [equals_iff_eq float, IsNaN, float]
    | some word =>
      obtain ⟨f, a⟩ := word
      have word : (f.decode a).equals (f.decode a) = true ↔ ¬ f.decode a = .nan :=
        f.partialEquality.self_iff
      simp [equals_iff_of_float? float, IsNaN, float, word]

end Operand

def Instruction.HoldsNaN (i : Instruction) : Prop := i.operand.IsNaN

def Body.HoldsNaN (b : Body) : Prop := ∃ i ∈ b, i.HoldsNaN

def Method.HoldsNaN (m : Method) : Prop := m.body.HoldsNaN

theorem Instruction.partialEquality : PartialEquality equals HoldsNaN :=
  Operand.partialEquality.of_part opcode fun i j => by
    rw [equals, Bool.and_eq_true, beq_iff_eq]

theorem Body.equals_iff {a b : Body} :
    a.equals b = true ↔ List.Forall₂ (fun i j => i.equals j = true) a b := by
  induction a generalizing b with
  | nil => cases b <;> simp [equals]
  | cons i a ih =>
    cases b with
    | nil => simp [equals]
    | cons j b => simp [equals, ih]

theorem Body.partialEquality : PartialEquality equals HoldsNaN where
  symm same := by
    rw [equals_iff] at same ⊢
    exact (same.imp fun _ _ equal => Instruction.partialEquality.symm equal).flip
  trans := by
    intro a b c first second
    induction a generalizing b c with
    | nil =>
      cases b with
      | nil => exact second
      | cons j b => cases first
    | cons i a ih =>
      cases b with
      | nil => cases first
      | cons j b =>
        cases c with
        | nil => cases second
        | cons k c =>
          simp only [equals, Bool.and_eq_true] at first second ⊢
          exact ⟨Instruction.partialEquality.trans first.1 second.1, ih first.2 second.2⟩
  self_iff := by
    intro b
    simp only [equals_iff, List.forall₂_same, Instruction.partialEquality.self_iff, HoldsNaN,
      not_exists, not_and]

theorem Method.partialEquality : PartialEquality equals HoldsNaN :=
  Body.partialEquality.of_part (fun m => (m.token, m.name, m.returnType)) fun a b => by
    simp only [equals, Bool.and_eq_true, beq_iff_eq, Prod.mk.injEq, and_assoc]

structure Instruction.ReadsAs (i j : Instruction) : Prop where
  opcode : i.opcode = j.opcode
  field : i.field? = j.field?
  method : i.method? = j.method?
  callTarget : i.callTarget? = j.callTarget?
  literal : i.literal? = j.literal?
  truth : i.truth? = j.truth?

namespace Instruction

theorem ReadsAs.refl (i : Instruction) : i.ReadsAs i := ⟨rfl, rfl, rfl, rfl, rfl, rfl⟩

theorem literal?_of_isFloat {i : Instruction} (float : i.operand.isFloat = true) :
    i.literal? = i.opcode.shortLiteral? := by
  obtain ⟨opcode, operand⟩ := i
  by_cases long : opcode = .ldcI4S ∨ opcode = .ldcI4
  · cases operand with
    | immediate value =>
      cases value with
      | float32 word => rcases long with rfl | rfl <;> rfl
      | float64 word => rcases long with rfl | rfl <;> rfl
      | _ => cases float
    | _ => cases float
  · obtain ⟨notByte, notWord⟩ := not_or.mp long
    exact literal?_of_ne notByte notWord

theorem references_of_isFloat {i : Instruction} (float : i.operand.isFloat = true) :
    i.field? = none ∧ i.method? = none := by
  obtain ⟨opcode, operand⟩ := i
  cases operand with
  | immediate value => exact ⟨rfl, rfl⟩
  | _ => cases float

theorem readsAs_of_isFloat {i j : Instruction} (opcode : i.opcode = j.opcode)
    (float : i.operand.isFloat = true) (float' : j.operand.isFloat = true) : i.ReadsAs j := by
  obtain ⟨field, method⟩ := references_of_isFloat float
  obtain ⟨field', method'⟩ := references_of_isFloat float'
  have literal : i.literal? = j.literal? := by
    rw [literal?_of_isFloat float, literal?_of_isFloat float', opcode]
  exact {
    opcode := opcode
    field := field.trans field'.symm
    method := method.trans method'.symm
    callTarget := by simp [callTarget?, method, method']
    literal := literal
    truth := by rw [truth?, literal, truth?] }

theorem readsAs_of_equals {i j : Instruction} (same : i.equals j = true) : i.ReadsAs j := by
  rw [equals, Bool.and_eq_true, beq_iff_eq] at same
  obtain ⟨opcodes, operands⟩ := same
  cases float : i.operand.float? with
  | none =>
    have operand := (Operand.equals_iff_eq float).mp operands
    obtain rfl : i = j := by
      cases i
      cases j
      simp_all
    exact .refl i
  | some word =>
    obtain ⟨f, a⟩ := word
    obtain ⟨b, float', _⟩ := (Operand.equals_iff_of_float? float).mp operands
    refine readsAs_of_isFloat opcodes ?_ ?_
    · rw [Operand.isFloat_eq_isSome_float?, float, Option.isSome_some]
    · rw [Operand.isFloat_eq_isSome_float?, float', Option.isSome_some]

end Instruction

theorem Instruction.ReadsAs.showsSame {i j : Instruction} (same : i.ReadsAs j) : i.ShowsSame j :=
  ⟨same.opcode, same.callTarget, same.truth, fun _ => same.field⟩

namespace Body
variable {a b : Body}

theorem opcodes_eq_of_readsAs (same : List.Forall₂ Instruction.ReadsAs a b) :
    a.opcodes = b.opcodes := by
  induction same with
  | nil => rfl
  | cons first _ ih => rw [opcodes_cons, opcodes_cons, first.opcode, ih]

theorem callTargets_eq_of_readsAs (same : List.Forall₂ Instruction.ReadsAs a b) :
    a.callTargets = b.callTargets := by
  induction same with
  | nil => rfl
  | cons first _ ih =>
    simp only [callTargets] at ih
    simp only [callTargets, List.filterMap_cons, first.callTarget, ih]

end Body

structure Method.ReadsAs (a b : Method) : Prop where
  token : a.token = b.token
  returnType : a.returnType = b.returnType
  body : List.Forall₂ Instruction.ReadsAs a.body b.body

namespace Method

theorem ReadsAs.refl (m : Method) : m.ReadsAs m :=
  ⟨rfl, rfl, List.forall₂_same.mpr fun i _ => .refl i⟩

theorem readsAs_of_equals {a b : Method} (same : a.equals b = true) : a.ReadsAs b := by
  simp only [equals, Bool.and_eq_true, beq_iff_eq] at same
  obtain ⟨⟨⟨token, _⟩, returnType⟩, body⟩ := same
  exact ⟨token, returnType, (Body.equals_iff.mp body).imp fun _ _ => Instruction.readsAs_of_equals⟩

end Method

def Ledger.Alike (l l' : Ledger) : Prop :=
  ∀ t, (l.method? t = none ∧ l'.method? t = none) ∨
    ∃ m m', l.method? t = some m ∧ l'.method? t = some m' ∧ m.ReadsAs m'

namespace Ledger
variable {l l' : Ledger}

theorem method?_cons (m : Method) (l : Ledger) (t : Token) :
    method? (m :: l) t = if m.token = t then some m else l.method? t := by
  by_cases same : m.token = t <;> simp [method?, same]

theorem alike_of_forall₂ (same : List.Forall₂ Method.ReadsAs l l') : l.Alike l' := by
  intro t
  induction same with
  | nil => exact .inl ⟨rfl, rfl⟩
  | @cons m m' _ _ first _ ih =>
    rw [method?_cons, method?_cons, ← first.token]
    by_cases here : m.token = t
    · exact .inr ⟨m, m', if_pos here, if_pos here, first⟩
    · rw [if_neg here, if_neg here]
      exact ih

theorem alike_cons {a b : Method} (stored : l.method? a.token = some a) (same : a.ReadsAs b) :
    l.Alike (b :: l) := by
  intro t
  rw [method?_cons, ← same.token]
  by_cases here : a.token = t
  · rw [← here, if_pos rfl]
    exact .inr ⟨a, b, stored, rfl, same⟩
  · rw [if_neg here]
    cases found : l.method? t with
    | none => exact .inl ⟨rfl, rfl⟩
    | some m => exact .inr ⟨m, m, rfl, rfl, .refl m⟩

theorem forall₂_store (same : List.Forall₂ Method.ReadsAs l l') (s : MethodGraph.Step) :
    List.Forall₂ Method.ReadsAs (l.store s) (l'.store s) := by
  cases s with
  | insert m => exact .cons (.refl m) same
  | collect ms => exact List.forall₂_same.mpr fun m _ => .refl m
  | _ => exact same

theorem forall₂_foldl_store (same : List.Forall₂ Method.ReadsAs l l')
    (steps : List MethodGraph.Step) :
    List.Forall₂ Method.ReadsAs (steps.foldl store l) (steps.foldl store l') := by
  induction steps generalizing l l' with
  | nil => exact same
  | cons s rest ih => exact ih (forall₂_store same s)

namespace Alike

theorem body? (alike : l.Alike l') (t : Token) :
    (l.source.body? t).map Body.opcodes = (l'.source.body? t).map Body.opcodes ∧
      List.Forall₂ Instruction.ReadsAs
        ((l.source.body? t).getD []) ((l'.source.body? t).getD []) := by
  rcases alike t with ⟨absent, absent'⟩ | ⟨m, m', found, found', same⟩
  · simp [source, absent, absent']
  · simp only [source, found, found', Option.map_some, Option.getD_some]
    exact ⟨congrArg some (Body.opcodes_eq_of_readsAs same.body), same.body⟩

theorem callees (alike : l.Alike l') (t : Token) : l.source.callees t = l'.source.callees t := by
  rcases alike t with ⟨absent, absent'⟩ | ⟨m, m', found, found', same⟩
  · simp only [source, absent, absent']
  · simp only [source, found, found', Option.map_some, Option.getD_some, Body.callees,
      Body.callTargets_eq_of_readsAs same.body]

theorem returnType? (alike : l.Alike l') (t : Token) :
    l.source.returnType? t = l'.source.returnType? t := by
  rcases alike t with ⟨absent, absent'⟩ | ⟨m, m', found, found', same⟩
  · simp only [source, absent, absent']
  · simp only [source, found, found', Option.map_some, same.returnType]

theorem looksLike (alike : l.Alike l') (argumentsField : Token) (virtualCode : Int32)
    (handler : Token) :
    VirtualInstruction.LooksLike ⟨l.context argumentsField, virtualCode, handler⟩
      ⟨l'.context argumentsField, virtualCode, handler⟩ where
  argumentsField := rfl
  body := (alike.body? handler).2.imp fun _ _ same => same.showsSame
  callees t := by
    have same := alike.callees handler
    exact iff_of_eq (congrArg (t ∈ ·) same)
  bodies t _ := (alike.body? t).1
  returnTypes t _ := alike.returnType? t

end Alike
end Ledger

namespace MethodGraph

structure RecoversAlike (g g' : MethodGraph) : Prop where
  callees : ∀ t, g.callees t = g'.callees t
  known : ∀ t, (g.body? t).isSome = (g'.body? t).isSome
  accepts : ∀ argumentsField virtualCode handler (s : Shape),
    s.accepts ⟨g.context argumentsField, virtualCode, handler⟩ =
      s.accepts ⟨g'.context argumentsField, virtualCode, handler⟩
  verdicts : ∀ argumentsField virtualCode handler, ∀ r ∈ catalog,
    r.accepts ⟨g.context argumentsField, virtualCode, handler⟩ =
      r.accepts ⟨g'.context argumentsField, virtualCode, handler⟩
  recovered : ∀ argumentsField virtualCode handler (p : Policy),
    p.candidates ⟨g.context argumentsField, virtualCode, handler⟩ =
        p.candidates ⟨g'.context argumentsField, virtualCode, handler⟩ ∧
      p.recover? ⟨g.context argumentsField, virtualCode, handler⟩ =
        p.recover? ⟨g'.context argumentsField, virtualCode, handler⟩

theorem RecoversAlike.of_alike {g g' : MethodGraph} {l l' : Ledger} (represents : g.Represents l)
    (represents' : g'.Represents l') (alike : l.Alike l') : g.RecoversAlike g' := by
  have accepts : ∀ argumentsField virtualCode handler (s : Shape),
      s.accepts ⟨g.context argumentsField, virtualCode, handler⟩ =
        s.accepts ⟨g'.context argumentsField, virtualCode, handler⟩ := by
    intro argumentsField virtualCode handler s
    rw [represents.context, represents'.context]
    exact (alike.looksLike argumentsField virtualCode handler).accepts_eq s
  have source : ∀ t, g.callees t = l.source.callees t ∧ g.body? t = l.source.body? t := by
    intro t
    rw [← represents.source]
    exact ⟨rfl, rfl⟩
  have source' : ∀ t, g'.callees t = l'.source.callees t ∧ g'.body? t = l'.source.body? t := by
    intro t
    rw [← represents'.source]
    exact ⟨rfl, rfl⟩
  refine ⟨?_, ?_, accepts, ?_, ?_⟩
  · intro t
    rw [(source t).1, (source' t).1, alike.callees t]
  · intro t
    rw [(source t).2, (source' t).2, ← Option.isSome_map (f := Body.opcodes), (alike.body? t).1,
      Option.isSome_map]
  · exact fun argumentsField virtualCode handler r _ =>
      accepts argumentsField virtualCode handler r.shape
  · intro argumentsField virtualCode handler p
    have verdicts :
        (fun r : Recognizer => r.accepts ⟨g.context argumentsField, virtualCode, handler⟩) =
          fun r => r.accepts ⟨g'.context argumentsField, virtualCode, handler⟩ :=
      funext fun r => accepts argumentsField virtualCode handler r.shape
    exact ⟨by rw [Policy.candidates, verdicts, Policy.candidates],
      by rw [Policy.recover?_eq_find?, verdicts, Policy.recover?_eq_find?]⟩

/-- Equality is an equivalence on what holds nothing but numbers, and constants are compared by
    their values. Equal methods are read alike; and it makes no difference to what is recovered
    whether a stored method is replaced by an equal one, or an equal one was inserted in its place
    at any time before. -/
theorem equality_respected :
    PartialEquality Instruction.equals Instruction.HoldsNaN ∧
    PartialEquality Body.equals Body.HoldsNaN ∧
    PartialEquality Method.equals Method.HoldsNaN ∧
    (∀ a b : UInt32, (Immediate.float32 a).equals (.float32 b) = true ↔
      ∃ x, (single.decode a.toNat).value? = some x ∧ (single.decode b.toNat).value? = some x) ∧
    (∀ a b : UInt64, (Immediate.float64 a).equals (.float64 b) = true ↔
      ∃ x, (double.decode a.toNat).value? = some x ∧ (double.decode b.toNat).value? = some x) ∧
    ∀ a b : Method, a.equals b = true →
      a.ReadsAs b ∧ a.body.opcodes = b.body.opcodes ∧
      (∀ steps, (empty.after steps).method? a.token = some a →
        (empty.after steps).RecoversAlike ((empty.after steps).insert b)) ∧
      ∀ steps later,
        (empty.after (steps ++ .insert a :: later)).RecoversAlike
          (empty.after (steps ++ .insert b :: later)) := by
  refine ⟨Instruction.partialEquality, Body.partialEquality, Method.partialEquality,
    fun a b => single.equals_decode_iff a.toNat b.toNat,
    fun a b => double.equals_decode_iff a.toNat b.toNat, ?_⟩
  intro a b same
  have read := Method.readsAs_of_equals same
  refine ⟨read, Body.opcodes_eq_of_readsAs read.body, ?_, ?_⟩
  · intro steps stored
    have now := Represents.empty.after steps
    rw [now.methods] at stored
    exact .of_alike now (now.insert b) (Ledger.alike_cons stored read)
  · intro steps later
    refine .of_alike (Represents.empty.after _) (Represents.empty.after _) ?_
    rw [List.foldl_append, List.foldl_append]
    refine Ledger.alike_of_forall₂ (Ledger.forall₂_foldl_store ?_ later)
    exact .cons read (List.forall₂_same.mpr fun m _ => .refl m)

/-- A division helper that ends in a constant which nobody reads. -/
def divider (word : UInt64) : Method :=
  ⟨.methodDef 16, "Helper", "System.Void",
    (Generated.divHelper.map fun c => ⟨c, .absent⟩) ++ [⟨.ldcR8, .immediate (.float64 word)⟩]⟩

def dividingHandler : Method :=
  ⟨.methodDef 1, "Handler", "System.Void",
    [⟨.ldcI4_0, .absent⟩, ⟨.call, .methodRef (.methodDef 16)⟩, ⟨.ret, .absent⟩]⟩

/-- Zero and negative zero are different words; a word that is no number is not even equal to
    itself. -/
theorem zeros_respected :
    let zero := divider 0
    let negative := divider 0x8000000000000000
    let before := empty.after [.insert dividingHandler, .insert zero]
    let asked := fun helper =>
      empty.after ([.insert dividingHandler] ++ .insert helper :: [.callees (.methodDef 1)])
    zero ≠ negative ∧ zero.equals negative = true ∧
    zero.body.opcodes = negative.body.opcodes ∧
    before.method? zero.token = some zero ∧ before.RecoversAlike (before.insert negative) ∧
    (asked zero).RecoversAlike (asked negative) ∧
    Policy.standard.recover? ⟨before.context (.field 1), 7, .methodDef 1⟩ = some .div ∧
    Policy.standard.recover? ⟨(before.insert negative).context (.field 1), 7, .methodDef 1⟩ =
      some .div ∧
    ¬ (divider 0x7ff8000000000000).equals (divider 0x7ff8000000000000) = true := by
  intro zero negative before asked
  obtain ⟨_, _, methods, _, _, respected⟩ := equality_respected
  have same : zero.equals negative = true := by decide +kernel
  obtain ⟨_, opcodes, replaced, earlier⟩ := respected zero negative same
  have now := Represents.empty.after [.insert dividingHandler, .insert zero]
  have stored : before.method? zero.token = some zero := by
    rw [now.methods]
    decide
  have alike := replaced [.insert dividingHandler, .insert zero] stored
  have recovered : Policy.standard.recover? ⟨before.context (.field 1), 7, .methodDef 1⟩ =
      some .div := by
    rw [now.context]
    decide
  have noNumber : (divider 0x7ff8000000000000).HoldsNaN :=
    ⟨⟨.ldcR8, .immediate (.float64 0x7ff8000000000000)⟩, by simp [divider], double,
      0x7ff8000000000000, rfl, by decide +kernel⟩
  exact ⟨by decide, same, opcodes, stored, alike, earlier _ _, recovered,
    (alike.recovered _ _ _ _).2.symm.trans recovered,
    fun equal => methods.self_iff.mp equal noNumber⟩

end MethodGraph
end OpcodeRecovery
