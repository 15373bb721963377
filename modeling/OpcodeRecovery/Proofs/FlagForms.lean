import Mathlib.Logic.Relation
import OpcodeRecovery.Proofs.Ambiguity
import OpcodeRecovery.Proofs.GraphHistory
import OpcodeRecovery.Proofs.Imitation
import OpcodeRecovery.Proofs.Literals

/-!
Flags in another form. A truth value that is passed to a call may be pushed by any instruction that
pushes it, and the call passes what it passed before. But the opcodes of the body are others then,
and a handler that calls itself is searched for the helper like every other callee: there the form
of a flag may show, unless the helper passes no flags itself. The helpers of the catalog pass none.
-/
namespace OpcodeRecovery

/-- One of the truth values passed to a call is pushed in another form. Those pushed behind it, up
    to the call, are passed as well. -/
inductive Body.RewritesFlag : Body → Body → Prop where
  | flag (before flags after : Body) {i j call : Instruction} {b : Bool} {t : Token}
      (pushes : i.PushesTruth b) (pushes' : j.PushesTruth b)
      (passed : ∀ k ∈ flags, ∃ b, k.PushesTruth b) (calls : call.callTarget? = some t) :
      RewritesFlag (before ++ i :: (flags ++ call :: after))
        (before ++ j :: (flags ++ call :: after))

/-- The body of the handler is rewritten flag by flag, and no other body is. -/
structure VirtualInstruction.RewritesFlags (v w : VirtualInstruction) : Prop where
  handler : w.handler = v.handler
  body : Relation.ReflTransGen Body.RewritesFlag v.body w.body
  others : ∀ t, t ≠ v.handler → w.context.methods.body? t = v.context.methods.body? t

theorem Instruction.PushesTruth.passing_eq {i : Instruction} {b : Bool} (pushes : i.PushesTruth b) :
    i.passing = (none, some b) := by
  have target : i.callTarget? = none := by
    cases pushes with
    | short b operand => cases b <;> rfl
    | byte denotes => rfl
    | word denotes => rfl
  rw [passing, target, truth?_eq_some_iff_pushesTruth.mpr pushes]

namespace Body
variable {b b' : Body}

theorem RewritesFlag.map_passing (rewrites : b.RewritesFlag b') :
    b.map Instruction.passing = b'.map Instruction.passing := by
  obtain ⟨before, flags, after, pushes, pushes', _, _⟩ := rewrites
  rw [List.map_append, List.map_append, List.map_cons, List.map_cons, pushes.passing_eq,
    pushes'.passing_eq]

theorem map_passing_of_rewrites (rewrites : Relation.ReflTransGen RewritesFlag b b') :
    b.map Instruction.passing = b'.map Instruction.passing := by
  induction rewrites with
  | refl => rfl
  | tail _ last ih => exact ih.trans last.map_passing

theorem passesTo_iff {flags : List Bool} {t : Token}
    (same : b.map Instruction.passing = b'.map Instruction.passing) :
    b.PassesTo flags t ↔ b'.PassesTo flags t := by
  have unnamed :
      (fun i : Instruction => (i.callTarget?.map id, i.truth?)) = Instruction.passing := by
    funext i
    rw [Option.map_id, id, Instruction.passing]
  refine ⟨fun passes => passes.rename (r := id) ?_, fun passes => passes.rename (r := id) ?_⟩
  · rw [unnamed, same]
  · rw [unnamed, same]

end Body

theorem VirtualInstruction.flaggedCallContains_congr {v w : VirtualInstruction} {p : Pattern}
    {flags : List Bool} (same : v.body.map Instruction.passing = w.body.map Instruction.passing)
    (contains : ∀ t ∈ v.body.callTargets,
      v.context.methods.bodyContains p t = w.context.methods.bodyContains p t) :
    v.flaggedCallContains p flags = w.flaggedCallContains p flags := by
  rw [Bool.eq_iff_iff, flaggedCallContains_iff, flaggedCallContains_iff]
  refine and_congr_right fun nonempty => exists_congr fun t => ?_
  rw [Body.passesTo_iff same]
  refine and_congr_right fun passes => ?_
  have called := Body.mem_callTargets_of_passesTo ((Body.passesTo_iff same).mpr passes)
  have held := Bool.eq_iff_iff.mp (contains t called)
  rw [MethodSource.bodyContains_iff, MethodSource.bodyContains_iff] at held
  exact (and_iff_right nonempty).symm.trans (held.trans (and_iff_right nonempty))

/-! ## Patterns in which no flag is passed -/

def Opcode.mayPushFlag (c : Opcode) : Bool := c.mayPush false || c.mayPush true

def Opcode.followsFlag (c : Opcode) : Bool := c.mayPushFlag || c.isCall

/-- Behind whatever could push a flag stands an opcode that shows that it was none. -/
def Pattern.passesNothing : Pattern → Bool
  | [] => true
  | c :: cs => (!c.mayPushFlag || cs.head?.any fun d => !d.followsFlag) && passesNothing cs

namespace Pattern
variable {p before rest : Pattern} {c c' d : Opcode}

theorem not_prefix_of_flag (nothing : passesNothing (c :: p) = true) (pushes : c.mayPushFlag = true)
    (follows : d.followsFlag = true) : ¬ p <+: d :: rest := by
  intro start
  cases p with
  | nil => simp [passesNothing, pushes] at nothing
  | cons e p =>
    obtain ⟨rfl, _⟩ := List.cons_prefix_cons.mp start
    simp [passesNothing, pushes, follows] at nothing

theorem prefix_of_flag_replaced (before : Pattern) (nothing : p.passesNothing = true)
    (pushes : c.mayPushFlag = true) (follows : d.followsFlag = true)
    (start : p <+: before ++ c :: d :: rest) : p <+: before ++ c' :: d :: rest := by
  induction before generalizing p with
  | nil =>
    rcases List.prefix_cons_iff.mp start with rfl | ⟨q, rfl, behind⟩
    · exact List.nil_prefix
    · exact absurd behind (not_prefix_of_flag nothing pushes follows)
  | cons e before ih =>
    rcases List.prefix_cons_iff.mp start with rfl | ⟨q, rfl, behind⟩
    · exact List.nil_prefix
    · simp only [passesNothing, Bool.and_eq_true] at nothing
      exact List.cons_prefix_cons.mpr ⟨rfl, ih nothing.2 behind⟩

theorem infix_of_flag_replaced (nothing : p.passesNothing = true) (pushes : c.mayPushFlag = true)
    (follows : d.followsFlag = true) (window : p <:+: before ++ c :: d :: rest) :
    p <:+: before ++ c' :: d :: rest := by
  induction before with
  | nil =>
    rcases List.infix_cons_iff.mp window with start | later
    · exact (prefix_of_flag_replaced [] nothing pushes follows start).isInfix
    · exact List.infix_cons_iff.mpr (.inr later)
  | cons e before ih =>
    rcases List.infix_cons_iff.mp window with start | later
    · exact (prefix_of_flag_replaced (e :: before) nothing pushes follows start).isInfix
    · exact List.infix_cons_iff.mpr (.inr (ih later))

end Pattern

theorem Instruction.PushesTruth.mayPushFlag {i : Instruction} {b : Bool}
    (pushes : i.PushesTruth b) : i.opcode.mayPushFlag = true := by
  have may := mayPush_of_truth? (truth?_eq_some_iff_pushesTruth.mpr pushes)
  cases b <;> simp [Opcode.mayPushFlag, may]

namespace Body
variable {b b' : Body} {p : Pattern}

theorem exists_followsFlag {flags : Body} {call : Instruction} {t : Token}
    (passed : ∀ k ∈ flags, ∃ b, k.PushesTruth b) (calls : call.callTarget? = some t)
    (after : Body) :
    ∃ d rest, opcodes (flags ++ call :: after) = d :: rest ∧ d.followsFlag = true := by
  cases flags with
  | nil =>
    have called : call.opcode.isCall = true := Instruction.isCall_of_callTarget? calls
    exact ⟨call.opcode, after.opcodes, rfl, by rw [Opcode.followsFlag, called, Bool.or_true]⟩
  | cons k flags =>
    obtain ⟨_, pushes⟩ := passed k List.mem_cons_self
    exact ⟨k.opcode, opcodes (flags ++ call :: after), rfl, by
      rw [Opcode.followsFlag, pushes.mayPushFlag, Bool.true_or]⟩

theorem contains_iff_infix : b.contains p = true ↔ p ≠ [] ∧ p <:+: b.opcodes := by
  rw [contains_iff, Pattern.infix_opcodes_iff]

theorem RewritesFlag.contains_eq (nothing : p.passesNothing = true) (rewrites : b.RewritesFlag b') :
    b.contains p = b'.contains p := by
  obtain ⟨before, flags, after, pushes, pushes', passed, calls⟩ := rewrites
  obtain ⟨d, rest, next, follows⟩ := exists_followsFlag passed calls after
  rw [Bool.eq_iff_iff, contains_iff_infix, contains_iff_infix]
  simp only [opcodes_append, opcodes_cons] at next ⊢
  rw [next]
  exact and_congr_right fun _ =>
    ⟨Pattern.infix_of_flag_replaced nothing pushes.mayPushFlag follows,
      Pattern.infix_of_flag_replaced nothing pushes'.mayPushFlag follows⟩

theorem contains_eq_of_rewrites (nothing : p.passesNothing = true)
    (rewrites : Relation.ReflTransGen RewritesFlag b b') : b.contains p = b'.contains p := by
  induction rewrites with
  | refl => rfl
  | tail _ last ih => exact ih.trans (last.contains_eq nothing)

end Body

def Shape.flaggedHelper? : Shape → Option Pattern
  | .discriminated helper _ => some helper
  | _ => none

theorem passesNothing_of_mem_catalog :
    ∀ r ∈ catalog, ∀ p ∈ r.shape.flaggedHelper?, Pattern.passesNothing p = true := by
  decide

namespace VirtualInstruction

theorem bodyContains_handler (v : VirtualInstruction) (p : Pattern) :
    v.context.methods.bodyContains p v.handler = v.body.contains p := by
  rw [MethodSource.bodyContains, body]
  cases v.context.methods.body? v.handler with
  | some b => rfl
  | none => cases p <;> rfl

namespace RewritesFlags
variable {v w : VirtualInstruction}

theorem accepts_eq (rewrites : v.RewritesFlags w) {helper : Pattern} {flags : List Bool}
    (recursive : v.handler ∈ v.body.callTargets → v.body.contains helper = w.body.contains helper) :
    (Shape.discriminated helper flags).accepts v =
      (Shape.discriminated helper flags).accepts w := by
  refine flaggedCallContains_congr (Body.map_passing_of_rewrites rewrites.body) ?_
  intro t called
  by_cases own : t = v.handler
  · subst own
    rw [bodyContains_handler, ← rewrites.handler, bodyContains_handler]
    exact recursive called
  · rw [MethodSource.bodyContains, MethodSource.bodyContains, rewrites.others t own]

end RewritesFlags
end VirtualInstruction

namespace MethodGraph
variable {g : MethodGraph} {m m' : Method}

theorem method?_insert (g : MethodGraph) (m : Method) (t : Token) :
    (g.insert m).method? t = if m.token = t then some m else g.method? t := by
  simp [method?, insert, Std.HashMap.getElem?_insert]

theorem rewritesFlags_insert (stored : g.method? m.token = some m) (token : m'.token = m.token)
    (rewrites : Relation.ReflTransGen Body.RewritesFlag m.body m'.body) (argumentsField : Token)
    (virtualCode : Int32) :
    VirtualInstruction.RewritesFlags ⟨g.context argumentsField, virtualCode, m.token⟩
      ⟨(g.insert m').context argumentsField, virtualCode, m.token⟩ where
  handler := rfl
  body := by
    have known : g.body? m.token = some m.body := by rw [body?, stored, Option.map_some]
    have known' : (g.insert m').body? m.token = some m'.body := by
      rw [body?, method?_insert, if_pos token, Option.map_some]
    rw [VirtualInstruction.body_of_known known, VirtualInstruction.body_of_known known']
    exact rewrites
  others t other := by
    have elsewhere : m'.token ≠ t := fun same => other (same.symm.trans token)
    have unchanged : (g.insert m').body? t = g.body? t := by
      rw [body?, method?_insert, if_neg elsewhere, body?]
    exact unchanged

end MethodGraph

/-- Literals have exact values, and the truth values are those of one and zero. The form in which a
    flag is pushed makes no difference to what is told by flags, except that the body of a handler
    that calls itself may contain the helper in one form and not in the other; no helper of the
    catalog makes even that difference. -/
theorem flags_in_any_form :
    (∀ (i : Instruction) (n : Int), i.literal?.map Int32.toInt = some n ↔
      (i.opcode, n) ∈ Opcode.shortForms ∨
        (i.opcode = .ldcI4S ∨ i.opcode = .ldcI4) ∧
          ∃ value, i.operand = .immediate value ∧ value.Denotes n ∧ -2 ^ 31 ≤ n ∧ n < 2 ^ 31) ∧
    (∀ (i : Instruction) (b : Bool),
      (i.truth? = some b ↔ i.literal?.map Int32.toInt = some (if b then 1 else 0)) ∧
      (i.truth? = some b ↔ i.PushesTruth b)) ∧
    ∀ v w : VirtualInstruction, v.RewritesFlags w →
      (∀ (helper : Pattern) (flags : List Bool),
        (v.handler ∈ v.body.callTargets → v.body.contains helper = w.body.contains helper) →
        (Shape.discriminated helper flags).accepts v =
          (Shape.discriminated helper flags).accepts w) ∧
      ∀ r ∈ catalog, ∀ helper flags, r.shape = .discriminated helper flags →
        r.accepts v = r.accepts w := by
  refine ⟨fun i n => Instruction.literal?_eq_some_iff, ?_, ?_⟩
  · exact fun i b =>
      ⟨Instruction.truth?_eq_some_iff_literal?, Instruction.truth?_eq_some_iff_pushesTruth⟩
  · intro v w rewrites
    refine ⟨fun helper flags => rewrites.accepts_eq, ?_⟩
    intro r recognizer helper flags told
    have nothing := passesNothing_of_mem_catalog r recognizer helper (by rw [told]; rfl)
    rw [Recognizer.accepts, Recognizer.accepts, told]
    exact rewrites.accepts_eq fun _ => Body.contains_eq_of_rewrites nothing rewrites.body

def passingMethod (push : Instruction) (callee : Token) : Method :=
  ⟨.methodDef 1, "Handler", "System.Void",
    [push, ⟨.call, .methodRef callee⟩, ⟨.ret, .absent⟩]⟩

theorem rewritesFlag_passingMethod {push push' : Instruction} {b : Bool}
    (pushes : push.PushesTruth b) (pushes' : push'.PushesTruth b) {callee : Token}
    (method : callee.isMethodLike = true) :
    (passingMethod push callee).body.RewritesFlag (passingMethod push' callee).body := by
  have calls : Instruction.callTarget? ⟨.call, .methodRef callee⟩ = some callee := by
    simp [Instruction.callTarget?, Instruction.isCall, Opcode.isCall, Instruction.method?, method]
  exact .flag [] [] [⟨.ret, .absent⟩] pushes pushes' (List.forall_mem_nil _) calls

/-- An unsigned division in two forms. What does not fit into 32 bits is no literal, and a short
    form is read whatever its operand. -/
theorem division_in_two_forms :
    let short := passingMethod ⟨.ldcI4_1, .immediate (.int32 7)⟩ (.methodDef 16)
    let full := passingMethod ⟨.ldcI4S, .immediate (.int64 1)⟩ (.methodDef 16)
    let helper : Method := ⟨.methodDef 16, "Helper", "System.Void",
      Generated.divHelper.map fun c => ⟨c, .absent⟩⟩
    let g := (MethodGraph.empty.insert helper).insert short
    let v : VirtualInstruction := ⟨g.context (.field 1), 7, .methodDef 1⟩
    let w : VirtualInstruction := ⟨(g.insert full).context (.field 1), 7, .methodDef 1⟩
    v.RewritesFlags w ∧ v.handler ∉ v.body.callTargets ∧
    (Shape.discriminated Generated.divHelper [true]).accepts v = true ∧
    (Shape.discriminated Generated.divHelper [true]).accepts w = true ∧
    (∀ r ∈ catalog, r.opcode = .div ∨ r.opcode = .divUn → r.accepts v = r.accepts w) ∧
    Instruction.literal? ⟨.ldcI4, .immediate (.int64 0x100000000)⟩ = none ∧
    Instruction.literal? ⟨.ldcI4, .immediate (.int64 0x100000001)⟩ = none := by
  intro short full helper g v w
  obtain ⟨_, _, unchanged⟩ := flags_in_any_form
  have world := (MethodGraph.Represents.empty.insert helper).insert short
  have stored : g.method? short.token = some short := by rw [MethodGraph.method?_insert, if_pos rfl]
  have one : Immediate.Denotes (.int64 1) (if true then 1 else 0) := .int64 1
  have rewrites : short.body.RewritesFlag full.body :=
    rewritesFlag_passingMethod (.short true _) (.byte one) (by decide)
  have token : full.token = short.token := rfl
  have alike : v.RewritesFlags w :=
    MethodGraph.rewritesFlags_insert stored token (.single rewrites) _ _
  obtain ⟨verdicts, recognizers⟩ := unchanged v w alike
  have elsewhere : v.handler ∉ v.body.callTargets := by
    simp only [v]
    rw [world.context]
    decide
  have divides : (Shape.discriminated Generated.divHelper [true]).accepts v = true := by
    simp only [v]
    rw [world.context]
    decide
  have same := verdicts Generated.divHelper [true] fun called => absurd called elsewhere
  refine ⟨alike, elsewhere, divides, same.symm.trans divides, ?_, rfl, rfl⟩
  intro r recognizer named
  have told : ∀ r ∈ catalog, r.opcode = .div ∨ r.opcode = .divUn →
      ∃ flags ∈ [[false], [true]], r.shape = .discriminated Generated.divHelper flags := by
    decide
  obtain ⟨flags, _, shape⟩ := told r recognizer named
  exact recognizers r recognizer Generated.divHelper flags shape

/-- A handler that passes itself a flag: the helper is found in one form and not in the other. -/
theorem form_shown_by_recursion :
    let short := passingMethod ⟨.ldcI4_0, .absent⟩ (.methodDef 1)
    let full := passingMethod ⟨.ldcI4, .immediate (.int32 0)⟩ (.methodDef 1)
    let g := MethodGraph.empty.insert short
    let v : VirtualInstruction := ⟨g.context (.field 1), 1, .methodDef 1⟩
    let w : VirtualInstruction := ⟨(g.insert full).context (.field 1), 1, .methodDef 1⟩
    v.RewritesFlags w ∧ (Shape.discriminated [.ldcI4_0, .call] [false]).accepts v = true ∧
      (Shape.discriminated [.ldcI4_0, .call] [false]).accepts w = false := by
  intro short full g v w
  have world := MethodGraph.Represents.empty.insert short
  have stored : g.method? short.token = some short := by rw [MethodGraph.method?_insert, if_pos rfl]
  have rewrites : short.body.RewritesFlag full.body :=
    rewritesFlag_passingMethod (.short false .absent) (.word (.int32 0)) (by decide)
  have token : full.token = short.token := rfl
  refine ⟨MethodGraph.rewritesFlags_insert stored token (.single rewrites) _ _, ?_, ?_⟩
  · simp only [v]
    rw [world.context]
    decide
  · simp only [w]
    rw [(world.insert full).context]
    decide

end OpcodeRecovery
