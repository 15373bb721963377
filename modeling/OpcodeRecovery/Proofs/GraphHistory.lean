import Mathlib.Data.Finset.Card
import OpcodeRecovery.Method.History
import OpcodeRecovery.Proofs.Batches

/-!
A method graph remembers callees, and nobody can tell. Beside it stands a ledger, the plain list of
the methods inserted, which remembers nothing: graph and ledger answer every history alike. What
carries this is that remembered callees are those of the body that is stored now.
-/
namespace OpcodeRecovery

/-- The methods inserted since the last collection, the latest first. -/
abbrev Ledger := List Method

namespace Ledger

def method? (l : Ledger) (t : Token) : Option Method := l.find? fun m => m.token == t

def size (l : Ledger) : Nat := (l.map Method.token).toFinset.card

def source (l : Ledger) : MethodSource where
  body? t := (l.method? t).map Method.body
  returnType? t := (l.method? t).map Method.returnType
  callees t := ((l.method? t).map fun m => m.body.callees).getD []

def context (l : Ledger) (argumentsField : Token) : Context := ⟨l.source, argumentsField⟩

def ask (v : VirtualInstruction) : MethodGraph.Question → MethodGraph.Answer
  | .callees => .callees v.callees
  | .accepts s => .truth (s.accepts v)
  | .candidates p => .candidates (p.candidates v)
  | .recover p => .verdict (p.recover? v)

def answer (l : Ledger) : MethodGraph.Step → MethodGraph.Answer
  | .insert m => .method (l.method? m.token)
  | .collect _ => .none
  | .method t => .method (l.method? t)
  | .contains t => .truth (l.method? t).isSome
  | .body t => .body (l.source.body? t)
  | .returnType t => .returnType (l.source.returnType? t)
  | .callees t => .callees (l.source.callees t)
  | .size => .size l.size
  | .isEmpty => .truth (l.size == 0)
  | .instructions argumentsField wanted =>
    match (l.context argumentsField).instructions wanted with
    | .ok vs => .instructions vs
    | .error e => .failure e
  | .ask argumentsField virtualCode handler q =>
    match (l.context argumentsField).instruction virtualCode handler with
    | .ok v => ask v q
    | .error e => .failure e
  | .recoverAll argumentsField p wanted =>
    match (l.context argumentsField).instructions wanted with
    | .ok vs => .report (p.recoverAll vs)
    | .error e => .failure e

def store (l : Ledger) : MethodGraph.Step → Ledger
  | .insert m => m :: l
  | .collect ms => ms.reverse
  | _ => l

def answers (l : Ledger) : List MethodGraph.Step → List MethodGraph.Answer
  | [] => []
  | s :: rest => l.answer s :: answers (l.store s) rest

theorem token_of_method? {l : Ledger} {t : Token} {m : Method} (found : l.method? t = some m) :
    m.token = t := by
  have test := List.find?_some found
  simpa using test

theorem mem_tokens_iff {l : Ledger} {t : Token} :
    t ∈ l.map Method.token ↔ (l.method? t).isSome = true := by
  simp [method?, List.find?_isSome]

theorem size_congr {l l' : Ledger} (same : ∀ t, l'.method? t = l.method? t) :
    l'.size = l.size := by
  have tokens : (l'.map Method.token).toFinset = (l.map Method.token).toFinset := by
    ext t
    rw [List.mem_toFinset, List.mem_toFinset, mem_tokens_iff, mem_tokens_iff, same t]
  rw [size, size, tokens]

theorem store_of_reads (l : Ledger) {s : MethodGraph.Step} (reads : s.stores = false) :
    l.store s = l := by
  cases s <;> first | rfl | cases reads

theorem foldl_store_filter (l : Ledger) (steps : List MethodGraph.Step) :
    (steps.filter MethodGraph.Step.stores).foldl store l = steps.foldl store l := by
  induction steps generalizing l with
  | nil => rfl
  | cons s rest ih =>
    cases stores : s.stores with
    | true => simp only [List.filter_cons, stores, ↓reduceIte, List.foldl_cons, ih]
    | false =>
      simp only [List.filter_cons, stores, Bool.false_eq_true, ↓reduceIte, List.foldl_cons,
        store_of_reads l stores, ih]

end Ledger

namespace MethodGraph

/-- The second graph stores the same methods and answers alike for callees; it may remember other
    callees than the first. -/
structure Remembers (g g' : MethodGraph) : Prop where
  methods : g'.methods = g.methods
  callees : ∀ t, g'.callees t = g.callees t
  consistent : g.Consistent → g'.Consistent

namespace Remembers
variable {g g' g'' : MethodGraph}

theorem refl (g : MethodGraph) : g.Remembers g := ⟨rfl, fun _ => rfl, id⟩

theorem trans (first : g.Remembers g') (second : g'.Remembers g'') : g.Remembers g'' where
  methods := second.methods.trans first.methods
  callees t := (second.callees t).trans (first.callees t)
  consistent h := second.consistent (first.consistent h)

theorem source (remembers : g.Remembers g') : g'.source = g.source := by
  have bodies : g'.body? = g.body? := by
    funext t
    simp only [body?, method?, remembers.methods]
  have returnTypes : g'.returnType? = g.returnType? := by
    funext t
    simp only [returnType?, method?, remembers.methods]
  have callees : g'.callees = g.callees := funext remembers.callees
  simp only [MethodGraph.source, bodies, returnTypes, callees]

end Remembers

theorem remembers_remember (g : MethodGraph) (t : Token) : g.Remembers (g.remember t) where
  methods := by
    unfold remember
    split <;> rfl
  callees u := by
    unfold remember
    split
    · by_cases same : t = u
      · subst same
        simp [callees]
      · simp [callees, body?, method?, Std.HashMap.getElem?_insert, same]
    · rfl
  consistent h := consistent_remember h t

def Current (g : MethodGraph) (v : VirtualInstruction) : Prop :=
  v.context.methods = g.source

theorem reread_of_current {g : MethodGraph} {v : VirtualInstruction} (current : g.Current v) :
    g.reread v = v := by
  obtain ⟨⟨methods, argumentsField⟩, virtualCode, handler⟩ := v
  simp only [Current] at current
  simp [reread, VirtualInstruction.inContext, context, current]

theorem Remembers.current {g g' : MethodGraph} (remembers : g.Remembers g')
    {v : VirtualInstruction} (current : g.Current v) : g'.Current v := by
  rw [Current, remembers.source]
  exact current

theorem judge_fst {g : MethodGraph} {v : VirtualInstruction} (current : g.Current v) (s : Shape) :
    (g.judge v s).1 = s.accepts v := by
  rw [judge, reread_of_current current]

theorem remembers_judge (g : MethodGraph) (v : VirtualInstruction) (s : Shape) :
    g.Remembers (g.judge v s).2 := by
  simp only [judge]
  split
  · exact remembers_remember g v.handler
  · exact .refl g

theorem remembers_judgeUntil (g : MethodGraph) (v : VirtualInstruction) (rs : List Recognizer) :
    g.Remembers (g.judgeUntil v rs).2 := by
  induction rs generalizing g with
  | nil => exact .refl g
  | cons r rest ih =>
    have first := g.remembers_judge v r.shape
    simp only [judgeUntil]
    split
    · exact first
    · exact first.trans (ih _)

theorem judgeUntil_fst {g : MethodGraph} {v : VirtualInstruction} (current : g.Current v)
    (rs : List Recognizer) :
    (g.judgeUntil v rs).1 = (rs.find? fun r => r.accepts v).map Recognizer.opcode := by
  induction rs generalizing g with
  | nil => rfl
  | cons r rest ih =>
    have verdict : (g.judge v r.shape).1 = r.accepts v := judge_fst current r.shape
    have later := ih ((g.remembers_judge v r.shape).current current)
    simp only [judgeUntil, verdict]
    cases accepted : r.accepts v with
    | true => simp [accepted]
    | false => simp [accepted, later]

theorem remembers_judgeAll (g : MethodGraph) (v : VirtualInstruction) (rs : List Recognizer) :
    g.Remembers (g.judgeAll v rs).2 := by
  induction rs generalizing g with
  | nil => exact .refl g
  | cons r rest ih => exact (g.remembers_judge v r.shape).trans (ih _)

theorem judgeAll_fst {g : MethodGraph} {v : VirtualInstruction} (current : g.Current v)
    (rs : List Recognizer) :
    (g.judgeAll v rs).1 = (rs.filter fun r => r.accepts v).map Recognizer.opcode := by
  induction rs generalizing g with
  | nil => rfl
  | cons r rest ih =>
    have verdict : (g.judge v r.shape).1 = r.accepts v := judge_fst current r.shape
    have later := ih ((g.remembers_judge v r.shape).current current)
    simp only [judgeAll, verdict, later]
    cases accepted : r.accepts v with
    | true => simp [accepted]
    | false => simp [accepted]

theorem remembers_judgeBatch (g : MethodGraph) (p : Policy) (vs : List VirtualInstruction) :
    g.Remembers (g.judgeBatch p vs).2 := by
  induction vs generalizing g with
  | nil => exact .refl g
  | cons v rest ih => exact (g.remembers_judgeUntil v p.recognizers).trans (ih _)

theorem judgeBatch_fst {g : MethodGraph} {p : Policy} {vs : List VirtualInstruction}
    (current : ∀ v ∈ vs, g.Current v) : (g.judgeBatch p vs).1 = vs.map p.recover? := by
  induction vs generalizing g with
  | nil => rfl
  | cons v rest ih =>
    have first := g.remembers_judgeUntil v p.recognizers
    have later := ih fun u member => first.current (current u (List.mem_cons_of_mem v member))
    have verdict := judgeUntil_fst (current v List.mem_cons_self) p.recognizers
    simp only [judgeBatch, later, verdict, List.map_cons, Policy.recover?_eq_find?]

theorem context_of_instruction {c : Context} {virtualCode : Int32} {handler : Token}
    {v : VirtualInstruction} (made : c.instruction virtualCode handler = .ok v) :
    v.context = c := by
  obtain ⟨_, rfl⟩ := Context.instruction_eq_ok_iff.mp made
  rfl

theorem context_of_instructions {c : Context} {wanted : List (Int32 × Token)}
    {vs : List VirtualInstruction} (made : c.instructions wanted = .ok vs) :
    ∀ v ∈ vs, v.context = c := by
  induction wanted generalizing vs with
  | nil =>
    obtain rfl : [] = vs := Except.ok.inj made
    simp
  | cons first rest ih =>
    have one_by_one : c.instructions (first :: rest) = (do
        let v ← c.instruction first.1 first.2
        let others ← c.instructions rest
        pure (v :: others)) := List.mapM_cons
    rw [one_by_one] at made
    cases head : c.instruction first.1 first.2 with
    | error e => simp [head, bind, Except.bind] at made
    | ok v =>
      cases tail : c.instructions rest with
      | error e => simp [head, tail, bind, Except.bind] at made
      | ok others =>
        obtain rfl : v :: others = vs := by
          simpa [head, tail, bind, Except.bind, pure, Except.pure] using made
        intro u member
        rcases List.mem_cons.mp member with same | later
        · subst same
          exact context_of_instruction head
        · exact ih tail u later

/-- The graph stores what the ledger says, and what it remembers is true. -/
structure Represents (g : MethodGraph) (l : Ledger) : Prop where
  consistent : g.Consistent
  methods : ∀ t, g.method? t = l.method? t
  size : g.size = l.size

namespace Represents
variable {g g' : MethodGraph} {l : Ledger}

theorem source (represents : g.Represents l) : g.source = l.source := by
  have bodies : g.body? = l.source.body? := by
    funext t
    simp only [body?, represents.methods, Ledger.source]
  have returnTypes : g.returnType? = l.source.returnType? := by
    funext t
    simp only [returnType?, represents.methods, Ledger.source]
  have callees : g.callees = l.source.callees := by
    funext t
    rw [callees_of_consistent represents.consistent]
    simp only [body?, represents.methods, Ledger.source, Option.map_map, Function.comp_def]
  simp only [MethodGraph.source, bodies, returnTypes, callees]

theorem context (represents : g.Represents l) (argumentsField : Token) :
    g.context argumentsField = l.context argumentsField := by
  rw [MethodGraph.context, represents.source, Ledger.context]

theorem remembers (represents : g.Represents l) (remembers : g.Remembers g') :
    g'.Represents l where
  consistent := remembers.consistent represents.consistent
  methods t := by
    rw [method?, remembers.methods]
    exact represents.methods t
  size := by
    rw [MethodGraph.size, remembers.methods]
    exact represents.size

theorem empty : MethodGraph.empty.Represents [] where
  consistent := consistent_empty
  methods t := by simp [method?, MethodGraph.empty, Ledger.method?]
  size := by simp [MethodGraph.size, MethodGraph.empty, Ledger.size]

theorem insert (represents : g.Represents l) (m : Method) :
    (g.insert m).Represents (m :: l) where
  consistent := consistent_insert represents.consistent m
  methods t := by
    have before := represents.methods t
    by_cases same : m.token = t
    · simp [method?, MethodGraph.insert, Ledger.method?, same]
    · simp only [method?] at before
      simp [method?, MethodGraph.insert, Ledger.method?, Std.HashMap.getElem?_insert, same, before]
  size := by
    have known : m.token ∈ g.methods ↔ m.token ∈ (l.map Method.token).toFinset := by
      have found : g.methods[m.token]? = l.find? fun n => n.token == m.token :=
        represents.methods m.token
      rw [Std.HashMap.mem_iff_isSome_getElem?, found, List.mem_toFinset, Ledger.mem_tokens_iff,
        Ledger.method?]
    have before := represents.size
    simp only [MethodGraph.size, Ledger.size] at before
    simp only [MethodGraph.size, MethodGraph.insert, Std.HashMap.size_insert, Ledger.size,
      List.map_cons, List.toFinset_cons, Finset.card_insert_eq_ite, known, before]

theorem foldl_insert (represents : g.Represents l) (ms : List Method) :
    (ms.foldl MethodGraph.insert g).Represents (ms.reverse ++ l) := by
  induction ms generalizing g l with
  | nil => exact represents
  | cons m rest ih =>
    rw [List.foldl_cons, List.reverse_cons, List.append_assoc]
    exact ih (represents.insert m)

theorem ofList (ms : List Method) : (MethodGraph.ofList ms).Represents ms.reverse := by
  have collected := Represents.empty.foldl_insert ms
  rw [List.append_nil] at collected
  exact collected

end Represents

theorem remembers_ask (g : MethodGraph) (v : VirtualInstruction) (q : Question) :
    g.Remembers (g.ask v q).2 := by
  cases q with
  | callees => exact g.remembers_remember v.handler
  | accepts s => exact g.remembers_judge v s
  | candidates p => exact g.remembers_judgeAll v p.recognizers
  | recover p => exact g.remembers_judgeUntil v p.recognizers

theorem ask_fst {g : MethodGraph} {v : VirtualInstruction} (current : g.Current v)
    (q : Question) : (g.ask v q).1 = Ledger.ask v q := by
  cases q with
  | callees =>
    have same : v.callees = g.callees v.handler := by
      rw [VirtualInstruction.callees, current]
      rfl
    rw [ask, Ledger.ask, same]
  | accepts s => exact congrArg Answer.truth (judge_fst current s)
  | candidates p => exact congrArg Answer.candidates (judgeAll_fst current p.recognizers)
  | recover p => exact congrArg Answer.verdict (judgeUntil_fst current p.recognizers)

theorem remembers_step (g : MethodGraph) {s : Step} (reads : s.stores = false) :
    g.Remembers (g.step s).2 := by
  cases s with
  | insert m => cases reads
  | collect ms => cases reads
  | method t => exact .refl g
  | contains t => exact .refl g
  | body t => exact .refl g
  | returnType t => exact .refl g
  | callees t => exact g.remembers_remember t
  | size => exact .refl g
  | isEmpty => exact .refl g
  | instructions argumentsField wanted =>
    simp only [step]
    split <;> exact .refl g
  | ask argumentsField virtualCode handler q =>
    simp only [step]
    split
    · exact g.remembers_ask _ q
    · exact .refl g
  | recoverAll argumentsField p wanted =>
    simp only [step]
    split
    · exact g.remembers_judgeBatch p _
    · exact .refl g

namespace Represents
variable {g : MethodGraph} {l : Ledger}

theorem isSome_method? (represents : g.Represents l) (t : Token) :
    g.contains t = (l.method? t).isSome := by
  rw [← represents.methods t, MethodGraph.isSome_method?]

theorem answer (represents : g.Represents l) (s : Step) : (g.step s).1 = l.answer s := by
  cases s with
  | insert m => exact congrArg Answer.method (represents.methods m.token)
  | collect ms => rfl
  | method t => exact congrArg Answer.method (represents.methods t)
  | contains t => exact congrArg Answer.truth (represents.isSome_method? t)
  | body t => exact congrArg (fun source => Answer.body (source.body? t)) represents.source
  | returnType t =>
    exact congrArg (fun source => Answer.returnType (source.returnType? t)) represents.source
  | callees t =>
    exact congrArg (fun source => Answer.callees (source.callees t)) represents.source
  | size => exact congrArg Answer.size represents.size
  | isEmpty =>
    have counted := represents.size
    rw [MethodGraph.size] at counted
    rw [step, Ledger.answer, MethodGraph.isEmpty, Std.HashMap.isEmpty_eq_size_eq_zero, counted]
  | instructions argumentsField wanted =>
    simp only [step, Ledger.answer, represents.context]
    cases (l.context argumentsField).instructions wanted <;> rfl
  | ask argumentsField virtualCode handler q =>
    simp only [step, Ledger.answer, represents.context]
    cases made : (l.context argumentsField).instruction virtualCode handler with
    | error e => rfl
    | ok v =>
      have current : g.Current v := by
        rw [Current, context_of_instruction made, ← represents.context]
        rfl
      exact ask_fst current q
  | recoverAll argumentsField p wanted =>
    simp only [step, Ledger.answer, represents.context]
    cases made : (l.context argumentsField).instructions wanted with
    | error e => rfl
    | ok vs =>
      have current : ∀ v ∈ vs, g.Current v := by
        intro v member
        rw [Current, context_of_instructions made v member, ← represents.context]
        rfl
      refine congrArg Answer.report ?_
      rw [judgeBatch_fst current, Policy.recoverAll_eq, List.map_prod_left_eq_zip]

/-- One step: the ledger stays true of the graph. -/
theorem step (represents : g.Represents l) (s : Step) : (g.step s).2.Represents (l.store s) := by
  cases reads : s.stores with
  | true =>
    cases s with
    | insert m => exact represents.insert m
    | collect ms => exact .ofList ms
    | _ => cases reads
  | false =>
    rw [l.store_of_reads reads]
    exact represents.remembers (g.remembers_step reads)

theorem answers (represents : g.Represents l) (steps : List Step) :
    g.answers steps = l.answers steps := by
  induction steps generalizing g l with
  | nil => rfl
  | cons s rest ih =>
    rw [MethodGraph.answers, Ledger.answers, represents.answer s, ih (represents.step s)]

theorem after (represents : g.Represents l) (steps : List Step) :
    (g.after steps).Represents (steps.foldl Ledger.store l) := by
  induction steps generalizing g l with
  | nil => exact represents
  | cons s rest ih => exact ih (represents.step s)

theorem mem_survivors_iff (represents : g.Represents l) {m : Method} :
    m ∈ g.survivors ↔ l.method? m.token = some m := by
  have stored : m ∈ g.survivors ↔ ∃ t, l.method? t = some m := by
    simp only [survivors, List.mem_map, Prod.exists, exists_eq_right,
      Std.HashMap.mem_toList_iff_getElem?_eq_some, ← represents.methods, method?]
  rw [stored]
  constructor
  · intro somewhere
    obtain ⟨t, found⟩ := somewhere
    rw [Ledger.token_of_method? found]
    exact found
  · intro found
    exact ⟨m.token, found⟩

theorem rebuilt (represents : g.Represents l) : (MethodGraph.ofList g.survivors).Represents l := by
  have anew := Represents.ofList g.survivors
  have same : ∀ t, Ledger.method? g.survivors.reverse t = l.method? t := by
    intro t
    -- The order of the survivors is unknown, but no two of them share a token.
    have listed : ∀ m ∈ g.survivors.reverse, m.token = t → l.method? t = some m := by
      intro m member token
      rw [← token]
      exact represents.mem_survivors_iff.mp (List.mem_reverse.mp member)
    cases found : Ledger.method? g.survivors.reverse t with
    | some m =>
      exact (listed m (List.mem_of_find?_eq_some found) (Ledger.token_of_method? found)).symm
    | none =>
      cases stored : l.method? t with
      | none => rfl
      | some m =>
        have token := Ledger.token_of_method? stored
        rw [← token] at stored
        have member := List.mem_reverse.mpr (represents.mem_survivors_iff.mpr stored)
        have missed := List.find?_eq_none.mp found m member
        simp [token] at missed
  exact ⟨anew.consistent, fun t => (anew.methods t).trans (same t),
    anew.size.trans (Ledger.size_congr same)⟩

end Represents

/-- What a graph remembers cannot be seen. Its answers are those of the ledger; questions asked on
    the way change no later answer, nor would a fresh graph of the stored methods answer otherwise;
    and what is remembered of a method is always read off its stored body. -/
theorem answers_without_memory (steps later : List Step) :
    empty.answers steps = Ledger.answers [] steps ∧
    (empty.after steps).answers later = (empty.after (steps.filter Step.stores)).answers later ∧
    (empty.after steps).answers later = (ofList (empty.after steps).survivors).answers later ∧
    (empty.after steps).Consistent := by
  have now := Represents.empty.after steps
  have undisturbed := Represents.empty.after (steps.filter Step.stores)
  rw [Ledger.foldl_store_filter] at undisturbed
  refine ⟨Represents.empty.answers steps, ?_, ?_, now.consistent⟩
  · rw [now.answers later, undisturbed.answers later]
  · rw [now.answers later, now.rebuilt.answers later]

end MethodGraph
end OpcodeRecovery
