import OpcodeRecovery.Method.Graph
import OpcodeRecovery.Report

/-!
Histories of a method graph: steps that change it or ask it something, and the answers. A question
about a virtual instruction is put to the graph as it stands at that moment, recognizer by
recognizer, and wherever the callees of a handler are looked up they are remembered.
-/
namespace OpcodeRecovery

/-- Whether the callees of the handler are looked up to evaluate the shape. A stub is compared
    first, and the callees are of no interest if it fails. -/
def Shape.asksCallees (s : Shape) (v : VirtualInstruction) : Bool :=
  match s with
  | .indirect _ => true
  | .delegating stub _ => v.body.startsWith stub
  | _ => false

namespace MethodGraph

def context (g : MethodGraph) (argumentsField : Token) : Context := ⟨g.source, argumentsField⟩

def reread (g : MethodGraph) (v : VirtualInstruction) : VirtualInstruction :=
  v.inContext (g.context v.context.argumentsField)

def judge (g : MethodGraph) (v : VirtualInstruction) (s : Shape) : Bool × MethodGraph :=
  (s.accepts (g.reread v), if s.asksCallees (g.reread v) then g.remember v.handler else g)

def judgeUntil (g : MethodGraph) (v : VirtualInstruction) :
    List Recognizer → Option Opcode × MethodGraph
  | [] => (none, g)
  | r :: rest =>
    let (accepted, next) := g.judge v r.shape
    if accepted then (some r.opcode, next) else next.judgeUntil v rest

def judgeAll (g : MethodGraph) (v : VirtualInstruction) :
    List Recognizer → List Opcode × MethodGraph
  | [] => ([], g)
  | r :: rest =>
    let (accepted, next) := g.judge v r.shape
    let (others, last) := next.judgeAll v rest
    (if accepted then r.opcode :: others else others, last)

def judgeBatch (g : MethodGraph) (p : Policy) :
    List VirtualInstruction → List (Option Opcode) × MethodGraph
  | [] => ([], g)
  | v :: rest =>
    let (verdict, next) := g.judgeUntil v p.recognizers
    let (others, last) := next.judgeBatch p rest
    (verdict :: others, last)

inductive Question where
  | callees
  | accepts (s : Shape)
  | candidates (p : Policy)
  | recover (p : Policy)

inductive Step where
  | insert (m : Method)
  | collect (ms : List Method)
  | method (t : Token)
  | contains (t : Token)
  | body (t : Token)
  | returnType (t : Token)
  | callees (t : Token)
  | size
  | isEmpty
  | instructions (argumentsField : Token) (wanted : List (Int32 × Token))
  | ask (argumentsField : Token) (virtualCode : Int32) (handler : Token) (q : Question)
  | recoverAll (argumentsField : Token) (p : Policy) (wanted : List (Int32 × Token))

def Step.stores : Step → Bool
  | .insert _ | .collect _ => true
  | _ => false

inductive Answer where
  | none
  | method (m : Option Method)
  | truth (b : Bool)
  | body (b : Option Body)
  | returnType (s : Option String)
  | callees (ts : List Token)
  | size (n : Nat)
  | instructions (vs : List VirtualInstruction)
  | candidates (cs : List Opcode)
  | verdict (c : Option Opcode)
  | report (r : Report)
  | failure (e : RecoveryError)

def ask (g : MethodGraph) (v : VirtualInstruction) : Question → Answer × MethodGraph
  | .callees => (.callees (g.callees v.handler), g.remember v.handler)
  | .accepts s => Prod.map .truth id (g.judge v s)
  | .candidates p => Prod.map .candidates id (g.judgeAll v p.recognizers)
  | .recover p => Prod.map .verdict id (g.judgeUntil v p.recognizers)

/-- Inserting answers with the method that was replaced. -/
def step (g : MethodGraph) : Step → Answer × MethodGraph
  | .insert m => (.method (g.method? m.token), g.insert m)
  | .collect ms => (.none, ofList ms)
  | .method t => (.method (g.method? t), g)
  | .contains t => (.truth (g.contains t), g)
  | .body t => (.body (g.body? t), g)
  | .returnType t => (.returnType (g.returnType? t), g)
  | .callees t => (.callees (g.callees t), g.remember t)
  | .size => (.size g.size, g)
  | .isEmpty => (.truth g.isEmpty, g)
  | .instructions argumentsField wanted =>
    match (g.context argumentsField).instructions wanted with
    | .ok vs => (.instructions vs, g)
    | .error e => (.failure e, g)
  | .ask argumentsField virtualCode handler q =>
    match (g.context argumentsField).instruction virtualCode handler with
    | .ok v => g.ask v q
    | .error e => (.failure e, g)
  | .recoverAll argumentsField p wanted =>
    match (g.context argumentsField).instructions wanted with
    | .ok vs => Prod.map (fun verdicts => .report (.ofVerdicts (vs.zip verdicts))) id
        (g.judgeBatch p vs)
    | .error e => (.failure e, g)

def after (g : MethodGraph) (steps : List Step) : MethodGraph :=
  steps.foldl (fun g s => (g.step s).2) g

def answers (g : MethodGraph) : List Step → List Answer
  | [] => []
  | s :: rest => (g.step s).1 :: answers (g.step s).2 rest

end MethodGraph
end OpcodeRecovery
