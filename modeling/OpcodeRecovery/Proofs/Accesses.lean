import OpcodeRecovery.Report

/-!
Recovery with checked accesses. Comparisons of bodies with patterns cut slices, and shapes read the
instructions at fixed positions; here each such access says what it asks for and fails where there
is nothing to be had, and so does a difference that would be negative. Nothing is tested before an
access but what the comparisons and shapes test themselves, in their own order.
-/
namespace OpcodeRecovery

/-- An instruction beyond the end, a slice that ends beyond the end or before its start, a negative
    difference, or windows without instructions. -/
inductive Fault where
  | index (access : OutOfRange)
  | slice (start stop length : Nat)
  | difference (minuend subtrahend : Nat)
  | noWindow
  deriving DecidableEq, Repr

abbrev Checked (α : Type) := Except Fault α

namespace Checked

def difference (m n : Nat) : Checked Nat :=
  if n ≤ m then .ok (m - n) else .error (.difference m n)

def slice (b : Body) (start stop : Nat) : Checked Body :=
  if start ≤ stop ∧ stop ≤ b.length then .ok (b.extract start stop)
  else .error (.slice start stop b.length)

def windows (b : Body) (size : Nat) : Checked (List Body) :=
  if size = 0 then .error .noWindow
  else .ok ((List.range (b.length + 1 - size)).map fun start => b.extract start (start + size))

def get (w : Window) (index : Nat) : Checked Instruction := (w.get index).mapError .index

def read (b : Body) (index : Nat) : Checked Instruction :=
  match b[index]? with
  | some i => .ok i
  | none => .error (.index ⟨b.length, index⟩)

def startsWith (b : Body) (p : Pattern) : Checked Bool :=
  if p.length ≤ b.length then do
    let front ← slice b 0 p.length
    return front.isExactly p
  else pure false

def endsWith (b : Body) (p : Pattern) : Checked Bool :=
  if p.length ≤ b.length then do
    let start ← difference b.length p.length
    let back ← slice b start b.length
    return back.isExactly p
  else pure false

def find? (b : Body) (p : Pattern) : Checked (Option Window) :=
  if p.isEmpty || b.length < p.length then pure none
  else do
    let candidates ← windows b p.length
    match candidates.findIdx? fun w => w.isExactly p with
    | none => return none
    | some start => do
      let found ← slice b start (start + p.length)
      return some ⟨start, found⟩

def bodyContains (s : MethodSource) (p : Pattern) (t : Token) : Checked Bool :=
  match s.body? t with
  | none => pure false
  | some b => do
    let found ← find? b p
    return found.isSome

def calleeContains (v : VirtualInstruction) (p : Pattern) : Checked Bool :=
  v.callees.anyM (bodyContains v.context.methods p)

def callPasses (v : VirtualInstruction) (p : Pattern) (flags : List Bool) (call : Instruction)
    (index : Nat) : Checked Bool :=
  match call.callTarget? with
  | none => pure false
  | some target =>
    if index < flags.length then pure false
    else do
      let start ← difference index flags.length
      let arguments ← slice v.body start index
      if (arguments.zip flags).all fun (i, flag) => i.truth? == some flag then
        bodyContains v.context.methods p target
      else pure false

def flaggedCallContains (v : VirtualInstruction) (p : Pattern) (flags : List Bool) : Checked Bool :=
  v.body.zipIdx.anyM fun (call, index) => callPasses v p flags call index

def anyWindow (b : Body) (p : Pattern) (test : Window → Checked Bool) : Checked Bool := do
  match ← find? b p with
  | none => return false
  | some w => test w

open Generated in
def accepts (s : Shape) (v : VirtualInstruction) : Checked Bool :=
  match s with
  | .indirect helper => calleeContains v helper
  | .discriminated helper flags => flaggedCallContains v helper flags
  | .opening stub => startsWith v.body stub
  | .delegating stub helper => startsWith v.body stub <&&> calleeContains v helper
  | .argumentStore width =>
    anyWindow v.body argumentStore (fun w => do
      return v.returns (← get w argumentStoreAccessor) width.returnType) <&&>
    endsWith v.body argumentStoreTail
  | .argumentIndexLoad index =>
    startsWith v.body (argumentIndexLoad.fill index) <&&>
    (do return v.isArgumentsField (← read v.body argumentIndexLoadField))
  | .argumentAddressLoad width =>
    anyWindow v.body argumentAddressLoad fun w =>
      (do return v.isArgumentsField (← get w argumentAddressLoadField)) <&&>
      (do return v.returns (← get w argumentAddressLoadAccessor) width.returnType)
  | .argumentLoad width =>
    pure (v.body.isExactly argumentLoad) <&&>
    (do return v.returns (← read v.body argumentLoadAccessor) width.returnType) <&&>
    (do return v.isArgumentsField (← read v.body argumentLoadField))
  | .constantLoad constant => pure (v.body.isExactly (constantLoad.fill constant))

def candidates (p : Policy) (v : VirtualInstruction) : Checked (List Opcode) := do
  let accepting ← p.recognizers.filterM fun r => accepts r.shape v
  return accepting.map Recognizer.opcode

def recover? (p : Policy) (v : VirtualInstruction) : Checked (Option Opcode) := do
  let first ← p.recognizers.findM? fun r => accepts r.shape v
  return first.map Recognizer.opcode

/-- A task that fails fails the batch. -/
def verdicts (p : Policy) (batch : List VirtualInstruction) : Checked (List (Option Opcode)) :=
  if p.parallelThreshold.toNat ≤ batch.length then
    ((batch.map fun v => Task.spawn fun _ => recover? p v).map Task.get).mapM id
  else batch.mapM (recover? p)

def recoverAll (p : Policy) (batch : List VirtualInstruction) : Checked Report := do
  let found ← verdicts p batch
  return .ofVerdicts (batch.zip found)

end Checked
end OpcodeRecovery
