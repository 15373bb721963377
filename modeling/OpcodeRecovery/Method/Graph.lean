import OpcodeRecovery.Method
import Std.Data.HashMap

/-!
Methods stored by token, with the callees of those already asked for remembered. A replaced method
takes its remembered callees with it, so what is remembered is true of what is stored.
-/
namespace OpcodeRecovery

structure MethodGraph where
  methods : Std.HashMap Token Method := ∅
  remembered : Std.HashMap Token (List Token) := ∅

namespace MethodGraph

def empty : MethodGraph := {}

def size (g : MethodGraph) : Nat := g.methods.size

def isEmpty (g : MethodGraph) : Bool := g.methods.isEmpty

def method? (g : MethodGraph) (t : Token) : Option Method := g.methods[t]?

def contains (g : MethodGraph) (t : Token) : Bool := g.methods.contains t

def body? (g : MethodGraph) (t : Token) : Option Body := (g.method? t).map Method.body

def returnType? (g : MethodGraph) (t : Token) : Option String :=
  (g.method? t).map Method.returnType

def insert (g : MethodGraph) (m : Method) : MethodGraph where
  methods := g.methods.insert m.token m
  remembered := g.remembered.erase m.token

def ofList (ms : List Method) : MethodGraph := ms.foldl insert empty

def callees (g : MethodGraph) (t : Token) : List Token :=
  match g.remembered[t]? with
  | some known => known
  | none => ((g.body? t).map Body.callees).getD []

def remember (g : MethodGraph) (t : Token) : MethodGraph :=
  if g.contains t then { g with remembered := g.remembered.insert t (g.callees t) } else g

def survivors (g : MethodGraph) : List Method := g.methods.toList.map Prod.snd

def source (g : MethodGraph) : MethodSource where
  body? := g.body?
  returnType? := g.returnType?
  callees := g.callees

/-- What is remembered of a method agrees with its stored body. -/
def Consistent (g : MethodGraph) : Prop :=
  ∀ t known, g.remembered[t]? = some known → ∃ b, g.body? t = some b ∧ known = b.callees

theorem isSome_method? {g : MethodGraph} {t : Token} : (g.method? t).isSome = g.contains t := by
  rw [method?, contains, Std.HashMap.contains_eq_isSome_getElem?]

theorem consistent_empty : Consistent empty := by
  intro t known h
  simp [empty] at h

theorem callees_of_consistent {g : MethodGraph} (consistent : g.Consistent) (t : Token) :
    g.callees t = ((g.body? t).map Body.callees).getD [] := by
  unfold callees
  split
  · rename_i known h
    obtain ⟨b, stored, rfl⟩ := consistent t known h
    simp [stored]
  · rfl

theorem consistent_insert {g : MethodGraph} (consistent : g.Consistent) (m : Method) :
    (g.insert m).Consistent := by
  intro t known h
  simp only [insert, Std.HashMap.getElem?_erase] at h
  split at h
  · simp at h
  · rename_i other
    obtain ⟨b, stored, same⟩ := consistent t known h
    refine ⟨b, ?_, same⟩
    simpa [body?, method?, insert, Std.HashMap.getElem?_insert, other] using stored

theorem consistent_remember {g : MethodGraph} (consistent : g.Consistent) (t : Token) :
    (g.remember t).Consistent := by
  unfold remember
  split
  · rename_i present
    intro u known h
    simp only [Std.HashMap.getElem?_insert] at h
    split at h
    · rename_i same
      obtain rfl : t = u := by simpa using same
      obtain ⟨m, stored⟩ : ∃ m, g.methods[t]? = some m :=
        Option.isSome_iff_exists.mp (isSome_method?.trans present)
      refine ⟨m.body, by simp [body?, method?, stored], ?_⟩
      rw [← Option.some.inj h, callees_of_consistent consistent]
      simp [body?, method?, stored]
    · exact consistent u known h
  · exact consistent

end MethodGraph
end OpcodeRecovery
