import OpcodeRecovery.Number.Layout
import OpcodeRecovery.Text.Structured

/-!
Constants embedded in instructions. Floating-point constants are kept as words, so that every
constant has a text and two constants are the same exactly if they are written alike; equality as
numbers is a relation of its own, under which a constant that is no number differs from itself.
-/
namespace OpcodeRecovery

inductive Immediate where
  | int8 (value : Int8)
  | uint8 (value : UInt8)
  | int32 (value : Int32)
  | int64 (value : Int64)
  | float32 (word : UInt32)
  | float64 (word : UInt64)
  deriving DecidableEq, Repr

namespace Immediate

def integer? : Immediate → Option Int
  | .int8 value => some value.toInt
  | .uint8 value => some value.toNat
  | .int32 value => some value.toInt
  | .int64 value => some value.toInt
  | .float32 _ | .float64 _ => none

def fitsInt32 (n : Int) : Bool := Int32.minValue.toInt ≤ n && n ≤ Int32.maxValue.toInt

def int32? (i : Immediate) : Option Int32 := (i.integer?.filter fitsInt32).map Int32.ofInt

def equals : Immediate → Immediate → Bool
  | .float32 x, .float32 y =>
    (Binary.single.decode x.toNat).equals (Binary.single.decode y.toNat)
  | .float64 x, .float64 y =>
    (Binary.double.decode x.toNat).equals (Binary.double.decode y.toNat)
  | x, y => x == y

def dump : Immediate → String
  | .int8 value => Structured.apply "Int8" (toString value.toInt)
  | .uint8 value => Structured.apply "UInt8" (toString value.toNat)
  | .int32 value => Structured.apply "Int32" (toString value.toInt)
  | .int64 value => Structured.apply "Int64" (toString value.toInt)
  | .float32 word => Structured.apply "Float32" (Binary.single.text word.toNat)
  | .float64 word => Structured.apply "Float64" (Binary.double.text word.toNat)

end Immediate
end OpcodeRecovery
