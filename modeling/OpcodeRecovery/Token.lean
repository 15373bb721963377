import OpcodeRecovery.Text.Hex
import OpcodeRecovery.Text.Structured

/-!
Metadata tokens, by which fields, methods and types are told apart. A token names a row of a
table: the table stands in the high byte and the row in the other three. Two tokens are equal only
if both agree.
-/
namespace OpcodeRecovery

structure Token where
  value : UInt32
  deriving DecidableEq, Hashable, Repr

namespace Token

def typeDefTable : UInt8 := 0x02
def fieldTable : UInt8 := 0x04
def methodDefTable : UInt8 := 0x06
def memberRefTable : UInt8 := 0x0A

/-- Rows are 24 bits wide; a wider one loses its high byte. -/
def ofParts (table : UInt8) (row : UInt32) : Token :=
  ⟨(table.toUInt32 <<< 24) ||| (row &&& 0x00FFFFFF)⟩

def typeDef (row : UInt32) : Token := ofParts typeDefTable row
def field (row : UInt32) : Token := ofParts fieldTable row
def methodDef (row : UInt32) : Token := ofParts methodDefTable row

def table (t : Token) : UInt8 := (t.value >>> 24).toUInt8

def row (t : Token) : UInt32 := t.value &&& 0x00FFFFFF

/-- Fields are declared in the field table or referred to from the member table. -/
def isFieldLike (t : Token) : Bool := t.table == fieldTable || t.table == memberRefTable

def isMethodLike (t : Token) : Bool := t.table == methodDefTable || t.table == memberRefTable

theorem isFieldLike_iff {t : Token} :
    t.isFieldLike = true ↔ t.table = fieldTable ∨ t.table = memberRefTable := by
  simp [isFieldLike]

theorem isMethodLike_iff {t : Token} :
    t.isMethodLike = true ↔ t.table = methodDefTable ∨ t.table = memberRefTable := by
  simp [isMethodLike]

def text (t : Token) : String := "0x" ++ Hex.text .lower 8 t.value.toNat

def dump (t : Token) : String :=
  Structured.apply "Token" (t.text ++ ", table: 0x" ++ Hex.text .lower 2 t.table.toNat ++
    ", row: " ++ toString t.row.toNat)

def order (a b : Token) : Ordering := compare a.value b.value

def ascending (ts : List Token) : List Token := ts.mergeSort fun a b => (a.order b).isLE

end Token
end OpcodeRecovery
