import OpcodeRecovery.Pattern

/-!
Templates: patterns in which some positions stand open for the constant load that tells the
members of a family apart. Every open position of a template is filled alike.
-/
namespace OpcodeRecovery

inductive TemplateItem where
  | fixed (code : Opcode)
  | constant
  deriving DecidableEq, Repr

namespace TemplateItem

def fill (c : Opcode) : TemplateItem → Opcode
  | .fixed code => code
  | .constant => c

def text : TemplateItem → String
  | .fixed code => code.mnemonic
  | .constant => "<constant>"

def dump : TemplateItem → String
  | .fixed code => Structured.apply "Fixed" code.tag
  | .constant => Structured.apply "Slot" "Constant"

end TemplateItem

abbrev Template := List TemplateItem

namespace Template

def fill (t : Template) (c : Opcode) : Pattern := t.map (TemplateItem.fill c)

def text (t : Template) : String := Structured.list (t.map TemplateItem.text)

def dump (t : Template) : String := Structured.list (t.map TemplateItem.dump)

theorem length_fill (t : Template) (c : Opcode) : (t.fill c).length = t.length := by
  simp [fill]

theorem eq_of_fill_eq {t : Template} (isOpen : .constant ∈ t) {c d : Opcode}
    (same : t.fill c = t.fill d) : c = d :=
  List.map_inj_left.mp same .constant isOpen

end Template
end OpcodeRecovery
