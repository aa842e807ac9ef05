/-!
The three generator slots: one generator names enum members, one types, one properties.
-/

namespace SchemaNaming

inductive Slot where
  | enum
  | type
  | property
  deriving DecidableEq, Repr, Inhabited

namespace Slot

def all : List Slot := [.enum, .type, .property]

def name : Slot → String
  | .enum => "Enum"
  | .type => "Type"
  | .property => "Property"

/-- The name of the slot as a constant. -/
def constantName : Slot → String
  | .enum => "ENUM"
  | .type => "TYPE"
  | .property => "PROPERTY"

/-- The contract that an occupant of the slot has to implement. -/
def contractName (slot : Slot) : String := slot.name ++ "NameGenerator"

def ofName? (s : String) : Option Slot := all.find? (fun slot => slot.name == s)

theorem mem_all (slot : Slot) : slot ∈ all := by cases slot <;> simp [all]

theorem ofName?_name (slot : Slot) : ofName? slot.name = some slot := by cases slot <;> rfl

end Slot

end SchemaNaming
