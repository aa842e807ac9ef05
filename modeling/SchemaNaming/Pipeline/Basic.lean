import SchemaNaming.Plugin.Store
import SchemaNaming.Plugin.Library

/-!
A pipeline holds one generator a slot, and the descriptors that may replace them. A new one has
standard generators in the slots that nothing else fills.
-/

namespace SchemaNaming
open Plugin

structure Occupants where
  enum : InstanceId
  type : InstanceId
  property : InstanceId
  deriving DecidableEq, Repr, Inhabited

namespace Occupants

def get (o : Occupants) : Slot → InstanceId
  | .enum => o.enum
  | .type => o.type
  | .property => o.property

def set (o : Occupants) (slot : Slot) (id : InstanceId) : Occupants :=
  match slot with
  | .enum => { o with enum := id }
  | .type => { o with type := id }
  | .property => { o with property := id }

theorem get_set_self (o : Occupants) (slot : Slot) (id : InstanceId) :
    (o.set slot id).get slot = id := by cases slot <;> rfl

theorem get_set_ne (o : Occupants) {slot other : Slot} (different : other ≠ slot)
    (id : InstanceId) :
    (o.set slot id).get other = o.get other := by
  cases slot <;> cases other <;> first | rfl | exact absurd rfl different

end Occupants

structure Pipeline where
  occupants : Occupants
  overrides : Overrides := {}
  /-- Set by the first request for a name. -/
  started : Bool := false
  deriving Inhabited

namespace Pipeline

def logger : String := "namegen.pipeline.naming_pipeline"

def standardInstance (d : Decorator) : Run Host InstanceId :=
  addInstance
    { cls := classNumber (Decorator.className d.slot), generator := some (.standard d) }

/-- Decorators with the given parameters for the slots that nothing else fills. -/
def fill (separator : Value) (digitPrefix : String) (given : Slot → Option InstanceId) :
    Run Host Occupants := do
  let occupant (slot : Slot) : Run Host InstanceId :=
    match given slot with
    | some id => return id
    | none => standardInstance (.withSeparator slot separator digitPrefix)
  let enum ← occupant .enum
  let type ← occupant .type
  let property ← occupant .property
  return { enum, type, property }

def create (occupants : Occupants) (overrides : Overrides) : Run Host Pipeline := do
  let enum ← instanceClass occupants.enum
  let type ← instanceClass occupants.type
  let property ← instanceClass occupants.property
  let slots := [(Slot.enum, enum), (Slot.type, type), (Slot.property, property)]
  let event : Log.Event := .slotsFilled (slots.map (fun s => (s.1.name, s.2.name)))
  Host.emit (event.record logger)
  return { occupants, overrides }

def standard : Run Host Pipeline := do
  create (← fill (.text "-") "N" (fun _ => none)) {}

end Pipeline

end SchemaNaming
