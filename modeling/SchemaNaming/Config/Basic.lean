import SchemaNaming.Slot
import SchemaNaming.Value.Basic

/-!
Configurations: the overriding descriptors, the naming options and the logging options, with the
path of the file they belong to. Fields hold whatever a file or a caller put there.
-/

namespace SchemaNaming

structure Overrides where
  type : Value := .null
  property : Value := .null
  enum : Value := .null
  deriving Inhabited

namespace Overrides

def get (o : Overrides) : Slot → Value
  | .enum => o.enum
  | .type => o.type
  | .property => o.property

def set (o : Overrides) (slot : Slot) (v : Value) : Overrides :=
  match slot with
  | .enum => { o with enum := v }
  | .type => { o with type := v }
  | .property => { o with property := v }

/-- The order in which overrides are resolved and put into their slots. -/
def order : List Slot := [.type, .property, .enum]

end Overrides

structure NamingOptions where
  separator : Value := .text "-"
  digitPrefix : Value := .text "N"
  deriving Inhabited

structure LogOptions where
  level : Value := .text "INFO"
  fileLogging : Value := .bool false
  file : Value := .text "namegen.log"
  deriving Inhabited

structure Config where
  path : String
  overrides : Overrides := {}
  naming : NamingOptions := {}
  logging : LogOptions := {}
  deriving Inhabited

namespace Config

def hasOverrides (c : Config) : Bool :=
  Overrides.order.any (fun slot => (c.overrides.get slot).isTrue)

end Config

end SchemaNaming
