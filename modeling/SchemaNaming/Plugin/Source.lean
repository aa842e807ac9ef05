import SchemaNaming.Generator.Script
import SchemaNaming.Plugin.Thing

/-!
Sources of plugin modules: what a module's execution defines, imports and raises, in order. A
source that does not parse executes nothing.
-/

namespace SchemaNaming.Plugin

/-- What a class declares about itself, apart from its members. -/
structure Declaration where
  slots : List Slot := []
  /-- A reference to a class to derive from, in place of contracts. -/
  parent : Option String := none
  script : Option Script := none
  /-- Constructor parameters. -/
  needs : List String := []
  /-- What construction raises. -/
  raises : Option Raised := none
  /-- A class whose new instance the constructor hands to the one above. -/
  wraps : Option String := none
  deriving Inhabited

inductive Item where
  | cls (name : String) (declaration : Declaration) (members : List Item)
  | const (name : String) (thing : Thing)
  | func (name : String)
  /-- Another name for what a reference stands for. -/
  | alias (name : String) (reference : String)
  | load (module : String)
  /-- A name that is taken over from a module. -/
  | take (module name : String)
  | raise (raised : Raised)
  deriving Inhabited

inductive Source where
  | items (body : List Item)
  | malformed
  deriving Inhabited

mutual

/-- The longest names of modules that an item asks for, once for each time it does. -/
def Item.loads : Item → List String
  | .cls _ _ members => loadsOf members
  | .load module => [module]
  | .take module name => [module ++ "." ++ name]
  | _ => []

def loadsOf : List Item → List String
  | [] => []
  | item :: rest => item.loads ++ loadsOf rest

end

def Source.loads : Source → List String
  | .items body => loadsOf body
  | .malformed => []

end SchemaNaming.Plugin
