import SchemaNaming.Descriptor
import SchemaNaming.Plugin.PrivateName
import SchemaNaming.Plugin.Store
import SchemaNaming.Text.NormalForm

/-!
Names where items execute: what they are bound as, and what they stand for. The body of a class sees
the names of its module but not those of the classes around it.
-/

namespace SchemaNaming.Plugin

/-- Where items execute: the module, its name, the names of the enclosing classes, and the import
that its items use. -/
structure Scope where
  module : ModuleId
  moduleName : String
  enclosing : List String
  load : String → Run Host ModuleId

namespace Scope

def qualified (scope : Scope) (name : String) : String :=
  Descriptor.dotted (scope.enclosing ++ [name])

def bound (scope : Scope) (name : String) : String :=
  let name := Text.normalForm name
  match scope.enclosing.getLast? with
  | some cls => boundIn cls name
  | none => name

/-- The inside of a class, and what its body begins with. -/
def inside (scope : Scope) (r : Registry) (name : String) : Scope × Named Thing :=
  ({ scope with enclosing := scope.enclosing ++ [name] },
   [(placeName, (r.module scope.module).title),
    (qualifiedName, .value (.text (scope.qualified name)))])

def named? (scope : Scope) (r : Registry) (body : Named Thing) (name : String) : Option Thing :=
  ((body.lookup name).or ((r.module scope.module).own? name)).or (r.names.lookup name)

/-- What a reference stands for: a name, and attributes behind dots. -/
def referent (scope : Scope) (r : Registry) (body : Named Thing) (reference : String) :
    Except Fault Thing :=
  let names := (Descriptor.parts reference).map scope.bound
  match scope.named? r body (names.headD "") with
  | none => .error (.undefinedName (names.headD ""))
  | some t =>
    names.tail.foldlM r.demand t

end Scope

end SchemaNaming.Plugin
