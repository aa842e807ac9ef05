import SchemaNaming.Fault
import SchemaNaming.Plugin.Named
import SchemaNaming.Plugin.Numbering

/-!
Things that a path of attributes can reach, and what a class holds under its names. A class holds
members; what a member gives depends on whether the class is asked itself or one of its instances.
Of most values nothing is told but their class.
-/

namespace SchemaNaming.Plugin

inductive Thing where
  | null
  | cls (id : ClassId)
  | module (id : ModuleId)
  | value (v : Value)
  /-- An instance of a class, with what it has besides the members of the class. -/
  | item (cls : ClassId) (own : List (String × Thing))
  deriving Inhabited

def objectClass : ClassId := classNumber "object"
def moduleClass : ClassId := classNumber "module"
def plainKind : ClassId := classNumber "type"
def abstractKind : ClassId := classNumber "ABCMeta"

def abstractClass : ClassId := classNumber "ABC"

def functionClass : ClassId := classNumber "function"
def methodClass : ClassId := classNumber "method"
def builtinClass : ClassId := classNumber "builtin_function_or_method"

/-- The contracts are the first classes of every registry. -/
def contractClass : Slot → ClassId
  | .enum => 0
  | .type => 1
  | .property => 2

def methodName : String := "generate"

def docName : String := "__doc__"
def titleName : String := "__name__"
def qualifiedName : String := "__qualname__"
def placeName : String := "__module__"
def initialName : String := "__init__"
def abstractName : String := "__abstractmethods__"
def makerName : String := "__new__"
def heirName : String := "__init_subclass__"
def placesName : String := "__slots__"
def pathName : String := "__path__"
def typingName : String := "__annotations__"
def className : String := "__class__"
def baseName : String := "__base__"
def fileName : String := "__file__"
def receiverName : String := "__self__"
def boundName : String := "__func__"
def holderName : String := "__objclass__"
def sourceName : String := "__origin__"
def specName : String := "__spec__"
def callName : String := "__call__"
def factsName : String := "__dict__"

/-- What is asked for attributes, and what is asked for those that are not there. -/
def readerName : String := "__getattribute__"
def hookName : String := "__getattr__"

namespace Thing

def nullKind : String := "NoneType"

def ofValue : Value → Thing
  | .null => .null
  | v => .value v

/-- A value as a text; of other things nothing is told. -/
def display : Thing → String
  | .null => Value.null.display
  | .value v => v.display
  | _ => ""

def written : Thing → Except Fault String
  | .value v => if v.hasLongInteger then .error (.mishap .digitLimit) else .ok v.display
  | t => .ok t.display

def isTrue : Thing → Bool
  | .null => false
  | .value v => v.isTrue
  | _ => true

def text? : Thing → Option String
  | .value v => v.text?
  | _ => none

def iterableKinds : List String := ["str", "bytes", "list", "tuple", "set", "frozenset", "dict"]

/-- What a thing gives that can be gone through, one after another. Of other things than values no
element is told. -/
def elements? : Thing → Option (List Value)
  | .value (.text s) => some (s.toList.map (fun c => .text c.toString))
  | .value (.bytes data) => some (data.map (fun b => .int b.toNat))
  | .value (.list vs) => some vs
  | .value (.tuple vs) => some vs
  | .value (.set vs) => some vs
  | .value (.dict entries) => some (entries.map (·.1))
  | .item kind _ => if (iterableKinds.map classNumber).contains kind then some [] else none
  | _ => none

/-- Some value of a class. -/
def ofKind (kind : String) : Thing :=
  if kind == nullKind then .null else .item (classNumber kind) []

def function (own : List (String × Thing)) : Thing := .item functionClass own

/-- A built-in function that belongs to a receiver. -/
def builtin (receiver : Thing) (own : List (String × Thing)) : Thing :=
  .item builtinClass ((receiverName, receiver) :: own)

/-- A function bound to a receiver, which has all that the function has of its own. -/
def bound (receiver : Thing) (own : List (String × Thing)) : Thing :=
  .item methodClass ((receiverName, receiver) :: (boundName, .function own) :: own)

end Thing

/-- How a class serves a name. -/
inductive Role where
  /-- The same thing for the class and its instances. -/
  | plain (thing : Thing)
  | function
  /-- A function that is bound to the class. -/
  | classFunction
  /-- Computed for an instance. -/
  | property
  /-- For instances alone. -/
  | hidden (thing : Thing)
  /-- Built-in: an operation, a method, a method of the class and a function without receiver. -/
  | wrapper
  | method
  | classMethod
  | maker
  /-- Built-in facts about an instance, computed or stored; there may be none. -/
  | getset (value : Option Thing)
  | cell (value : Option Thing)
  deriving Inhabited

structure Member where
  role : Role
  /-- What is known of the member itself. -/
  own : List (String × Thing) := []
  deriving Inhabited

namespace Member

/-- A function that stands in the body of a class serves its instances. -/
def ofThing : Thing → Member
  | .item cls own =>
    if cls == functionClass then ⟨.function, own⟩ else ⟨.plain (.item cls own), []⟩
  | t => ⟨.plain t, []⟩

/-- Stands before what an instance has of its own; if it is a class, before its other members. -/
def isFact (m : Member) : Bool :=
  match m.role with
  | .property | .hidden _ | .getset _ | .cell _ => true
  | _ => false

/-- What a class gives for a member that it or an ancestor holds. -/
def ofClass (holder asked : ClassId) (m : Member) : Option Thing :=
  let held (kind : String) : Option Thing :=
    some (.item (classNumber kind) ((holderName, .cls holder) :: m.own))
  match m.role with
  | .plain t => some t
  | .function => some (.function m.own)
  | .classFunction => some (.bound (.cls asked) m.own)
  | .property => some (.item (classNumber "property") m.own)
  | .hidden _ => none
  | .wrapper => held "wrapper_descriptor"
  | .method => held "method_descriptor"
  | .classMethod => some (.builtin (.cls asked) m.own)
  | .maker => some (.builtin (.cls holder) m.own)
  | .getset _ => held "getset_descriptor"
  | .cell _ => held "member_descriptor"

/-- What an instance of a class gives for a member of the class or an ancestor. -/
def ofInstance (receiver : Thing) (holder cls : ClassId) (m : Member) : Option Thing :=
  match m.role with
  | .plain t | .hidden t => some t
  | .function => some (.bound receiver m.own)
  | .classFunction => some (.bound (.cls cls) m.own)
  | .property => some (.ofKind "str")
  | .wrapper =>
    some (.item (classNumber "method-wrapper")
      ((receiverName, receiver) :: (holderName, .cls holder) :: m.own))
  | .method => some (.builtin receiver m.own)
  | .classMethod => some (.builtin (.cls cls) m.own)
  | .maker => some (.builtin (.cls holder) m.own)
  | .getset value | .cell value => value

end Member

end SchemaNaming.Plugin
