import SchemaNaming.Schema
import SchemaNaming.Fault
import SchemaNaming.Log.Event

/-!
Generators answer requests for names. A base generator is any behaviour at all: its reply may
depend on every request it has answered before. It may return a value that is no name, raise a
failure, or stop the program, and it may write log records on the way.
-/

namespace SchemaNaming

/-- Reserved names as a caller hands them over. A collection can be gone through again and again, an
iterator only once. -/
inductive Names where
  | collection (names : List String)
  | iterator (names : List String)
  deriving Inhabited

namespace Names

/-- Going through the names gives all of them; an iterator has none left behind that. -/
def read : Names → List String × Names
  | .collection names => (names, .collection names)
  | .iterator names => (names, .iterator [])

end Names

inductive Request where
  | enum (index : Int) (name : Option String) (value : Value) (schema : Schema)
  | type (schema : Schema) (hint : Option String) (reserved : Names)
  | property (name : Option String)
  deriving Inhabited

namespace Request

def slot : Request → Slot
  | .enum .. => .enum
  | .type .. => .type
  | .property _ => .property

def subject : Request → Value
  | .enum _ name value _ =>
    match name with
    | some name => .text name
    | none => value
  | .type schema hint _ =>
    match hint with
    | some hint => if hint.isEmpty then Value.ofText? schema.title else .text hint
    | none => Value.ofText? schema.title
  | .property name => Value.ofText? name

def raw : Request → Option String
  | .enum _ name _ _ => name
  | .type _ hint _ => hint
  | .property name => name

end Request

structure Reply where
  result : Except Failure Value
  records : List Log.Record := []
  deriving Inhabited

namespace Reply

def name (s : String) : Reply := { result := .ok (.text s) }

def fault (f : Fault) : Reply := { result := .error (.of f) }

end Reply

/-- The reply to a request after the requests answered before, oldest first. -/
abbrev Behaviour := List Request → Request → Reply

/-- A base generator with the requests it has answered. -/
structure Base where
  behaviour : Behaviour
  asked : List Request := []

namespace Base

def ask (base : Base) (request : Request) : Reply × Base :=
  (base.behaviour base.asked request, { base with asked := base.asked ++ [request] })

def stateless (reply : Request → Reply) : Base := { behaviour := fun _ => reply }

end Base

/-- The parameters of a class's own method, the receiver first. -/
def methodParameters : Slot → List String
  | .enum => ["self", "index", "name", "value", "schema"]
  | .type => ["self", "schema", "type_name_hint", "reserved_type_names"]
  | .property => ["self", "property"]

/-- A class's own method called with so many arguments of another call, the receiver among them. -/
def methodFault? (owner : String) (slot : Slot) (given : Nat) : Option Fault :=
  Fault.ofCall? (owner ++ ".generate()") (methodParameters slot) [] given

def wrongArguments (owner : String) (expected given : Slot) : Fault :=
  (methodFault? owner expected (methodParameters given).length).getD default

end SchemaNaming
