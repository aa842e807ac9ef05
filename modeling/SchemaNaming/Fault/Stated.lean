import SchemaNaming.Fault

/-!
The library's own faults as they are stated by name from loose values. Values that do not fit the
parameters of a kind are refused, and so are values that cannot be written and a message that is no
text and has no details to follow it. A reason that counts as false is left out.
-/

namespace SchemaNaming

inductive FaultKind where
  | general | naming | plugin | assemblyLoad | typeNotFound | instantiation | interfaceMismatch
  | pipelineState
  deriving DecidableEq, Repr

namespace FaultKind

def all : List FaultKind :=
  [.general, .naming, .plugin, .assemblyLoad, .typeNotFound, .instantiation, .interfaceMismatch,
   .pipelineState]

def name : FaultKind → String
  | .general => "NamegenError"
  | .naming => "NamingError"
  | .plugin => "PluginError"
  | .assemblyLoad => "AssemblyLoadError"
  | .typeNotFound => "TypeNotFoundError"
  | .instantiation => "InstantiationError"
  | .interfaceMismatch => "InterfaceMismatchError"
  | .pipelineState => "PipelineStateError"

def ofName? (s : String) : Option FaultKind := all.find? (fun kind => kind.name == s)

theorem ofName?_name_self (kind : FaultKind) : ofName? kind.name = some kind := by
  cases kind <;> decide

def required : FaultKind → List String
  | .general | .pipelineState => ["message"]
  | .naming => ["slot", "value"]
  | .plugin => ["descriptor"]
  | .assemblyLoad => ["descriptor", "assembly"]
  | .typeNotFound | .instantiation => ["descriptor", "type_name"]
  | .interfaceMismatch => ["descriptor", "type_name", "contract"]

def optional : FaultKind → List String
  | .general => ["details"]
  | .pipelineState => ["slot"]
  | .interfaceMismatch => []
  | .naming | .plugin | .assemblyLoad | .typeNotFound | .instantiation => ["reason"]

end FaultKind

def SlotLabel.ofValue (v : Value) : SlotLabel :=
  match v.text?.bind Slot.ofName? with
  | some s => .slot s
  | none => .other v

namespace Fault

/-- A reason that is given and counts as true. -/
def reasonOf : Option Value → String
  | some v => if v.isTrue then v.display else ""
  | none => ""

/-- Details that are given have to be a mapping, unless they count as false. -/
def detailsOf : Option Value → Except Fault (List (String × String))
  | some (.dict entries) => .ok (entries.map (fun e => (e.1.display, e.2.display)))
  | some v => if v.isTrue then .error (.noAttribute (.instance v.kindName) "items") else .ok []
  | none => .ok []

/-- Only details make a text of a message that is none. -/
def withMessage (message : Value) (fault : Fault) : Except Fault Fault :=
  match message.text?, fault.details with
  | none, [] => .error (.mishap (.notMessage message.kindName))
  | _, _ => .ok fault

/-- The values that a fault of a kind writes out. A message without details is given as it is. -/
def written (kind : FaultKind) (values : List Value) : List Value :=
  match kind, values.getD 1 .null with
  | .general, .dict (_ :: _) => values
  | .general, _ | .pipelineState, .null => []
  | _, _ => values

def stated (kind : FaultKind) (values : List Value) : Except Fault Fault := do
  let callee := kind.name ++ ".__init__()"
  -- The fault under construction is an argument itself.
  let fault? := ofCall? callee ("self" :: kind.required) kind.optional (values.length + 1)
  if let some fault := fault? then .error fault
  if (written kind values).any (·.hasLongInteger) then .error (.mishap .digitLimit)
  let first := values.getD 0 .null
  let second := values.getD 1 .null
  let third := values[2]?
  match kind with
  | .general =>
    let details ← detailsOf values[1]?
    withMessage first (.general first.display details)
  | .naming => .ok (.naming (.ofValue first) second (reasonOf third))
  | .plugin => .ok (.plugin first.display (reasonOf values[1]?))
  | .assemblyLoad => .ok (.assemblyLoad first.display second.display (.stated (reasonOf third)))
  | .typeNotFound => .ok (.typeNotFound first.display second.display (.stated (reasonOf third)))
  | .instantiation => .ok (.instantiation first.display second.display (.stated (reasonOf third)))
  | .interfaceMismatch =>
    .ok (.interfaceMismatch first.display second.display (third.getD .null).display)
  | .pipelineState =>
    match second with
    | .null => withMessage first (.pipelineState first.display none)
    | slot => withMessage first (.pipelineState first.display (some slot.display))

end Fault

end SchemaNaming
