import SchemaNaming.Generator.Script
import SchemaNaming.Plugin.ModuleName
import SchemaNaming.Plugin.Thing

/-!
What plugins leave behind: modules, classes and instances, each known by its number; the table of
modules by name; the cache of assemblies by real path; and what has been executed so far. Attributes
of modules, classes and other things are looked up here.
-/

namespace SchemaNaming.Plugin

structure Module where
  name : String
  file : Option String := none
  /-- Where submodules are searched; only packages have a place. -/
  search : Option (List String) := none
  attributes : Named Thing := []
  /-- It was asked for by its name and not by its path. -/
  isNamed : Bool := true
  /-- Its file is under execution since it was asked for by its name. -/
  isRunning : Bool := false
  deriving Inhabited

namespace Module

def text : Thing := .ofKind "str"

def fileThing (m : Module) : Thing := .ofValue (.ofText? m.file)

def loader (m : Module) : Thing :=
  match m.file with
  | some _ => .item (classNumber "SourceFileLoader") [("name", text), ("path", text)]
  | none => .item (classNumber "NamespaceLoader") [("_path", places)]
where
  places : Thing :=
    .item (classNumber "_NamespacePath")
      [("_name", text), ("_path", .ofKind "list"), ("_last_parent_path", .ofKind "tuple"),
       ("_last_epoch", .ofKind "int"), ("_path_finder", .bound (.ofKind "type") [])]

def places (m : Module) : Thing :=
  match m.search, m.file with
  | none, _ => .null
  | some _, none => loader.places
  | some _, some _ => .ofKind "list"

def spec (m : Module) : Thing :=
  let fromFile : Thing := if m.file.isSome then text else .null
  .item (classNumber "ModuleSpec")
    ([("name", text), ("loader", m.loader), ("origin", fromFile), ("loader_state", .null),
      ("submodule_search_locations", m.places), ("_uninitialized_submodules", .ofKind "list"),
      ("_set_fileattr", .ofKind "bool"), ("_cached", fromFile), ("cached", fromFile),
      ("has_location", .ofKind "bool")] ++
    if m.isNamed then [("_initializing", .ofKind "bool")] else [])

/-- What every module has unless its source says otherwise. -/
def standing (m : Module) : Named Thing :=
  [(docName, .null), (titleName, .value (.text m.name)), ("__package__", text),
   ("__loader__", m.loader), ("__spec__", m.spec)] ++
  (if m.file.isSome then
    [("__cached__", text), ("__builtins__", .ofKind "dict")] else []) ++
  [(fileName, m.fileThing)] ++
  (if m.search.isSome then [(pathName, m.places)] else [])

/-- What a module has under a name of its own, or as every module has it. -/
def own? (m : Module) (name : String) : Option Thing :=
  (m.attributes.lookup name).or (m.standing.lookup name)

def title (m : Module) : Thing := (m.own? titleName).getD (.value (.text m.name))

/-- It stands for a mere directory, and nothing else is said of where it searches. -/
def isSpace (m : Module) : Bool :=
  m.file.isNone && m.search.isSome && (m.attributes.lookup pathName).isNone

def isPartial (m : Module) : Bool := m.isRunning && (m.attributes.lookup specName).isNone

end Module

/-- What construction without arguments gives. -/
inductive Product where
  | plain
  /-- An instance of another class. -/
  | other (cls : ClassId)
  /-- An instance of a class that is there already and is handed out again. -/
  | existing (cls : ClassId)
  | generator (g : Generator)
  | pipeline
  | configuration
  deriving Inhabited

inductive Stated where
  /-- The class that it has. -/
  | own
  | other (cls : ClassId)
  | refused (fault : Fault)
  deriving Inhabited

structure Class where
  name : String
  qualifiedName : String
  module : String
  /-- The class that it is an instance of. -/
  kind : ClassId := plainKind
  /-- The contracts it implements by declaration, its own or an ancestor's. -/
  slots : List Slot := []
  /-- Where names are looked up behind the class itself, nearest first. -/
  ancestors : List ClassId := []
  /-- What it holds itself. -/
  members : Named Member := []
  /-- What it has as an instance of its kind. -/
  facts : Named Thing := []
  script : Option Script := none
  /-- A contract's method is missing. -/
  isAbstract : Bool := false
  /-- No class can derive from it. -/
  isFinal : Bool := false
  /-- What makes instances in the place of the usual one, its own or an ancestor's. -/
  maker : Option (Except Fault Product) := none
  /-- Refused constructor calls, as its own or an ancestor's constructor words them. -/
  refusal : Option Fault := none
  construction : Except Fault Product := .ok .plain
  /-- What its instances give as their class. -/
  stated : Stated := .own
  deriving Inhabited

def Class.fullName (c : Class) : String := c.module ++ "." ++ c.qualifiedName

structure Instance where
  cls : ClassId
  /-- Its class hands it out instead of a new one. -/
  isShared : Bool := false
  generator : Option Generator := none
  /-- The class or module that it is, as an instance of its kind. -/
  itself : Option Thing := none
  stated : Stated := .own
  deriving Inhabited

structure Execution where
  assembly : Assembly
  /-- The real path. -/
  path : String
  /-- Its items were given as such and not written as a text. -/
  isDeclared : Bool
  deriving DecidableEq, Repr

inductive ExecutionEvent where
  | begun (execution : Execution)
  /-- Every item has been executed. -/
  | completed (execution : Execution)
  deriving DecidableEq, Repr

structure Registry where
  modules : Array Module := #[]
  classes : Array Class := #[]
  instances : Array Instance := #[]
  /-- What a name stands for in a source that does not bind it. -/
  names : Named Thing := []
  table : Named ModuleId := []
  assemblies : Named ModuleId := []
  /-- Classes that implement a contract by registration. -/
  registered : List (Slot × ClassId) := []
  /-- What calls of functions and their kin give, where that is not nothing, and calls with arguments
  of classes that are there before any plugin. -/
  calls : Thing → List Thing → Option (Except Fault Thing) := fun _ _ => none
  /-- Whether calls give the same thing every time. -/
  repeats : Thing → Option Bool := fun _ => none
  /-- What classes say in the place of a contract about those that do not derive from it. -/
  verdicts : ClassId → Slot → Option (Except Fault Bool) := fun _ _ => none
  /-- Oldest first. -/
  history : List ExecutionEvent := []
  deriving Inhabited

namespace Registry

def executions (r : Registry) : List Execution :=
  r.history.filterMap (fun
    | .begun execution => some execution
    | .completed _ => none)

def module (r : Registry) (id : ModuleId) : Module := r.modules.getD id default

def cls (r : Registry) (id : ClassId) : Class := r.classes.getD id default

def addModule (r : Registry) (m : Module) : ModuleId × Registry :=
  (r.modules.size, { r with modules := r.modules.push m })

def addClass (r : Registry) (c : Class) : ClassId × Registry :=
  (r.classes.size, { r with classes := r.classes.push c })

def addInstance (r : Registry) (i : Instance) : InstanceId × Registry :=
  (r.instances.size, { r with instances := r.instances.push i })

def setAttribute (r : Registry) (id : ModuleId) (name : String) (t : Thing) : Registry :=
  { r with
    modules := r.modules.modify id (fun m => { m with attributes := m.attributes.bind name t }) }

/-- The file of a module has been executed, to the end or not. -/
def conclude (r : Registry) (id : ModuleId) : Registry :=
  { r with modules := r.modules.modify id (fun m => { m with isRunning := false }) }

/-- The member that a class holds under a name, itself or by an ancestor, and its holder. -/
def member? (r : Registry) (id : ClassId) (name : String) : Option (ClassId × Member) :=
  (id :: (r.cls id).ancestors).findSome? (fun holder =>
    ((r.cls holder).members.lookup name).map (holder, ·))

def served? (r : Registry) (receiver : Thing) (cls : ClassId) (name : String) : Option Thing :=
  (r.member? cls name).bind (fun found => found.2.ofInstance receiver found.1 cls)

/-- A fact about a class as an instance of its kind, where the kind holds one under the name. -/
def fact? (r : Registry) (id : ClassId) (name : String) : Option (Option Thing) :=
  let c := r.cls id
  if name == className then some (some (.cls c.kind))
  else if name == baseName then some (some ((c.ancestors.head?.map .cls).getD .null))
  else
    match r.member? c.kind name with
    | some (holder, m) =>
      if m.isFact then some ((c.facts.lookup name).or (m.ofInstance (.cls id) holder c.kind))
      else none
    | none => none

/-- Facts come first, then the members of the class and its ancestors, then those of its kind. -/
def classAttribute? (r : Registry) (id : ClassId) (name : String) : Option Thing :=
  match r.fact? id name with
  | some found => found
  | none =>
    match r.member? id name with
    | some (holder, m) => m.ofClass holder id
    | none => r.served? (.cls id) (r.cls id).kind name

def isSpecialName (name : String) : Bool := name.startsWith "__" && name.endsWith "__"

/-- A bound function passes names on to the function, and the alias of a class all but special
names to that class. -/
def passedOn? (r : Registry) (cls : ClassId) (own : Named Thing) (name : String) : Option Thing :=
  if cls == methodClass then r.served? (.item cls own) functionClass name
  else
    match own.lookup sourceName with
    | some (.cls id) => if isSpecialName name then none else r.classAttribute? id name
    | _ => none

/-- What an instance has of its own comes before what its class gives. -/
def itemAttribute? (r : Registry) (cls : ClassId) (own : Named Thing) (name : String) :
    Option Thing :=
  match own.lookup name with
  | some t => some t
  | none =>
    match r.served? (.item cls own) cls name with
    | some t => some t
    | none => r.passedOn? cls own name

def statedClass? (r : Registry) (cls : ClassId) (own : Named Thing) : Option Thing :=
  match r.member? cls className with
  | some (holder, m) =>
    if holder == objectClass then some (.cls cls) else m.ofInstance (.item cls own) holder cls
  | none => some (.cls cls)

def kindName (r : Registry) : Thing → String
  | .null => Thing.nullKind
  | .value v => v.kindName
  | .item cls _ => (r.cls cls).name
  | .cls id => (r.cls (r.cls id).kind).name
  | .module _ => (r.cls moduleClass).name

def classOf (r : Registry) : Thing → ClassId
  | .null => classNumber Thing.nullKind
  | .value v => classNumber v.kindName
  | .item cls _ => cls
  | .cls id => (r.cls id).kind
  | .module _ => moduleClass

/-- How a thing is described that lacks an attribute. -/
def holder (r : Registry) : Thing → Holder
  | .cls id => .cls (r.cls id).name
  | .module id => .module (r.module id).title.text? (r.module id).isPartial
  | t => .instance (r.kindName t)

def made (cls : ClassId) : Product → Thing
  | .other other => .item other []
  | .existing other => if other == classNumber Thing.nullKind then .null else .item other []
  | .plain | .generator _ | .pipeline | .configuration => .item cls []

/-- What calling a class gives. A class that is there before any plugin takes arguments, which count
for nothing here, and so does what makes instances in the place of the usual one. -/
def callClass (r : Registry) (id : ClassId) (given : Nat) : Except Fault Thing :=
  let c := r.cls id
  match c.construction with
  | .ok product =>
    if given == 0 || id < standingClasses.length || c.maker.isSome then .ok (made id product)
    else .error (.ofType (c.name ++ "() takes no arguments"))
  | .error (.missingArguments callee needs) =>
    match Fault.ofCall? callee needs [] given with
    | some fault => .error fault
    | none => .ok (.item id [])
  | .error fault => .error fault

/-- What a thing gives that is called. A function gives nothing unless the registry says otherwise. -/
def reply (r : Registry) (t : Thing) (arguments : List Thing) : Except Fault Thing :=
  match t with
  | .cls id =>
    let usual := r.callClass id arguments.length
    if arguments.isEmpty || standingClasses.length ≤ id then usual
    else (r.calls t arguments).getD usual
  | .item cls _ =>
    if (r.member? cls callName).isSome then (r.calls t arguments).getD (.ok .null)
    else .error (.notCallable (r.kindName t))
  | _ => .error (.notCallable (r.kindName t))

def call (r : Registry) (t : Thing) (arguments : List Thing) : Except Fault Thing :=
  match r.reply t arguments with
  | .ok t => .ok t
  | .error fault => .error fault.withoutModule

/-- What a hook gives for a name. What it misses is no attribute, and other faults pass. -/
def asked (r : Registry) (hook : Thing) (name : String) : Except Fault (Option Thing) :=
  match r.call hook [.value (.text name)] with
  | .ok t => .ok (some t)
  | .error fault => if fault.isUnattributed then .ok none else .error fault

/-- What a plugin's class holds for its instances under the name of a hook. -/
def hook? (r : Registry) (receiver : Thing) (cls : ClassId) (name : String) :
    Option (Option Thing) :=
  match r.member? cls name with
  | some (holder, m) =>
    if holder < standingClasses.length then none else some (m.ofInstance receiver holder cls)
  | none => none

def askedOf (r : Registry) (hook : Option Thing) (name : String) : Except Fault (Option Thing) :=
  match hook with
  | some hook => r.asked hook name
  | none => .ok none

/-- The attribute of an instance, as the hooks of its class have it. -/
def itemAttribute (r : Registry) (cls : ClassId) (own : Named Thing) (name : String) :
    Except Fault (Option Thing) :=
  let receiver := Thing.item cls own
  let found := match r.hook? receiver cls readerName with
    | some hook => r.askedOf hook name
    | none =>
      .ok (if name == className then r.statedClass? cls own else r.itemAttribute? cls own name)
  match found, r.hook? receiver cls hookName with
  | .ok none, some hook => r.askedOf hook name
  | found, _ => found

def moduleAttribute? (r : Registry) (id : ModuleId) (name : String) : Option Thing :=
  let m := r.module id
  if name == className then some (.cls moduleClass)
  else if name == factsName then some (.ofKind "dict")
  else
    match m.own? name with
    | some t => some t
    | none =>
      if name == typingName then some (.ofKind "dict") else r.served? (.module id) moduleClass name

/-- The attribute of a module. Its hook is asked for a name that it does not have. -/
def moduleAttribute (r : Registry) (id : ModuleId) (name : String) :
    Except Fault (Option Thing) :=
  match r.moduleAttribute? id name, (r.module id).attributes.lookup hookName with
  | none, some hook => r.asked hook name
  | found, _ => .ok found

def attributeOf (r : Registry) (owner : Thing) (name : String) : Except Fault (Option Thing) :=
  match owner with
  | .module id => r.moduleAttribute id name
  | .cls id => .ok (r.classAttribute? id name)
  | .item cls own => r.itemAttribute cls own name
  | .value v => r.itemAttribute (classNumber v.kindName) [] name
  | .null => r.itemAttribute (classNumber Thing.nullKind) [] name

def demand (r : Registry) (owner : Thing) (name : String) : Except Fault Thing := do
  match ← r.attributeOf owner name with
  | some t => return t
  | none => .error (.noAttribute (r.holder owner) name)

def textOf? (r : Registry) (owner : Thing) (name : String) : Option String :=
  match r.attributeOf owner name with
  | .ok (some t) => t.text?
  | _ => none

def importNote (r : Registry) (owner : Thing) (title : Option String) : String :=
  let shown := Text.quoted (title.getD "<unknown module name>")
  match owner with
  | .module id =>
    match ((r.module id).own? fileName).bind Thing.text? with
    | none => shown ++ " (unknown location)"
    | some file =>
      if (r.module id).isPartial then
        "partially initialized module " ++ shown ++ " (most likely due to a circular import) (" ++
          file ++ ")"
      else shown ++ " (" ++ file ++ ")"
  | _ => shown ++ " (unknown location)"

/-- What an import takes from a thing under a name: its attribute, or else the module that the table
has below it. -/
def importedFrom (r : Registry) (owner : Thing) (name : String) : Except Fault Thing := do
  match ← r.attributeOf owner name with
  | some t => return t
  | none =>
    let title := r.textOf? owner titleName
    match title.bind (fun title => r.table.lookup (title ++ "." ++ name)) with
    | some id => return .module id
    | none =>
      .error (.ofImport ("cannot import name " ++ Text.quoted name ++ " from " ++
        r.importNote owner title))

def statedBy (r : Registry) (id : ClassId) : Stated :=
  match r.itemAttribute id [] className with
  | .error fault => .refused fault
  | .ok none => .refused (.noAttribute (.instance (r.cls id).name) className)
  | .ok (some (.cls other)) => if other == id then .own else .other other
  | .ok (some _) => .refused (.ofType "issubclass() arg 1 must be a class")

/-- The slots whose contracts a class implements by derivation or by the registration of a class
that it derives from. -/
def ownSlots (r : Registry) (id : ClassId) : List Slot :=
  let c := r.cls id
  Slot.all.filter (fun slot => c.slots.contains slot ||
    (id :: c.ancestors).any (fun ancestor => r.registered.contains (slot, ancestor)))

def widened (r : Registry) (slots : List Slot) : List Slot :=
  Slot.all.filter (fun slot => slots.contains slot ||
    slots.any (fun other => r.registered.contains (slot, contractClass other)))

/-- Whether instances of a class count as implementations of a slot's contract. A chain of registered
contracts has no more links than there are slots. -/
def implements (r : Registry) (id : ClassId) (slot : Slot) : Bool :=
  (r.widened (r.widened (r.ownSlots id))).contains slot

/-- The verdict on a class. A class that derives from the contract itself is never in question. -/
def verdict (r : Registry) (id : ClassId) (slot : Slot) : Except Fault Bool :=
  if (r.cls id).slots.contains slot then .ok true
  else (r.verdicts id slot).getD (.ok (r.implements id slot))

/-- The verdict on an instance: on the class that it gives as its own, or else on the one it has. -/
def isInstance (r : Registry) (id : InstanceId) (slot : Slot) : Except Fault Bool :=
  let i := r.instances.getD id default
  match i.stated with
  | .own => r.verdict i.cls slot
  | .refused fault => .error fault
  | .other cls =>
    match r.verdict cls slot with
    | .ok false => r.verdict i.cls slot
    | verdict => verdict

def isGenerator (r : Registry) (id : InstanceId) (slot : Slot) : Bool :=
  match r.isInstance id slot with
  | .ok verdict => verdict
  | .error _ => false

end Registry

end SchemaNaming.Plugin
