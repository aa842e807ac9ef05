import SchemaNaming.Plugin.Making
import SchemaNaming.Plugin.Statement

/-!
Import of modules by dotted name. A module is entered in the table before its source executes, so
that a cycle of imports finds it; a source that fails takes its own entry out again and no other.
Executions nest only as deep as the sources ask, and the limit on their depth is beyond that.
-/

namespace SchemaNaming.Plugin

/-- What an import statement leads to. Behind a dotted name the module in front is imported as well,
and each further part is taken from what stands before it. -/
def importNamed (load : String → Run Host ModuleId) (name : String) : Run Host Thing := do
  let id ← load name
  match Descriptor.parts name with
  | [] | [_] => return .module id
  | front :: rest => do
    let first ← load front
    Run.check (rest.foldlM (← registry).importedFrom (.module first))

/-- Imports a submodule if a package lacks its name; there need not be one. -/
def importLacking (load : String → Run Host ModuleId) (id : ModuleId) (name : String) :
    Run Host Unit := do
  let r ← registry
  match ← Run.check (r.attributeOf (.module id) pathName),
      ← Run.check (r.attributeOf (.module id) name) with
  | some _, none => do
    let below := (r.module id).name ++ "." ++ name
    match ← Run.attempt (load below) with
    | .ok _ => return ()
    | .error failure =>
      match failure.fault with
      | .moduleNotFound missing _ => if missing == below then return () else Run.fail failure
      | _ => Run.fail failure
  | _, _ => return ()

def takenFrom (load : String → Run Host ModuleId) (module name : String) : Run Host Thing := do
  let id ← load module
  importLacking load id name
  Run.check ((← registry).importedFrom (.module id) name)

mutual

def runItem (scope : Scope) (body : Named Thing) : Item → Run Host (Named Thing)
  | .cls written d members => do
    let name := Text.normalForm written
    let r ← registry
    let parent ← match d.parent with
      | none => pure none
      | some reference => some <$> Run.check (scope.referent r body reference)
    let (inside, start) := scope.inside r name
    let members ← runBody inside start members
    let id ← addClass (← Run.check (makeClass scope (← registry) name d parent members))
    return [(scope.bound name, .cls id)]
  | .const name thing => return [(scope.bound name, thing)]
  | .func name => return [(scope.bound name, .function [])]
  | .alias name reference => do
    let thing ← Run.check (scope.referent (← registry) body reference)
    return [(scope.bound name, thing)]
  | .load module => do
    let _ ← importNamed scope.load (Text.normalForm module)
    return []
  | .take module name => do
    let thing ← takenFrom scope.load (Text.normalForm module) (Text.normalForm name)
    return [(scope.bound name, thing)]
  | .raise raised => Run.fault (.raised raised)

def runBody (scope : Scope) (body : Named Thing) : List Item → Run Host (Named Thing)
  | [] => return body
  | item :: rest => do
    let bound ← runItem scope body item
    runBody scope (bound.foldl (fun body entry => body.bind entry.1 entry.2) body) rest

end

/-- The items of a module; what they bind is at once an attribute of the module. -/
def runModule (scope : Scope) : List Item → Run Host Unit
  | [] => return ()
  | item :: rest => do
    let bound ← runItem scope [] item
    change (fun r => bound.foldl (fun r entry => r.setAttribute scope.module entry.1 entry.2) r)
    runModule scope rest

def sourceSuffix : String := ".py"
def compiledSuffix : String := ".pyc"
def librarySuffix : String := ".so"

def bytesOf : Content → List UInt8
  | .text s => s.toUTF8.data.toList
  | .binary data => data
  | .source _ => []

/-- The items in the file of a module, given as such or written as a text. What is compiled is
refused for the number that it begins with. -/
def itemsOf (module file : String) (content : Content) : Except Fault (List Item) :=
  let flawed (flaw : Flaw) : Except Fault (List Item) :=
    .error (.syntaxError flaw (Path.baseName file))
  if file.endsWith compiledSuffix then
    .error (.ofImport ("bad magic number in " ++ Text.quoted module ++ ": " ++
      Text.quotedBytes ((bytesOf content).take 4)))
  else
    match content with
    | .source (.items items) => .ok items
    | .source .malformed => flawed {}
    | .text s =>
      match Statement.read s with
      | .ok items => .ok items
      | .error flaw => flawed flaw
    | .binary data => flawed (Statement.flawOfBytes data)

def Execution.of (assembly : Assembly) (place : Location) (content : Content) : Execution :=
  { assembly
    path := Path.ofLocation place
    isDeclared := content matches .source _ }

/-- Executes the file of a module. It is noted when execution begins and when it is complete. -/
def execute (load : String → Run Host ModuleId) (id : ModuleId) (assembly : Assembly)
    (file : String) : Run Host Unit := do
  let h ← Run.get
  match h.files.locate h.base file with
  | .error reason => Run.fault (.file reason file)
  | .ok place =>
    let content := h.files.contentAt place
    match itemsOf assembly.moduleName file content with
    | .error fault => Run.fault fault
    | .ok items => do
      let execution := Execution.of assembly place content
      note (.begun execution)
      runModule { module := id, moduleName := assembly.moduleName, enclosing := [], load } items
      note (.completed execution)

/-- Files that hold libraries of machine code; none of them is one. -/
def libraryFault? (h : Host) (file : String) : Option Fault :=
  if file.endsWith librarySuffix then
    let size := (((h.files.content? h.base file).map bytesOf).getD []).length
    some (.ofImport (file ++ if size < 64 then ": file too short" else ": invalid ELF header"))
  else none

inductive Spec where
  | module (file : String)
  | package (file directory : String)
  /-- A directory without an initial module. -/
  | space (directory : String)
  deriving DecidableEq, Repr

def initialStem : String := "__init__"

def initialFile : String := initialStem ++ sourceSuffix

def suffixes : List String := [".abi3.so", librarySuffix, sourceSuffix, compiledSuffix]

/-- A package wins over a module of the same name, and a module over a mere directory. -/
def specIn? (h : Host) (directory name : String) : Option Spec :=
  let entries := h.files.entries h.base directory
  let package := Path.joined directory name
  let initial (suffix : String) : Option Spec :=
    let file := Path.joined package (initialStem ++ suffix)
    if entries.contains name && h.files.isFile h.base file then some (.package file package)
    else none
  let single (suffix : String) : Option Spec :=
    let file := Path.joined directory (name ++ suffix)
    if entries.contains (name ++ suffix) && h.files.isFile h.base file then some (.module file)
    else none
  let space :=
    if entries.contains name && h.files.isDirectory h.base package then some (.space package)
    else none
  ((suffixes.findSome? initial).or (suffixes.findSome? single)).or space

def Spec.file? : Spec → Option String
  | .module file | .package file _ => some file
  | .space _ => none

def Spec.search? : Spec → Option (List String)
  | .module _ => none
  | .package _ directory | .space directory => some [directory]

def Spec.isSpace : Spec → Bool
  | .space _ => true
  | _ => false

/-- The first place that has the module; mere directories only if no place has it. -/
def findSpec? (h : Host) (directories : List String) (name : String) : Option Spec :=
  let found := directories.filterMap (fun directory => specIn? h directory name)
  (found.find? (fun spec => !spec.isSpace)).or found.head?

/-- Executes the file of a module that has been entered. A failure takes the module out again. -/
def executeEntered (load : String → Run Host ModuleId) (name : String) (id : ModuleId) :
    Option String → Run Host Unit
  | none => return ()
  | some file => do
    let outcome ← Run.attempt (execute load id (.name name) file)
    change (·.conclude id)
    match outcome with
    | .ok () => return ()
    | .error failure => do
      leave name
      Run.fail failure

def bindInParent (id : ModuleId) : Option (ModuleId × String) → Run Host Unit
  | none => return ()
  | some (parentId, last) => change (·.setAttribute parentId last (.module id))

def pendingName : String := "_uninitialized_submodules"

def loadable (h : Host) (parent : Option ModuleId) (spec : Spec) : Except Fault Unit := do
  let stated := parent.bind (fun id => (h.plugins.module id).attributes.lookup specName)
  if let some t := stated.filter Thing.isTrue then
    let _ ← h.plugins.demand t pendingName
  match spec.file?.bind (libraryFault? h) with
  | some fault => .error fault
  | none => return ()

def loadSpec (load : String → Run Host ModuleId) (name : String)
    (parent : Option (ModuleId × String)) (spec : Spec) : Run Host ModuleId := do
  Run.check (loadable (← Run.get) (parent.map (·.1)) spec)
  let id ← addModule
    { name, file := spec.file?, search := spec.search?, isRunning := spec.file?.isSome }
  enter name id
  executeEntered load name id spec.file?
  bindInParent id parent
  return id

/-- Where a module searches for submodules: where its attributes say, if they do. -/
def searchedBy (h : Host) (id : ModuleId) : Except Fault (Option (List String)) := do
  let m := h.plugins.module id
  match m.search, m.attributes.lookup pathName with
  | some places, none => return some places
  | _, _ =>
    match ← h.plugins.attributeOf (.module id) pathName with
    | none => return none
    | some .null => return some h.searchPath
    | some t =>
      match t.elements? with
      | none => .error (.notIterable (h.plugins.kindName t))
      | some vs =>
        let absolute (place : String) : String :=
          if place.isEmpty then Path.ofLocation h.base else place
        return some ((vs.filterMap Value.text?).map absolute)

/-- A module of a mere directory asks the one that it lies in for its places before every search,
given by the parts of its name from the last one on. -/
def spaceFault? (h : Host) : List String → Option Fault
  | [] => none
  | last :: above =>
    let name := Descriptor.dotted (above.reverse ++ [last])
    match h.plugins.table.lookup name with
    | none => some (.ofKey name)
    | some id =>
      match searchedBy h id with
      | .error fault => some fault
      | .ok none => some (.noAttribute (h.plugins.holder (.module id)) pathName)
      | .ok (some _) => if (h.plugins.module id).isSpace then spaceFault? h above else none

def placesFor (h : Host) (id : ModuleId) : Except Fault (Option (List String)) :=
  let m := h.plugins.module id
  let above := (Descriptor.parts m.name).reverse.tail
  match if m.isSpace then spaceFault? h above else none with
  | some fault => .error fault
  | none => searchedBy h id

def placesBelow (id : ModuleId) : Run Host (Option (List String)) := do
  Run.check (placesFor (← Run.get) id)

def importBelow (load : String → Run Host ModuleId) (parents : List String) (last : String)
    (parentId : ModuleId) : Run Host ModuleId := do
  let name := Descriptor.dotted (parents.reverse ++ [last])
  let h ← Run.get
  match h.plugins.table.lookup name with
  | some id => return id
  | none =>
    match ← placesBelow parentId with
    | none => Run.fault (.moduleNotFound name (some (Descriptor.dotted parents.reverse)))
    | some directories =>
      match findSpec? h directories last with
      | some spec => loadSpec load name (some (parentId, last)) spec
      | none => Run.fault (.moduleNotFound name none)

def importParts (load : String → Run Host ModuleId) : List String → Run Host ModuleId
  | [] => Run.fault .emptyModuleName
  | [only] => do
    let h ← Run.get
    match h.plugins.table.lookup only with
    | some id => return id
    | none =>
      match findSpec? h h.searchPath only with
      | some spec => loadSpec load only none spec
      | none => Run.fault (.moduleNotFound only none)
  | last :: parents => do
    let name := Descriptor.dotted (parents.reverse ++ [last])
    match (← registry).table.lookup name with
    | some id => return id
    | none =>
      let parentId ← importParts load parents
      importBelow load parents last parentId

/-- Imports a module by name, with executions nested no deeper than the first argument. -/
def importWithin : Nat → String → Run Host ModuleId
  | 0, _ => Run.fault (.mishap (.nestedTooDeep ""))
  | depth + 1, name =>
    if name.isEmpty then Run.fault .emptyModuleName
    else if name.startsWith "." then Run.fault (.relativeModuleName name)
    else importParts (importWithin depth) (Descriptor.parts name).reverse

/-- Modules under execution have different names, and each but the outermost is on the way to a
module that some source asks for. -/
def depthLimit (h : Host) : Nat := h.files.moduleBound + 2

def importModule (name : String) : Run Host ModuleId := do
  importWithin (depthLimit (← Run.get)) name

end SchemaNaming.Plugin
