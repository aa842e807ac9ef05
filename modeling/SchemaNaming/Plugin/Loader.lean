import SchemaNaming.Config.Load
import SchemaNaming.Pipeline.Basic
import SchemaNaming.Plugin.Import
import SchemaNaming.Plugin.ModuleName

/-!
Resolution of descriptors to classes and instances. An assembly given by a path is executed once and
remembered by its real path; one given by a name goes through the import of modules. Without an
assembly the longest dotted front of the type name that is a module provides the type.
-/

namespace SchemaNaming.Plugin
open Text

def loaderLogger : String := "namegen.runtime.loader"

def emitLoaded (assembly module : String) : Run Host Unit :=
  Host.emit ((Log.Event.assemblyLoaded assembly module).record loaderLogger)

/-- A leading tilde stands for the home directory of the account named behind it, or of the user. -/
def expandHome (h : Host) (path : String) : String :=
  match path.toList with
  | '~' :: cs =>
    let account := cs.takeWhile (· != '/')
    match h.home? (String.ofList account) with
    | some home =>
      let whole := trimRight (· == '/') home.toList ++ cs.drop account.length
      if whole.isEmpty then "/" else String.ofList whole
    | none => path
  | _ => path

def looksLikePath (h : Host) (assembly : String) : Bool :=
  assembly.endsWith sourceSuffix || assembly.toList.contains '/' ||
    (!Host.hasNull assembly && h.files.isDirectory h.base assembly)

def realPathOf (h : Host) (assembly : String) : String :=
  Path.ofLocation (h.files.realPath h.base (expandHome h assembly))

def isLoadable (file : String) : Bool :=
  [librarySuffix, sourceSuffix, compiledSuffix].any (file.endsWith ·)

def locationOf (h : Host) (path : String) : Except AssemblyReason (String × Option (List String)) :=
  if h.files.isDirectory [] path then
    let initial := Path.joined path initialFile
    if h.files.isFile [] initial then .ok (initial, some [path]) else .error .notPackage
  else if h.files.isFile [] path then
    if isLoadable path then .ok (path, none) else .error .notLoadable
  else .error .fileMissing

/-- What follows the execution of an assembly's file: the cache takes it up, or its module leaves
the table. A module that stops the program stays in the table. -/
def concludeAssembly (path assembly descriptor : String) (id : ModuleId) :
    Except Failure Unit → Run Host ModuleId
  | .error failure =>
    if failure.isStop then Run.fail failure
    else do
      leave (Assembly.path path).moduleName
      Run.fail (.because
        (.assemblyLoad descriptor assembly (.executionFailed failure.message)) failure)
  | .ok () => do
    change (fun r => { r with assemblies := r.assemblies.bind path id })
    emitLoaded assembly (Assembly.path path).moduleName
    return id

def executeAssembly (path assembly descriptor file : String) (search : Option (List String)) :
    Run Host ModuleId := do
  let name := (Assembly.path path).moduleName
  let id ← addModule { name, file := some file, search, isNamed := false }
  enter name id
  let h ← Run.get
  let outcome ← Run.attempt (execute (importWithin (depthLimit h)) id (.path path) file)
  concludeAssembly path assembly descriptor id outcome

def loadFromPath (assembly descriptor : String) : Run Host ModuleId := do
  let h ← Run.get
  if Host.hasNull assembly then Run.fault .nullInPath
  else
    let path := realPathOf h assembly
    match h.plugins.assemblies.lookup path with
    | some id => return id
    | none =>
      match locationOf h path with
      | .error reason => Run.fault (.assemblyLoad descriptor assembly reason)
      | .ok (file, search) =>
        match libraryFault? h file with
        | some fault => Run.fault fault
        | none => executeAssembly path assembly descriptor file search

def loadByName (assembly descriptor : String) : Run Host ModuleId := do
  match (← registry).table.lookup assembly with
  | some id => return id
  | none =>
    let id ← Run.wrapping
      (fun failure => .assemblyLoad descriptor assembly
        (if failure.fault.isImporting then .notFound failure.message
         else .importFailed assembly failure.message))
      (importModule assembly)
    let shown ← Run.check ((← registry).module id).title.written
    emitLoaded assembly shown
    return id

/-- Loads an assembly by path or by name. The descriptor is what faults report; an empty one gives
way to the assembly. -/
def loadAssembly (assembly descriptor : String) : Run Host ModuleId := do
  let descriptor := if descriptor.isEmpty then assembly else descriptor
  if looksLikePath (← Run.get) assembly then loadFromPath assembly descriptor
  else loadByName assembly descriptor

def stemOf (file : String) : String :=
  let base := Path.baseName file
  Path.stem (if base == initialFile then Path.baseName (Path.directory file) else base)

/-- The stem of what a module holds as its file, as a text or as bytes. What counts as false is no
file; of other texts than values nothing is told. -/
def stemAlias (r : Registry) : Thing → Except Fault (Option Thing)
  | .null => .ok none
  | .value (.text file) => .ok (if file.isEmpty then none else some (.value (.text (stemOf file))))
  | .value (.bytes data) => .ok (if data.isEmpty then none else some (.value (.bytes data)))
  | .value v => if v.isTrue then .error (.notPath v.shortKindName) else .ok none
  | t =>
    match r.kindName t with
    | "str" => .ok none
    | "bytes" => .ok (some t)
    | kind => .error (.notPath kind)

def aliases (r : Registry) (m : Module) : Except Fault (List Thing) := do
  let stem ← stemAlias r ((m.own? fileName).getD .null)
  return m.title :: stem.toList

def splitName : String := "split"

/-- The dotted parts of an alias, if they are known. What is no text may have parts of its own. -/
def aliasParts (r : Registry) (name : Thing) : Except Fault (Option (List String)) := do
  match name.text? with
  | some text => return some (Descriptor.parts text)
  | none =>
    let split ← r.demand name splitName
    match r.kindName name with
    | "bytes" => .error (.mishap .notSearchable)
    | "str" => return none
    | _ =>
      match ← r.call split [.value (.text ".")] with
      | .value (.list vs) => return vs.mapM Value.text?
      | t =>
        if t.elements?.isSome then return none
        else .error (.ofType ("object of type '" ++ r.kindName t ++ "' has no len()"))

/-- What remains of a type name behind the first alias that is a proper front of it. -/
def withoutAlias (r : Registry) (parts : List String) : List Thing → Except Fault (List String)
  | [] => .ok parts
  | name :: rest => do
    let front := (← aliasParts r name).getD parts
    if front.length < parts.length && parts.take front.length == front then
      return parts.drop front.length
    else withoutAlias r parts rest

/-- The path of attributes that a type name denotes inside a module. -/
def relativePath (r : Registry) (id : ModuleId) (typeName : String) : Except Fault (List String) :=
  let parts := Descriptor.parts typeName
  match parts with
  | [] | [_] => .ok parts
  | first :: _ => do
    match ← r.moduleAttribute id first with
    | some _ => return parts
    | none => withoutAlias r parts (← aliases r (r.module id))

/-- Whether a missing module means that the name denotes no module: its own name or a front of it
is missing, not a module that it imports. -/
def isAbsence (module : String) (fault : Fault) : Bool :=
  match fault with
  | .moduleNotFound missing _ => module == missing || (missing ++ ".").isPrefixOf module
  | _ => false

def importIfPresent (module descriptor : String) : Run Host (Option ModuleId) := do
  match ← Run.attempt (importModule module) with
  | .ok id => return some id
  | .error failure =>
    if failure.isStop then Run.fail failure
    else if isAbsence module failure.fault then return none
    else Run.fail (.because
      (.assemblyLoad descriptor module (.importFailed module failure.message)) failure)

/-- The first module among ever shorter fronts of a type name, given in reverse, and the rest of
the name. -/
def findModule (d : Descriptor) : List String → List String → Run Host (ModuleId × List String)
  | [], _ => Run.fault (.typeNotFound d.text d.typeName .noModule)
  | last :: front, rest => do
    let name := Descriptor.dotted (front.reverse ++ [last])
    let found ← match (← registry).table.lookup name with
      | some id => pure (some id)
      | none => importIfPresent name d.text
    match found with
    | some id => return (id, rest)
    | none => findModule d front (last :: rest)

def findLoadedModule (d : Descriptor) : Run Host (ModuleId × List String) :=
  match (Descriptor.parts d.typeName).reverse with
  | [] => Run.fault (.typeNotFound d.text d.typeName .noModule)
  | last :: front => findModule d front [last]

/-- Follows a path of attributes; a missing or null one ends it. -/
def walkAttributes (r : Registry) (owner : Thing) : List String → Except Fault (Option Thing)
  | [] => .ok (some owner)
  | name :: rest => do
    match ← r.attributeOf owner name with
    | none | some .null => return none
    | some next => walkAttributes r next rest

def placeOf (d : Descriptor) : Run Host (ModuleId × List String) := do
  match d.assembly with
  | some assembly => do
    let id ← loadAssembly assembly d.text
    let path ← Run.check (relativePath (← registry) id d.typeName)
    return (id, path)
  | none => findLoadedModule d

def typeOf (d : Descriptor) : Run Host ClassId := do
  let (id, path) ← placeOf d
  let r ← registry
  match ← Run.check (walkAttributes r (.module id) path) with
  | none => do
    let shown ← Run.check (r.module id).title.written
    Run.fault (.typeNotFound d.text d.typeName (.notInModule shown))
  | some (.cls cls) => return cls
  | some _ => Run.fault (.typeNotFound d.text d.typeName .notClass)

/-- What a constructor does besides making an instance. -/
def construct (product : Product) : Run Host Unit :=
  match product with
  | .pipeline => do
    let _ ← Pipeline.standard
    return ()
  | .configuration => do
    let _ ← Config.read none
    return ()
  | .plain | .other _ | .existing _ | .generator _ => return ()

def Product.instance (r : Registry) (cls : ClassId) : Product → Instance
  | .existing kind => { cls := kind, isShared := true, stated := (r.cls kind).stated }
  | .other kind => { cls := kind, stated := (r.cls kind).stated }
  | .generator g => { cls, generator := some g, stated := (r.cls cls).stated }
  | .plain | .pipeline | .configuration => { cls, stated := (r.cls cls).stated }

/-- An instance that a class hands out again and again, if it has done so before. -/
def Registry.shared? (r : Registry) : Product → Option InstanceId
  | .existing kind => r.instances.findIdx? (fun i => i.isShared && i.cls == kind)
  | _ => none

def newInstance (cls : ClassId) : Run Host InstanceId := do
  let r ← registry
  match (r.cls cls).construction with
  | .error fault => Run.fault fault
  | .ok product =>
    match r.shared? product with
    | some id => return id
    | none => do
      construct product
      addInstance (product.instance r cls)

def instantiate (d : Descriptor) (cls : ClassId) : Run Host InstanceId :=
  Run.wrapping
    (fun failure => .instantiation d.text d.typeName (.constructionFailed failure.message))
    (newInstance cls)

def descriptorOf (v : Value) : Run Host Descriptor := Run.check (Descriptor.ofValue v)

def resolveType (descriptor : Value) : Run Host ClassId := do
  typeOf (← descriptorOf descriptor)

def createInstance (descriptor : Value) : Run Host InstanceId := do
  let d ← descriptorOf descriptor
  instantiate d (← typeOf d)

def resolve (descriptor : Value) (slot : Slot) : Run Host InstanceId := do
  let d ← descriptorOf descriptor
  let id ← instantiate d (← typeOf d)
  if ← Run.check ((← registry).isInstance id slot) then return id
  else Run.fault (.interfaceMismatch d.text d.typeName slot.contractName)

end SchemaNaming.Plugin
