import SchemaNaming.Plugin.Registry

/-!
Entries of the classes and modules that are there before any plugin, and what an entry stands for
in a registry. Members are listed by how their class serves them and by the class of their value.
-/

namespace SchemaNaming.Plugin.Catalogue

def each (role : Role) (names : List String) : Named Member :=
  names.map (fun name => (name, { role }))

/-- What is known of something, by the name under which it is known. -/
def trait (name : String) : String × Thing :=
  let kind :=
    if name == "__defaults__" || name == "__closure__" then "tuple"
    else if name == "__kwdefaults__" then "dict"
    else if name == "fset" || name == "fdel" then "function"
    else "str"
  (name, .ofKind kind)

def withTraits (traits : List String) (members : Named Member) : Named Member :=
  members.map (fun entry => (entry.1, { entry.2 with own := traits.map trait ++ entry.2.own }))

/-- Without what most have that are served alike. -/
def lacking (names : List String) (members : Named Member) : Named Member :=
  members.map (fun entry =>
    (entry.1, { entry.2 with own := names.map (·, .null) ++ entry.2.own }))

def undocumented : Named Member → Named Member := lacking [docName]

def unsigned : Named Member → Named Member := lacking ["__text_signature__"]

/-- Things by name that are the same for a class and its instances. -/
def things (entries : List (String × Thing)) : Named Member :=
  entries.map (fun entry => (entry.1, Member.ofThing entry.2))

def values (kind : String) (names : List String) : Named Member :=
  each (.plain (.ofKind kind)) names

def nulls : List String → Named Member := values Thing.nullKind

/-- Classes under names of their own. -/
def renamed (names : List (String × String)) : Named Member :=
  things (names.map (fun entry => (entry.1, .cls (classNumber entry.2))))

def namedClasses (names : List String) : Named Member :=
  renamed (names.map (fun name => (name, name)))

def namedModules (names : List (String × String)) : Named Member :=
  things (names.map (fun entry => (entry.1, .module (moduleNumber entry.2))))

/-- A module of which nothing is told but what every module has. -/
def strangeModule : Thing :=
  .item moduleClass (({ name := "", file := some "" } : Module).standing ++ [trait docName])

def strangeModules (names : List String) : Named Member := each (.plain strangeModule) names

def functions (traits names : List String) : Named Member :=
  withTraits traits (each .function names)

def classFunctions (traits names : List String) : Named Member :=
  withTraits traits (each .classFunction names)

def staticFunctions (traits names : List String) : Named Member :=
  each (.plain (.function (traits.map trait))) names

def properties (traits names : List String) : Named Member :=
  withTraits traits (each .property names)

def wrappers : List String → Named Member := each .wrapper

def methods : List String → Named Member := each .method

def classMethods : List String → Named Member := each .classMethod

def makers : List String → Named Member := each .maker

def maker : Named Member := makers ["__new__"]

def getsets (kind : String) (names : List String) : Named Member :=
  each (.getset (some (.ofKind kind))) names

def cells (kind : String) (names : List String) : Named Member :=
  each (.cell (some (.ofKind kind))) names

/-- Where instances keep what is theirs, and who refers to them. -/
def keeping : Named Member := getsets "dict" ["__dict__"] ++ getsets Thing.nullKind ["__weakref__"]

def placed : Named Member := values "str" [placeName]

def documented : Named Member := values "str" [docName]

def abstractMarks : Named Member :=
  values "frozenset" [abstractName] ++ values "_abc_data" ["_abc_impl"]

/-- What stands for a class with parameters, which passes names on to the class. -/
def generic (cls : String) (plain : Thing) : Thing :=
  .item (classNumber cls)
    [("_inst", .ofKind "bool"), trait "_name", (sourceName, plain), ("__slots__", .null),
     ("_nparams", .ofKind "int"), trait docName, trait "__name__", trait "__qualname__"]

/-- A marker of type expressions. -/
def specialForm : Thing :=
  .item (classNumber "_SpecialForm") [trait "__name__", trait "__qualname__"]

/-- What a module has that asks for a feature of a later version. -/
def laterFeature : Thing :=
  .item (classNumber "_Feature")
    [("optional", .ofKind "tuple"), ("mandatory", .null), ("compiler_flag", .ofKind "int")]

/-- A logger below another, with what it has besides. -/
def loggerBelow (cls : String) (parent : Thing) (more : List (String × Thing)) : Thing :=
  .item (classNumber cls)
    ([("filters", .ofKind "list"), trait "name", ("level", .ofKind "int"), ("parent", parent),
      ("propagate", .ofKind "bool"), ("handlers", .ofKind "list"), ("disabled", .ofKind "bool"),
      ("_cache", .ofKind "dict")] ++ more)

def rootLogger : Thing := loggerBelow "RootLogger" .null []

def manager : Thing :=
  .item (classNumber "Manager")
    [("root", rootLogger), ("_disable", .ofKind "int"), ("emittedNoHandlerWarning", .ofKind "bool"),
     ("loggerDict", .ofKind "dict"), ("loggerClass", .null), ("logRecordFactory", .null)]

/-- The logger of a module. Between it and the root stands the logger of the whole library. -/
def logger : Thing :=
  loggerBelow "Logger" (loggerBelow "Logger" rootLogger [("manager", manager)])
    [("manager", manager)]

def ownLogger : Thing := .item (classNumber "NamegenLogger") [("logger", logger)]

structure ClassEntry where
  /-- What the class is listed under. -/
  name : String
  module : String := "builtins"
  /-- Parameters of a constructor of its own. -/
  needs : List String := []
  construction : Except Fault Product :=
    if needs.isEmpty then .ok .plain else .error (.missingArguments (name ++ ".__init__()") needs)
  kind : String := "type"
  slots : List Slot := []
  /-- The classes that it derives from, nearest first, apart from the one of everything. -/
  bases : List String := []
  members : Named Member := []
  /-- Has no room for more than its members. -/
  isFixed : Bool := false
  isSigned : Bool := false
  /-- No class can derive from it. -/
  isFinal : Bool := false
  /-- Refuses instances of classes that derive from it, before any constructor. -/
  makerFault : Option Fault := none

def refused (text : String) : Except Fault Product := .error (.ofType text)

/-- Every construction gives the same instance. -/
def single (name : String) : Except Fault Product := .ok (.existing (classNumber name))

def lacksArguments (callee : String) (parameters : List String) : Except Fault Product :=
  .error (.missingArguments callee parameters)

namespace ClassEntry

def isDocumented (entry : ClassEntry) : Bool :=
  match entry.members.lookup docName with
  | some { role := .plain .null, .. } | none => false
  | some _ => true

def isMarked (entry : ClassEntry) : Bool :=
  match entry.members.lookup abstractName with
  | some { role := .plain _, .. } => true
  | _ => false

def facts (entry : ClassEntry) : Named Thing :=
  (if entry.isDocumented then [trait docName] else []) ++
  (if entry.isFixed then [] else [(typingName, .ofKind "dict")]) ++
  (if entry.isSigned then [trait "__text_signature__"] else []) ++
  (if entry.isMarked then [(abstractName, .ofKind "frozenset")] else []) ++
  (if entry.kind == "EnumType" then [("__members__", .ofKind "mappingproxy")] else [])

def build (entry : ClassEntry) : Class :=
  { name := entry.name
    qualifiedName := entry.name
    module := entry.module
    kind := classNumber entry.kind
    slots := entry.slots
    ancestors :=
      entry.bases.map classNumber ++ (if entry.name == "object" then [] else [objectClass])
    members := entry.members
    facts := entry.facts
    isAbstract := entry.construction matches .error (.abstractClass _)
    isFinal := entry.isFinal
    maker := entry.makerFault.map .error
    refusal := match entry.construction with
      | .ok _ | .error (.abstractClass _) => none
      | .error fault => some fault
    construction := entry.construction }

end ClassEntry

structure ModuleEntry where
  name : String
  isPackage : Bool := false
  members : Named Member := []

def ModuleEntry.build (entry : ModuleEntry) : Module :=
  let path := entry.name.toList.map (fun c => if c == '.' then '/' else c)
  { name := entry.name
    file := some (String.ofList path ++ if entry.isPackage then "/__init__.py" else ".py")
    search := if entry.isPackage then some [] else none
    attributes := entry.members.filterMap (fun m =>
      (m.2.ofClass objectClass objectClass).map (m.1, ·)) }

end SchemaNaming.Plugin.Catalogue
