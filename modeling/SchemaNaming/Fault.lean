import SchemaNaming.Slot
import SchemaNaming.Value.Printer

/-!
What can go wrong, as causes. Each fault has one message and, for the faults of naming and plugin
resolution, named details that follow the message. A failure is a fault together with the faults it
was raised from, nearest first.
-/

namespace SchemaNaming

/-- How an exception of plugin code is treated by those who handle exceptions. -/
inductive RaisedKind where
  | ordinary
  /-- Its text is the missing key and is shown quoted. -/
  | missingKey
  | importing
  /-- Asks to stop the program and is handled by nobody. -/
  | stop
  deriving DecidableEq, Repr, Inhabited

structure Raised where
  name : String
  kind : RaisedKind
  text : String
  deriving DecidableEq, Repr, Inhabited

/-- The slot a naming fault reports: a slot, or whatever a plugin reported instead. -/
inductive SlotLabel where
  | slot (slot : Slot)
  | other (label : Value)
  deriving Inhabited

def SlotLabel.display : SlotLabel → String
  | .slot s => s.name
  | .other v => v.display

def SlotLabel.isLong : SlotLabel → Bool
  | .slot _ => false
  | .other v => v.hasLongInteger

inductive AssemblyReason where
  | notPackage
  | fileMissing
  | notLoadable
  | executionFailed (why : String)
  | notFound (why : String)
  /-- The module that failed need not be the assembly that was asked for. -/
  | importFailed (module : String) (why : String)
  | stated (text : String)
  deriving DecidableEq, Repr

def AssemblyReason.text (assembly : String) : AssemblyReason → String
  | .notPackage => "'" ++ assembly ++ "' is not a Python package"
  | .fileMissing => "assembly file '" ++ assembly ++ "' not found"
  | .notLoadable => "'" ++ assembly ++ "' is not a loadable Python module"
  | .executionFailed why => "failed to execute '" ++ assembly ++ "': " ++ why
  | .notFound why => "assembly '" ++ assembly ++ "' not found: " ++ why
  | .importFailed module why => "failed to import '" ++ module ++ "': " ++ why
  | .stated text =>
    if text.isEmpty then "assembly '" ++ assembly ++ "' could not be loaded" else text

inductive TypeReason where
  | emptyDescriptor
  | emptyAssembly
  | emptyTypeName
  | malformedTypeName
  | notInModule (module : String)
  | notClass
  | noModule
  | stated (text : String)
  deriving DecidableEq, Repr

def TypeReason.text (typeName : String) : TypeReason → String
  | .emptyDescriptor => "empty type descriptor"
  | .emptyAssembly => "descriptor has an empty assembly name"
  | .emptyTypeName => "descriptor has an empty type name"
  | .malformedTypeName => "malformed type name"
  | .notInModule module => "type '" ++ typeName ++ "' not found in module '" ++ module ++ "'"
  | .notClass => "'" ++ typeName ++ "' is not a class"
  | .noModule => "no loaded or importable module provides '" ++ typeName ++ "'"
  | .stated text => if text.isEmpty then "type '" ++ typeName ++ "' not found" else text

inductive InstanceReason where
  | constructionFailed (why : String)
  | stated (text : String)
  deriving DecidableEq, Repr

def InstanceReason.text (typeName : String) : InstanceReason → String
  | .constructionFailed why =>
    "type '" ++ typeName ++ "' could not be instantiated without arguments: " ++ why
  | .stated text =>
    if text.isEmpty then "type '" ++ typeName ++ "' could not be instantiated" else text

inductive FileReason where
  | missing
  | notDirectory
  | isDirectory
  | tooManyLinks
  | nameTooLong
  deriving DecidableEq, Repr

def FileReason.text : FileReason → String
  | .missing => "[Errno 2] No such file or directory"
  | .notDirectory => "[Errno 20] Not a directory"
  | .isDirectory => "[Errno 21] Is a directory"
  | .tooManyLinks => "[Errno 40] Too many levels of symbolic links"
  | .nameTooLong => "[Errno 36] File name too long"

/-- What goes wrong inside a rule that takes its input as it comes. -/
inductive Mishap where
  /-- An integer whose decimal text would be too long. -/
  | digitLimit
  /-- A number that ends before its first digit. -/
  | emptyNumeral
  /-- A word that is no truth value. -/
  | notTruth (word : String)
  /-- No text where a pattern is looked for. -/
  | notMatchable (kind : String)
  | codePointTooLarge
  | integerTooLarge
  /-- Something other than a text to put in the place of another. -/
  | notReplacement (kind : String)
  /-- Bytes to be searched for a text. -/
  | notSearchable
  /-- A message that is no text. -/
  | notMessage (kind : String)
  | notSerializable (kind : String)
  | notKey (kind : String)
  | circular
  /-- A class that would derive from itself. -/
  | inheritanceCycle
  /-- Nesting beyond any limit, and in what. -/
  | nestedTooDeep (place : String)
  deriving DecidableEq, Repr

def Mishap.text : Mishap → String
  | .digitLimit =>
    "Exceeds the limit (4300 digits) for integer string conversion; " ++
      "use sys.set_int_max_str_digits() to increase the limit"
  | .emptyNumeral => "string index out of range"
  | .notTruth word => Text.quoted word
  | .notMatchable kind => "expected string or bytes-like object, got '" ++ kind ++ "'"
  | .codePointTooLarge => "Python int too large to convert to C int"
  | .integerTooLarge => "int too large to convert to float"
  | .notReplacement kind => "replace() argument 2 must be str, not " ++ kind
  | .notSearchable => "a bytes-like object is required, not 'str'"
  | .notMessage kind => "__str__ returned non-string (type " ++ kind ++ ")"
  | .notSerializable kind => "Object of type " ++ kind ++ " is not JSON serializable"
  | .notKey kind => "keys must be str, int, float, bool or None, not " ++ kind
  | .circular => "Circular reference detected"
  | .inheritanceCycle => "Refusing to create an inheritance cycle"
  | .nestedTooDeep place => "maximum recursion depth exceeded" ++ place

inductive SyntaxReason where
  | invalid
  | nullByte
  /-- A byte that begins no character, and how many bytes of its word stand before it. -/
  | undecodable (byte position : Nat)
  | neverClosed (bracket : Char)
  /-- A literal text without an end, and the line where that shows. -/
  | unterminated (isTriple : Bool) (last : Nat)
  | unexpectedIndent
  | unmatchedDedent
  /-- A class on a line and nothing below it. -/
  | missingBlock (line : Nat)
  deriving DecidableEq, Repr

def SyntaxReason.text : SyntaxReason → String
  | .invalid => "invalid syntax"
  | .nullByte => "source code string cannot contain null bytes"
  | .undecodable byte position =>
    "(unicode error) 'utf-8' codec can't decode byte 0x" ++ String.ofList (Text.hexDigits 2 byte) ++
      " in position " ++ toString position ++ ": " ++
      if 0xc2 ≤ byte && byte ≤ 0xf4 then "unexpected end of data" else "invalid start byte"
  | .neverClosed bracket => "'" ++ bracket.toString ++ "' was never closed"
  | .unterminated isTriple last =>
    "unterminated " ++ (if isTriple then "triple-quoted " else "") ++
      "string literal (detected at line " ++ toString last ++ ")"
  | .unexpectedIndent => "unexpected indent"
  | .unmatchedDedent => "unindent does not match any outer indentation level"
  | .missingBlock line =>
    "expected an indented block after class definition on line " ++ toString line

/-- Where and why a text is no source. -/
structure Flaw where
  reason : SyntaxReason := .invalid
  line : Nat := 1
  deriving DecidableEq, Repr, Inhabited

inductive ClassReason where
  /-- Something of a kind stands where a class to derive from is expected, and is asked to make one
  from a name, bases and members. -/
  | notClass (kind : String)
  | finalBase (name : String)
  | repeatedBase (name : String)
  /-- A qualified name that is no text. -/
  | notName (kind : String)
  /-- A reserved place whose name is no text, no name at all, or bound to something. -/
  | placeNotText (kind : String)
  | placeNotName
  | placeBound (name : String)
  deriving DecidableEq, Repr

def ClassReason.text : ClassReason → String
  | .notClass kind =>
    if kind == "NoneType" then "NoneType takes no arguments"
    else if kind == "ellipsis" then "EllipsisType takes no arguments"
    else if kind == "function" then "function() argument 'code' must be code, not str"
    else if kind == "method" then "method expected 2 arguments, got 3"
    else if ["wrapper", "descriptor", "or_method"].any (kind.endsWith ·) then
      "cannot create '" ++ kind ++ "' instances"
    else if ["str", "bytes"].contains kind then
      kind ++ "() argument 'encoding' must be str, not tuple"
    else if ["int", "complex", "module"].contains kind then
      kind ++ "() takes at most 2 arguments (3 given)"
    else kind ++ " expected at most 1 argument, got 3"
  | .finalBase name => "type '" ++ name ++ "' is not an acceptable base type"
  | .repeatedBase name => "duplicate base class " ++ name
  | .notName kind => "type __qualname__ must be a str, not " ++ kind
  | .placeNotText kind => "__slots__ items must be strings, not '" ++ kind ++ "'"
  | .placeNotName => "__slots__ must be identifiers"
  | .placeBound name => Text.quoted name ++ " in __slots__ conflicts with class variable"

/-- What is asked for an attribute. -/
inductive Holder where
  | instance (kind : String)
  | cls (name : String)
  /-- A module whose name may be no text, and whose file may not have been executed to the end. -/
  | module (name : Option String) (isRunning : Bool)
  deriving DecidableEq, Repr

def Holder.text : Holder → String
  | .instance kind => "'" ++ kind ++ "' object"
  | .cls name => "type object '" ++ name ++ "'"
  | .module none _ => "module"
  | .module (some name) isRunning =>
    (if isRunning then "partially initialized module '" else "module '") ++ name ++ "'"

/-- What is said behind the name of an attribute that is not there. -/
def Holder.note : Holder → String
  | .module (some _) true => " (most likely due to a circular import)"
  | _ => ""

inductive Fault where
  | general (text : String) (details : List (String × String))
  | naming (slot : SlotLabel) (subject : Value) (reason : String)
  | plugin (descriptor reason : String)
  | assemblyLoad (descriptor assembly : String) (reason : AssemblyReason)
  | typeNotFound (descriptor typeName : String) (reason : TypeReason)
  | instantiation (descriptor typeName : String) (reason : InstanceReason)
  | interfaceMismatch (descriptor typeName contract : String)
  | pipelineState (text : String) (slot : Option String)
  /-- Import by name found nothing; 'parent' is set when the parent is no package. -/
  | moduleNotFound (module : String) (parent : Option String)
  | emptyModuleName
  | relativeModuleName (module : String)
  | syntaxError (flaw : Flaw) (file : String)
  | undefinedName (name : String)
  | badClass (reason : ClassReason)
  | abstractClass (name : String)
  | missingArguments (callee : String) (parameters : List String)
  /-- More arguments than a callee takes, which is a number in a range. -/
  | surplusArguments (callee : String) (least most given : Nat)
  | noAttribute (holder : Holder) (name : String)
  | notCallable (kind : String)
  | notIterable (kind : String)
  | notPath (kind : String)
  | nullInPath
  | file (reason : FileReason) (path : String)
  | emptySeparator
  | badSlot (shown : String)
  /-- A level of the log that is a text and no level. -/
  | unknownLevel (text : String)
  /-- A level of the log that is neither number nor text. -/
  | badLevel (shown : String)
  | notAttributeName (kind : String)
  | mishap (mishap : Mishap)
  | raised (raised : Raised)
  deriving Inhabited

def enumerateRest : List String → String
  | [] => ""
  | [a] => "and " ++ a
  | a :: rest => a ++ ", " ++ enumerateRest rest

def enumerate : List String → String
  | [] => ""
  | [a] => a
  | [a, b] => a ++ " and " ++ b
  | a :: rest => a ++ ", " ++ enumerateRest rest

namespace Fault

def pluginText (descriptor reason : String) : String :=
  let head := "Cannot resolve generator type '" ++ descriptor ++ "'"
  if reason.isEmpty then head else head ++ ": " ++ reason

/-- The message without the details. -/
def text : Fault → String
  | .general text _ => text
  | .naming slot subject reason =>
    let head := slot.display ++ " name generation failed for " ++ subject.shown
    if reason.isEmpty then head else head ++ ": " ++ reason
  | .plugin descriptor reason => pluginText descriptor reason
  | .assemblyLoad descriptor assembly reason => pluginText descriptor (reason.text assembly)
  | .typeNotFound descriptor typeName reason => pluginText descriptor (reason.text typeName)
  | .instantiation descriptor typeName reason => pluginText descriptor (reason.text typeName)
  | .interfaceMismatch descriptor typeName contract =>
    pluginText descriptor ("type '" ++ typeName ++ "' does not implement " ++ contract)
  | .pipelineState text _ => text
  | .moduleNotFound module none => "No module named " ++ Text.quoted module
  | .moduleNotFound module (some parent) =>
    "No module named " ++ Text.quoted module ++ "; " ++ Text.quoted parent ++ " is not a package"
  | .emptyModuleName => "Empty module name"
  | .relativeModuleName module =>
    "the 'package' argument is required to perform a relative import for " ++ Text.quoted module
  | .syntaxError flaw name =>
    if flaw.reason = .nullByte then flaw.reason.text
    else flaw.reason.text ++ " (" ++ name ++ ", line " ++ toString flaw.line ++ ")"
  | .undefinedName name => "name '" ++ name ++ "' is not defined"
  | .badClass reason => reason.text
  | .abstractClass name =>
    "Can't instantiate abstract class " ++ name ++ " with abstract method generate"
  | .missingArguments callee parameters =>
    let noun := if parameters.length == 1 then "argument" else "arguments"
    callee ++ " missing " ++ toString parameters.length ++ " required positional " ++ noun ++ ": " ++
      enumerate (parameters.map Text.quoted)
  | .surplusArguments callee least most given =>
    let taken := if least == most then toString most
      else "from " ++ toString least ++ " to " ++ toString most
    let noun := if least == 1 && most == 1 then "argument" else "arguments"
    callee ++ " takes " ++ taken ++ " positional " ++ noun ++ " but " ++ toString given ++
      " were given"
  | .noAttribute holder name => holder.text ++ " has no attribute '" ++ name ++ "'" ++ holder.note
  | .notIterable kind => "'" ++ kind ++ "' object is not iterable"
  | .notCallable kind => "'" ++ kind ++ "' object is not callable"
  | .notPath kind => "expected str, bytes or os.PathLike object, not " ++ kind
  | .nullInPath => "embedded null byte"
  | .file reason path => reason.text ++ ": " ++ Text.quoted path
  | .emptySeparator => "empty separator"
  | .badSlot shown => shown ++ " is not a valid GeneratorSlot"
  | .unknownLevel text => "Unknown level: " ++ Text.quoted text
  | .badLevel shown => "Level not an integer or a valid string: " ++ shown
  | .notAttributeName kind => "attribute name must be string, not '" ++ kind ++ "'"
  | .mishap m => m.text
  | .raised r => if r.kind = .missingKey then Text.quoted r.text else r.text

/-- The fault of a call with so many arguments, if they do not fit. -/
def ofCall? (callee : String) (required optional : List String) (given : Nat) : Option Fault :=
  let most := required.length + optional.length
  if given < required.length then some (.missingArguments callee (required.drop given))
  else if most < given then some (.surplusArguments callee required.length most given)
  else none

/-- A naming fault as it is stated. Its slot and its subject are written at once, and fail to be if
they hold a number that is too long. -/
def ofNaming (slot : SlotLabel) (subject : Value) (reason : String) : Fault :=
  if slot.isLong || subject.hasLongInteger then .mishap .digitLimit
  else .naming slot subject reason

/-- Named facts that the message does not carry, in order. -/
def details : Fault → List (String × String)
  | .general _ details => details
  | .naming slot subject _ => [("slot", slot.display), ("value", subject.shown)]
  | .plugin descriptor _ => [("descriptor", descriptor)]
  | .assemblyLoad descriptor assembly _ => [("descriptor", descriptor), ("assembly", assembly)]
  | .typeNotFound descriptor typeName _ => [("descriptor", descriptor), ("type_name", typeName)]
  | .instantiation descriptor typeName _ => [("descriptor", descriptor), ("type_name", typeName)]
  | .interfaceMismatch descriptor typeName contract =>
    [("descriptor", descriptor), ("type_name", typeName), ("contract", contract)]
  | .pipelineState _ (some slot) => [("slot", slot)]
  | _ => []

/-- The message, followed by the details in parentheses when there are any. -/
def message (fault : Fault) : String :=
  match fault.details with
  | [] => fault.text
  | details =>
    fault.text ++ " (" ++ Value.joined ", " (details.map (fun d => d.1 ++ "=" ++ d.2)) ++ ")"

def ofType (text : String) : Fault := .raised ⟨"TypeError", .ordinary, text⟩

def ofImport (text : String) : Fault := .raised ⟨"ImportError", .importing, text⟩

def ofKey (key : String) : Fault := .raised ⟨"KeyError", .missingKey, key⟩

/-- Tells of a module that is not there. -/
def isMissing : Fault → Bool
  | .moduleNotFound .. => true
  | _ => false

def isUnattributed : Fault → Bool
  | .noAttribute .. => true
  | .raised r => r.name == "AttributeError"
  | _ => false

/-- What code raises itself does not say which module is not there. -/
def withoutModule : Fault → Fault
  | .moduleNotFound module parent =>
    .raised ⟨"ModuleNotFoundError", .importing, (Fault.moduleNotFound module parent).message⟩
  | fault => fault

/-- Stops the program: no handler of exceptions sees it. -/
def isStop : Fault → Bool
  | .raised r => r.kind == .stop
  | _ => false

def isImporting : Fault → Bool
  | .moduleNotFound _ _ => true
  | .raised r => r.kind == .importing
  | _ => false

/-- Belongs to the library's own family of errors. -/
def isOwn : Fault → Bool
  | .general .. | .naming .. | .plugin .. | .assemblyLoad .. | .typeNotFound ..
  | .instantiation .. | .interfaceMismatch .. | .pipelineState .. => true
  | _ => false

end Fault

structure Failure where
  fault : Fault
  causes : List Fault
  deriving Inhabited

namespace Failure

def of (fault : Fault) : Failure := ⟨fault, []⟩

def because (fault : Fault) (earlier : Failure) : Failure :=
  ⟨fault, earlier.fault :: earlier.causes⟩

def unwritable : Failure := .of (.mishap .digitLimit)

def message (failure : Failure) : String := failure.fault.message

def isStop (failure : Failure) : Bool := failure.fault.isStop

end Failure

end SchemaNaming
