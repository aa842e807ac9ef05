import SchemaNaming.Slot

/-!
The classes and modules that are there before any plugin, each numbered by its place in a list.
-/

namespace SchemaNaming.Plugin

abbrev ModuleId := Nat
abbrev ClassId := Nat
abbrev InstanceId := Nat

/-- The contracts, in the order of the slots. -/
def contractNames : List String :=
  ["EnumNameGenerator", "TypeNameGenerator", "PropertyNameGenerator"]

def basicNames : List String :=
  ["object", "module", "type", "ABCMeta", "EnumType", "function", "method",
   "builtin_function_or_method", "method-wrapper", "wrapper_descriptor", "method_descriptor",
   "getset_descriptor", "member_descriptor", "property", "code", "mappingproxy", "int", "bool",
   "float", "complex", "str", "bytes", "list", "tuple", "dict", "set", "frozenset", "ellipsis",
   "_abc_data", "ModuleSpec", "SourceFileLoader", "FileLoader", "SourceLoader", "_LoaderBasics",
   "NamespaceLoader", "_NamespacePath", "bytearray", "memoryview", "range", "slice",
   "enumerate", "filter", "map", "reversed", "zip", "classmethod", "staticmethod", "super",
   "NoneType"]

/-- Classes from outside that the library names or that lie behind those. -/
def outsideNames : List String :=
  ["ABC", "Enum", "Exception", "BaseException", "_Feature", "Any", "_AnyMeta", "_SpecialForm",
   "_Final", "_NotIterable", "_TupleType", "_SpecialGenericAlias", "_BaseGenericAlias", "Path",
   "PurePath", "Logger", "Filterer", "RootLogger", "Manager", "_DataclassParams", "PosixPath",
   "PurePosixPath"]

def ownNames : List String :=
  ["JsonSchema", "JsonSchemaProperty", "DefaultEnumNameGenerator", "DefaultTypeNameGenerator",
   "DefaultPropertyNameGenerator", "IdentifierNormalizer", "_NormalizingDecorator",
   "EnumNameDecorator", "TypeNameDecorator", "PropertyNameDecorator", "TypeDescriptor",
   "PluginLoader", "GeneratorSettings", "NamingPipeline", "GeneratorConfig", "NamingConfig",
   "LoggingConfig", "NamegenConfig", "GeneratorSlot", "NamegenError", "NamingError",
   "PluginError", "AssemblyLoadError", "TypeNotFoundError", "InstantiationError",
   "InterfaceMismatchError", "PipelineStateError", "NamegenLogger"]

/-- Classes of what is raised, those below one class next to each other. -/
def raisedNames : List String :=
  ["BaseExceptionGroup", "ExceptionGroup", "GeneratorExit", "KeyboardInterrupt", "SystemExit",
   "ArithmeticError", "AssertionError", "AttributeError", "BufferError", "EOFError",
   "ImportError", "LookupError", "MemoryError", "NameError", "OSError", "ReferenceError",
   "RuntimeError", "StopAsyncIteration", "StopIteration", "SyntaxError", "SystemError",
   "TypeError", "ValueError", "Warning", "FloatingPointError", "OverflowError",
   "ZeroDivisionError", "BytesWarning", "DeprecationWarning", "EncodingWarning",
   "FutureWarning", "ImportWarning", "PendingDeprecationWarning", "ResourceWarning",
   "RuntimeWarning", "SyntaxWarning", "UnicodeWarning", "UserWarning", "BlockingIOError",
   "ChildProcessError", "ConnectionError", "FileExistsError", "FileNotFoundError",
   "InterruptedError", "IsADirectoryError", "NotADirectoryError", "PermissionError",
   "ProcessLookupError", "TimeoutError", "IndentationError", "IndexError", "KeyError",
   "ModuleNotFoundError", "NotImplementedError", "RecursionError", "UnboundLocalError",
   "UnicodeError", "BrokenPipeError", "ConnectionAbortedError", "ConnectionRefusedError",
   "ConnectionResetError", "TabError", "UnicodeDecodeError", "UnicodeEncodeError",
   "UnicodeTranslateError"]

def standingClasses : List String :=
  contractNames ++ basicNames ++ raisedNames ++ outsideNames ++ ownNames

def classNumber (name : String) : ClassId := standingClasses.idxOf name

def ownModules : List String :=
  ["namegen", "namegen.schema", "namegen.generators", "namegen.generators.base",
   "namegen.generators.defaults", "namegen.generators.decorators", "namegen.runtime",
   "namegen.runtime.loader", "namegen.pipeline", "namegen.pipeline.naming_pipeline",
   "namegen.utils", "namegen.utils.naming", "namegen.utils.config", "namegen.utils.constants",
   "namegen.utils.exceptions", "namegen.utils.logging", "namegen.utils.info"]

def moduleNumber (name : String) : ModuleId := ownModules.idxOf name

end SchemaNaming.Plugin
