import SchemaNaming.Plugin.Catalogue

/-!
What every source knows without binding it: the classes of what can be raised, those of plain
values, and functions.
-/

namespace SchemaNaming.Plugin.Builtin
open Catalogue

/-- Classes that differ from the nearest of their bases in nothing that plugins can tell. -/
def below (bases names : List String) : List ClassEntry :=
  names.map (fun name =>
    { name, bases, isFixed := true
      members := documented ++ maker ++ wrappers ["__init__"]
      construction := constructionOf name })
where
  constructionOf (name : String) : Except Fault Product :=
    if name == "UnicodeDecodeError" || name == "UnicodeEncodeError" then
      refused "function takes exactly 5 arguments (0 given)"
    else if name == "UnicodeTranslateError" then
      refused "function takes exactly 4 arguments (0 given)"
    else if name.endsWith "Group" then
      refused "BaseExceptionGroup.__new__() takes exactly 2 arguments (0 given)"
    else .ok .plain

def raised : List ClassEntry :=
  below ["BaseException"] ["BaseExceptionGroup"] ++
  below ["BaseExceptionGroup", "Exception", "BaseException"] ["ExceptionGroup"] ++
  below ["BaseException"] ["GeneratorExit", "KeyboardInterrupt", "SystemExit"] ++
  below ["Exception", "BaseException"]
    ["ArithmeticError", "AssertionError", "AttributeError", "BufferError", "EOFError",
     "ImportError", "LookupError", "MemoryError", "NameError", "OSError", "ReferenceError",
     "RuntimeError", "StopAsyncIteration", "StopIteration", "SyntaxError", "SystemError",
     "TypeError", "ValueError", "Warning"] ++
  below ["ArithmeticError", "Exception", "BaseException"]
    ["FloatingPointError", "OverflowError", "ZeroDivisionError"] ++
  below ["Warning", "Exception", "BaseException"]
    ["BytesWarning", "DeprecationWarning", "EncodingWarning", "FutureWarning", "ImportWarning",
     "PendingDeprecationWarning", "ResourceWarning", "RuntimeWarning", "SyntaxWarning",
     "UnicodeWarning", "UserWarning"] ++
  below ["OSError", "Exception", "BaseException"]
    ["BlockingIOError", "ChildProcessError", "ConnectionError", "FileExistsError",
     "FileNotFoundError", "InterruptedError", "IsADirectoryError", "NotADirectoryError",
     "PermissionError", "ProcessLookupError", "TimeoutError"] ++
  below ["SyntaxError", "Exception", "BaseException"] ["IndentationError"] ++
  below ["LookupError", "Exception", "BaseException"] ["IndexError", "KeyError"] ++
  below ["ImportError", "Exception", "BaseException"] ["ModuleNotFoundError"] ++
  below ["RuntimeError", "Exception", "BaseException"] ["NotImplementedError", "RecursionError"] ++
  below ["NameError", "Exception", "BaseException"] ["UnboundLocalError"] ++
  below ["ValueError", "Exception", "BaseException"] ["UnicodeError"] ++
  below ["ConnectionError", "OSError", "Exception", "BaseException"]
    ["BrokenPipeError", "ConnectionAbortedError", "ConnectionRefusedError",
     "ConnectionResetError"] ++
  below ["IndentationError", "SyntaxError", "Exception", "BaseException"] ["TabError"] ++
  below ["UnicodeError", "ValueError", "Exception", "BaseException"]
    ["UnicodeDecodeError", "UnicodeEncodeError", "UnicodeTranslateError"]

def plainNames : List String :=
  ["object", "type", "property", "int", "bool", "float", "complex", "str", "bytes", "bytearray",
   "memoryview", "list", "tuple", "dict", "set", "frozenset", "range", "slice", "enumerate",
   "filter", "map", "reversed", "zip", "classmethod", "staticmethod", "super"]

def functionNames : List String :=
  ["__build_class__", "__import__", "abs", "aiter", "all", "anext", "any", "ascii", "bin",
   "breakpoint", "callable", "chr", "compile", "delattr", "dir", "divmod", "eval", "exec", "format",
   "getattr", "globals", "hasattr", "hash", "hex", "id", "input", "isinstance", "issubclass",
   "iter", "len", "locals", "max", "min", "next", "oct", "open", "ord", "pow", "print", "repr",
   "round", "setattr", "sorted", "sum", "vars"]

/-- What each name stands for in a source that does not bind it. -/
def names : Named Thing :=
  let function : Thing := .builtin strangeModule [trait "__module__"]
  (["BaseException", "Exception"] ++ raisedNames ++ plainNames).map (fun name =>
    (name, .cls (classNumber name))) ++
  functionNames.map (·, function) ++
  [("EnvironmentError", .cls (classNumber "OSError")), ("IOError", .cls (classNumber "OSError")),
   ("None", .null), ("True", .ofKind "bool"), ("False", .ofKind "bool"),
   ("__debug__", .ofKind "bool"), ("Ellipsis", .ofKind "ellipsis")]

end SchemaNaming.Plugin.Builtin
