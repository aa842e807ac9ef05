import SchemaNaming.Plugin.Catalogue

/-!
The classes of plain values, functions and their kin, and what loads modules.
-/

namespace SchemaNaming.Plugin.Basics
open Catalogue

/-- What classes, functions and plain values rest on. -/
def classes : List ClassEntry :=
  [{ name := "object"
     members := documented ++ maker ++
       wrappers ["__repr__", "__hash__", "__str__", "__getattribute__", "__setattr__",
         "__delattr__", "__lt__", "__le__", "__eq__", "__ne__", "__gt__", "__ge__", "__init__"] ++
       methods ["__reduce_ex__", "__reduce__", "__getstate__", "__format__", "__sizeof__",
         "__dir__"] ++
       unsigned (classMethods ["__subclasshook__", "__init_subclass__"]) ++
       getsets "type" ["__class__"]
     isFixed := true
     isSigned := true },
   { name := "module"
     construction := refused "module() missing required argument 'name' (pos 1)"
     members := documented ++ maker ++
       wrappers ["__repr__", "__getattribute__", "__setattr__", "__delattr__", "__init__"] ++
       unsigned (methods ["__dir__"]) ++ cells "dict" ["__dict__"] ++
       undocumented (getsets "dict" ["__annotations__"])
     isFixed := true
     isSigned := true },
   { name := "type"
     construction := refused "type() takes 1 or 3 arguments"
     members := maker ++
       wrappers ["__repr__", "__call__", "__getattribute__", "__setattr__", "__delattr__",
         "__init__", "__or__", "__ror__"] ++
       methods ["mro", "__subclasses__", "__instancecheck__", "__subclasscheck__", "__dir__",
         "__sizeof__"] ++
       unsigned (classMethods ["__prepare__"]) ++
       cells "int" ["__basicsize__", "__itemsize__", "__flags__", "__weakrefoffset__",
         "__dictoffset__"] ++
       cells "type" ["__base__"] ++ cells "tuple" ["__mro__"] ++
       undocumented (getsets "str" ["__name__", "__qualname__", "__module__"]) ++
       undocumented (getsets "tuple" ["__bases__"]) ++
       undocumented (each (.getset none) ["__abstractmethods__", "__annotations__"]) ++
       undocumented (getsets "mappingproxy" ["__dict__"]) ++
       undocumented (getsets "NoneType" ["__doc__", "__text_signature__"])
     isFixed := true
     makerFault := some (.ofType "type.__new__() takes exactly 3 arguments (0 given)") },
   { name := "ABCMeta", module := "abc"
     construction := lacksArguments "ABCMeta.__new__()" ["name", "bases", "namespace"]
     bases := ["type"]
     members := placed ++ documented ++ staticFunctions ["__closure__"] ["__new__"] ++
       functions ["__doc__"] ["register", "__instancecheck__", "__subclasscheck__",
         "_abc_registry_clear", "_abc_caches_clear"] ++
       functions ["__doc__", "__defaults__"] ["_dump_registry"]
     makerFault := some (.missingArguments "ABCMeta.__new__()" ["name", "bases", "namespace"]) },
   { name := "EnumType", module := "enum"
     construction := lacksArguments "EnumType.__new__()" ["cls", "bases", "classdict"]
     bases := ["type"]
     members := placed ++ documented ++
       classFunctions [] ["__prepare__", "_check_for_existing_members_", "_find_data_repr_",
         "_find_data_type_"] ++
       staticFunctions ["__kwdefaults__", "__closure__"] ["__new__"] ++
       functions ["__doc__"] ["__bool__", "__contains__", "__getattr__", "__getitem__",
         "__iter__", "__len__", "__reversed__"] ++
       functions ["__doc__", "__defaults__", "__kwdefaults__"] ["__call__", "_convert_"] ++
       functions ["__closure__"] ["__delattr__"] ++ functions [] ["__dir__", "__repr__"] ++
       properties ["__doc__"] ["__members__"] ++
       functions ["__doc__", "__closure__"] ["__setattr__"] ++
       functions ["__doc__", "__kwdefaults__"] ["_create_"] ++
       classFunctions ["__doc__"] ["_get_mixins_", "_find_new_"]
     makerFault := some (.missingArguments "EnumType.__new__()" ["cls", "bases", "classdict"]) },
   { name := "function"
     construction := refused "function() missing required argument 'code' (pos 1)"
     members := maker ++ wrappers ["__repr__", "__call__", "__get__"] ++
       cells "NoneType" ["__closure__", "__doc__"] ++
       cells "dict" ["__globals__", "__builtins__"] ++ cells "str" ["__module__"] ++
       undocumented (getsets "code" ["__code__"]) ++
       undocumented (getsets "NoneType" ["__defaults__", "__kwdefaults__"]) ++
       undocumented (getsets "dict" ["__annotations__", "__dict__"]) ++
       undocumented (getsets "str" ["__name__", "__qualname__"])
     isFixed := true
     isFinal := true
     isSigned := true },
   { name := "method"
     construction := refused "method expected 2 arguments, got 0"
     members := maker ++
       wrappers ["__repr__", "__hash__", "__call__", "__getattribute__", "__setattr__",
         "__delattr__", "__lt__", "__le__", "__eq__", "__ne__", "__gt__", "__ge__"] ++
       undocumented (methods ["__reduce__"]) ++
       withTraits [docName] (cells "function" ["__func__"]) ++
       withTraits [docName] (cells "object" ["__self__"]) ++
       undocumented (getsets "NoneType" ["__doc__"])
     isFixed := true
     isFinal := true
     isSigned := true },
   { name := "builtin_function_or_method"
     construction := refused "cannot create 'builtin_function_or_method' instances"
     members :=
       wrappers ["__repr__", "__hash__", "__call__", "__getattribute__", "__lt__", "__le__",
         "__eq__", "__ne__", "__gt__", "__ge__"] ++
       undocumented (unsigned (methods ["__reduce__"])) ++ cells "NoneType" ["__module__"] ++
       undocumented (getsets "str" ["__doc__", "__name__", "__qualname__",
         "__text_signature__"]) ++
       undocumented (getsets "list" ["__self__"])
     isFixed := true
     isFinal := true },
   { name := "method-wrapper"
     construction := refused "cannot create 'method-wrapper' instances"
     members :=
       wrappers ["__repr__", "__hash__", "__call__", "__getattribute__", "__lt__", "__le__",
         "__eq__", "__ne__", "__gt__", "__ge__"] ++
       undocumented (unsigned (methods ["__reduce__"])) ++ cells "int" ["__self__"] ++
       undocumented (getsets "type" ["__objclass__"]) ++
       undocumented (getsets "str" ["__name__", "__qualname__", "__doc__",
         "__text_signature__"])
     isFixed := true
     isFinal := true },
   { name := "wrapper_descriptor"
     construction := refused "cannot create 'wrapper_descriptor' instances"
     members := wrappers ["__repr__", "__call__", "__getattribute__", "__get__"] ++
       undocumented (unsigned (methods ["__reduce__"])) ++ cells "type" ["__objclass__"] ++
       cells "str" ["__name__"] ++
       undocumented (getsets "str" ["__doc__", "__qualname__", "__text_signature__"])
     isFixed := true
     isFinal := true },
   { name := "method_descriptor"
     construction := refused "cannot create 'method_descriptor' instances"
     members := wrappers ["__repr__", "__call__", "__getattribute__", "__get__"] ++
       undocumented (unsigned (methods ["__reduce__"])) ++ cells "type" ["__objclass__"] ++
       cells "str" ["__name__"] ++
       undocumented (getsets "str" ["__doc__", "__qualname__", "__text_signature__"])
     isFixed := true
     isFinal := true },
   { name := "getset_descriptor"
     construction := refused "cannot create 'getset_descriptor' instances"
     members := wrappers ["__repr__", "__getattribute__", "__get__", "__set__", "__delete__"] ++
       cells "type" ["__objclass__"] ++ cells "str" ["__name__"] ++
       undocumented (getsets "str" ["__doc__", "__qualname__"])
     isFixed := true
     isFinal := true },
   { name := "member_descriptor"
     construction := refused "cannot create 'member_descriptor' instances"
     members := wrappers ["__repr__", "__getattribute__", "__get__", "__set__", "__delete__"] ++
       undocumented (unsigned (methods ["__reduce__"])) ++ cells "type" ["__objclass__"] ++
       cells "str" ["__name__"] ++ undocumented (getsets "NoneType" ["__doc__"]) ++
       undocumented (getsets "str" ["__qualname__"])
     isFixed := true
     isFinal := true },
   { name := "property"
     members := maker ++
       wrappers ["__getattribute__", "__get__", "__set__", "__delete__", "__init__"] ++
       unsigned (methods ["getter", "setter", "deleter", "__set_name__"]) ++
       cells "function" ["fget"] ++ cells "NoneType" ["fset", "fdel", "__doc__"] ++
       undocumented (getsets "bool" ["__isabstractmethod__"])
     isFixed := true
     isSigned := true },
   { name := "code"
     construction := refused "code expected at least 16 arguments, got 0"
     members := documented ++ maker ++
       wrappers ["__repr__", "__hash__", "__getattribute__", "__lt__", "__le__", "__eq__",
         "__ne__", "__gt__", "__ge__"] ++
       undocumented (unsigned (methods ["__sizeof__", "co_lines", "co_positions"])) ++
       methods ["replace", "_varname_from_oparg"] ++
       cells "int" ["co_argcount", "co_posonlyargcount", "co_kwonlyargcount", "co_stacksize",
         "co_flags", "co_nlocals", "co_firstlineno"] ++
       cells "tuple" ["co_consts", "co_names"] ++
       cells "str" ["co_filename", "co_name", "co_qualname"] ++
       cells "bytes" ["co_linetable", "co_exceptiontable"] ++
       undocumented (getsets "bytes" ["co_lnotab", "_co_code_adaptive", "co_code"]) ++
       undocumented (getsets "tuple" ["co_varnames", "co_cellvars", "co_freevars"])
     isFixed := true
     isFinal := true
     isSigned := true },
   { name := "mappingproxy"
     construction := refused "mappingproxy() missing required argument 'mapping' (pos 1)"
     members := maker ++
       wrappers ["__repr__", "__str__", "__getattribute__", "__lt__", "__le__", "__eq__",
         "__ne__", "__gt__", "__ge__", "__iter__", "__or__", "__ror__", "__ior__", "__len__",
         "__getitem__", "__contains__"] ++
       unsigned (methods ["get", "keys", "values", "items", "copy", "__reversed__"]) ++
       unsigned (classMethods ["__class_getitem__"]) ++ nulls ["__doc__", "__hash__"]
     isFixed := true
     isFinal := true },
   { name := "int"
     construction := single "int"
     members := documented ++ maker ++
       wrappers ["__repr__", "__hash__", "__getattribute__", "__lt__", "__le__", "__eq__",
         "__ne__", "__gt__", "__ge__", "__add__", "__radd__", "__sub__", "__rsub__", "__mul__",
         "__rmul__", "__mod__", "__rmod__", "__divmod__", "__rdivmod__", "__pow__", "__rpow__",
         "__neg__", "__pos__", "__abs__", "__bool__", "__invert__", "__lshift__", "__rlshift__",
         "__rshift__", "__rrshift__", "__and__", "__rand__", "__xor__", "__rxor__", "__or__",
         "__ror__", "__int__", "__float__", "__floordiv__", "__rfloordiv__", "__truediv__",
         "__rtruediv__", "__index__"] ++
       unsigned (methods ["conjugate", "__trunc__", "__floor__", "__ceil__"]) ++
       methods ["bit_length", "bit_count", "to_bytes", "as_integer_ratio", "__round__",
         "__sizeof__"] ++
       classMethods ["from_bytes"] ++ undocumented (methods ["__getnewargs__", "__format__"]) ++
       getsets "int" ["real", "imag", "numerator", "denominator"]
     isFixed := true },
   { name := "bool"
     construction := single "bool"
     bases := ["int"]
     members := documented ++ maker ++
       wrappers ["__repr__", "__and__", "__rand__", "__xor__", "__rxor__", "__or__", "__ror__"]
     isFixed := true
     isFinal := true },
   { name := "float"
     members := documented ++ maker ++
       wrappers ["__repr__", "__hash__", "__getattribute__", "__lt__", "__le__", "__eq__",
         "__ne__", "__gt__", "__ge__", "__add__", "__radd__", "__sub__", "__rsub__", "__mul__",
         "__rmul__", "__mod__", "__rmod__", "__divmod__", "__rdivmod__", "__pow__", "__rpow__",
         "__neg__", "__pos__", "__abs__", "__bool__", "__int__", "__float__", "__floordiv__",
         "__rfloordiv__", "__truediv__", "__rtruediv__"] ++
       methods ["conjugate", "__trunc__", "__floor__", "__ceil__", "__round__",
         "as_integer_ratio", "hex", "is_integer", "__format__"] ++
       classMethods ["fromhex", "__getformat__"] ++ undocumented (methods ["__getnewargs__"]) ++
       getsets "float" ["real", "imag"]
     isFixed := true
     isSigned := true },
   { name := "complex"
     members := documented ++ maker ++
       wrappers ["__repr__", "__hash__", "__getattribute__", "__lt__", "__le__", "__eq__",
         "__ne__", "__gt__", "__ge__", "__add__", "__radd__", "__sub__", "__rsub__", "__mul__",
         "__rmul__", "__pow__", "__rpow__", "__neg__", "__pos__", "__abs__", "__bool__",
         "__truediv__", "__rtruediv__"] ++
       methods ["conjugate", "__complex__", "__format__"] ++
       undocumented (methods ["__getnewargs__"]) ++
       withTraits [docName] (cells "float" ["real", "imag"])
     isFixed := true
     isSigned := true },
   { name := "str"
     construction := single "str"
     members := documented ++ maker ++
       wrappers ["__repr__", "__hash__", "__str__", "__getattribute__", "__lt__", "__le__",
         "__eq__", "__ne__", "__gt__", "__ge__", "__iter__", "__mod__", "__rmod__", "__len__",
         "__getitem__", "__add__", "__mul__", "__rmul__", "__contains__"] ++
       methods ["encode", "replace", "split", "rsplit", "join", "capitalize", "casefold",
         "title", "center", "expandtabs", "partition", "ljust", "lower", "lstrip", "rjust",
         "rstrip", "rpartition", "splitlines", "strip", "swapcase", "translate", "upper",
         "removeprefix", "removesuffix", "isascii", "islower", "isupper", "istitle", "isspace",
         "isdecimal", "isdigit", "isnumeric", "isalpha", "isalnum", "isidentifier",
         "isprintable", "zfill", "__format__", "__sizeof__"] ++
       unsigned (methods ["count", "find", "index", "rfind", "rindex", "startswith", "endswith",
         "format", "format_map"]) ++
       makers ["maketrans"] ++ undocumented (unsigned (methods ["__getnewargs__"]))
     isFixed := true },
   { name := "bytes"
     construction := single "bytes"
     members := documented ++ maker ++
       wrappers ["__repr__", "__hash__", "__str__", "__getattribute__", "__lt__", "__le__",
         "__eq__", "__ne__", "__gt__", "__ge__", "__iter__", "__mod__", "__rmod__", "__len__",
         "__getitem__", "__add__", "__mul__", "__rmul__", "__contains__"] ++
       undocumented (unsigned (methods ["__getnewargs__"])) ++
       methods ["__bytes__", "center", "decode", "expandtabs", "hex", "join", "ljust", "lstrip",
         "partition", "replace", "removeprefix", "removesuffix", "rjust", "rpartition",
         "rsplit", "rstrip", "split", "splitlines", "strip", "translate", "zfill"] ++
       unsigned (methods ["capitalize", "count", "endswith", "find", "index", "isalnum",
         "isalpha", "isascii", "isdigit", "islower", "isspace", "istitle", "isupper", "lower",
         "rfind", "rindex", "startswith", "swapcase", "title", "upper"]) ++
       classMethods ["fromhex"] ++ makers ["maketrans"]
     isFixed := true },
   { name := "list"
     members := documented ++ maker ++
       wrappers ["__repr__", "__getattribute__", "__lt__", "__le__", "__eq__", "__ne__",
         "__gt__", "__ge__", "__iter__", "__init__", "__len__", "__setitem__", "__delitem__",
         "__add__", "__mul__", "__rmul__", "__contains__", "__iadd__", "__imul__"] ++
       nulls ["__hash__"] ++ unsigned (methods ["__getitem__"]) ++
       methods ["__reversed__", "__sizeof__", "clear", "copy", "append", "insert", "extend",
         "pop", "remove", "index", "count", "reverse", "sort"] ++
       unsigned (classMethods ["__class_getitem__"])
     isFixed := true
     isSigned := true },
   { name := "tuple"
     construction := single "tuple"
     members := documented ++ maker ++
       wrappers ["__repr__", "__hash__", "__getattribute__", "__lt__", "__le__", "__eq__",
         "__ne__", "__gt__", "__ge__", "__iter__", "__len__", "__getitem__", "__add__",
         "__mul__", "__rmul__", "__contains__"] ++
       undocumented (methods ["__getnewargs__"]) ++ methods ["index", "count"] ++
       unsigned (classMethods ["__class_getitem__"])
     isFixed := true
     isSigned := true },
   { name := "dict"
     members := documented ++ maker ++
       wrappers ["__repr__", "__getattribute__", "__lt__", "__le__", "__eq__", "__ne__",
         "__gt__", "__ge__", "__iter__", "__init__", "__or__", "__ror__", "__ior__", "__len__",
         "__setitem__", "__delitem__"] ++
       nulls ["__hash__"] ++
       unsigned (methods ["__getitem__", "__sizeof__", "keys", "items", "values", "update",
         "clear", "copy"]) ++
       methods ["__contains__", "get", "setdefault", "pop", "popitem", "__reversed__"] ++
       classMethods ["fromkeys"] ++ unsigned (classMethods ["__class_getitem__"])
     isFixed := true },
   { name := "set"
     members := documented ++ maker ++
       wrappers ["__repr__", "__getattribute__", "__lt__", "__le__", "__eq__", "__ne__",
         "__gt__", "__ge__", "__iter__", "__init__", "__sub__", "__rsub__", "__and__",
         "__rand__", "__xor__", "__rxor__", "__or__", "__ror__", "__isub__", "__iand__",
         "__ixor__", "__ior__", "__len__"] ++
       nulls ["__hash__"] ++
       unsigned (methods ["__contains__", "add", "clear", "copy", "discard", "difference",
         "difference_update", "intersection", "intersection_update", "isdisjoint", "pop",
         "__reduce__", "remove", "__sizeof__", "symmetric_difference",
         "symmetric_difference_update", "union", "update"]) ++
       methods ["issubset", "issuperset"] ++ unsigned (classMethods ["__class_getitem__"])
     isFixed := true },
   { name := "frozenset"
     members := documented ++ maker ++
       wrappers ["__repr__", "__hash__", "__getattribute__", "__lt__", "__le__", "__eq__",
         "__ne__", "__gt__", "__ge__", "__iter__", "__sub__", "__rsub__", "__and__", "__rand__",
         "__xor__", "__rxor__", "__or__", "__ror__", "__len__"] ++
       unsigned (methods ["__contains__", "copy", "difference", "intersection", "isdisjoint",
         "__reduce__", "__sizeof__", "symmetric_difference", "union"]) ++
       methods ["issubset", "issuperset"] ++ unsigned (classMethods ["__class_getitem__"])
     isFixed := true },
   { name := "ellipsis"
     construction := single "ellipsis"
     members := maker ++ wrappers ["__repr__", "__getattribute__"] ++
       undocumented (unsigned (methods ["__reduce__"])) ++ nulls ["__doc__"]
     isFixed := true
     isFinal := true },
   { name := "_abc_data", module := "_abc"
     members := placed ++ documented ++ maker
     isFinal := true },
   { name := "ModuleSpec", module := "_frozen_importlib"
     needs := ["name", "loader"]
     members := placed ++ documented ++ keeping ++ functions ["__kwdefaults__"] ["__init__"] ++
       functions [] ["__repr__", "__eq__"] ++ properties ["fset"] ["cached", "has_location"] ++
       properties ["__doc__"] ["parent"] ++ nulls ["__hash__"] },
   { name := "SourceFileLoader", module := "_frozen_importlib_external"
     construction := lacksArguments "FileLoader.__init__()" ["fullname", "path"]
     bases := ["FileLoader", "SourceLoader", "_LoaderBasics"]
     members := placed ++ documented ++ functions ["__doc__"] ["path_stats"] ++
       functions [] ["_cache_bytecode"] ++
       functions ["__doc__", "__kwdefaults__"] ["set_data"] },
   { name := "FileLoader", module := "_frozen_importlib_external"
     needs := ["fullname", "path"]
     members := placed ++ documented ++ keeping ++
       functions ["__doc__"] ["__init__", "get_data"] ++ functions [] ["__eq__", "__hash__"] ++
       functions ["__doc__", "__defaults__", "__closure__"] ["load_module", "get_filename"] ++
       functions ["__defaults__", "__closure__"] ["get_resource_reader"] },
   { name := "SourceLoader", module := "_frozen_importlib_external"
     bases := ["_LoaderBasics"]
     members := placed ++
       functions ["__doc__"] ["path_mtime", "path_stats", "_cache_bytecode", "set_data",
         "get_source", "get_code"] ++
       functions ["__doc__", "__kwdefaults__"] ["source_to_code"] ++ nulls ["__doc__"] },
   { name := "_LoaderBasics", module := "_frozen_importlib_external"
     members := placed ++ documented ++ keeping ++
       functions ["__doc__"] ["is_package", "create_module", "exec_module", "load_module"] },
   { name := "NamespaceLoader", module := "_frozen_importlib_external"
     needs := ["name", "path", "path_finder"]
     members := placed ++ keeping ++
       functions [] ["__init__", "is_package", "get_source", "get_code", "exec_module",
         "get_resource_reader"] ++
       staticFunctions ["__doc__"] ["module_repr"] ++
       functions ["__doc__"] ["create_module", "load_module"] ++ nulls ["__doc__"] },
   { name := "_NamespacePath", module := "_frozen_importlib_external"
     needs := ["name", "path", "path_finder"]
     members := placed ++ documented ++ keeping ++ values "int" ["_epoch"] ++
       functions [] ["__init__", "_get_parent_path", "_recalculate", "__iter__", "__getitem__",
         "__setitem__", "__len__", "__repr__", "__contains__", "append"] ++
       functions ["__doc__"] ["_find_parent_path_names"] },
   { name := "bytearray"
     members := documented ++ maker ++
       wrappers ["__repr__", "__str__", "__getattribute__", "__lt__", "__le__", "__eq__",
         "__ne__", "__gt__", "__ge__", "__iter__", "__init__", "__mod__", "__rmod__", "__len__",
         "__getitem__", "__setitem__", "__delitem__", "__add__", "__mul__", "__rmul__",
         "__contains__", "__iadd__", "__imul__"] ++
       unsigned (methods ["__alloc__", "capitalize", "count", "endswith", "find", "index",
         "isalnum", "isalpha", "isascii", "isdigit", "islower", "isspace", "istitle", "isupper",
         "lower", "rfind", "rindex", "startswith", "swapcase", "title", "upper"]) ++
       methods ["__reduce__", "__reduce_ex__", "__sizeof__", "append", "center", "clear",
         "copy", "decode", "expandtabs", "extend", "hex", "insert", "join", "ljust", "lstrip",
         "partition", "pop", "remove", "replace", "removeprefix", "removesuffix", "reverse",
         "rjust", "rpartition", "rsplit", "rstrip", "split", "splitlines", "strip", "translate",
         "zfill"] ++
       classMethods ["fromhex"] ++ makers ["maketrans"] ++ nulls ["__hash__"]
     isFixed := true },
   { name := "memoryview"
     construction := refused "memoryview() missing required argument 'object' (pos 1)"
     members := documented ++ maker ++
       wrappers ["__repr__", "__hash__", "__getattribute__", "__lt__", "__le__", "__eq__",
         "__ne__", "__gt__", "__ge__", "__iter__", "__len__", "__getitem__", "__setitem__",
         "__delitem__"] ++
       methods ["release", "tobytes", "hex", "tolist", "cast", "toreadonly"] ++
       undocumented (unsigned (methods ["__enter__", "__exit__"])) ++ getsets "bytes" ["obj"] ++
       getsets "int" ["nbytes", "itemsize", "ndim"] ++
       getsets "bool" ["readonly", "c_contiguous", "f_contiguous", "contiguous"] ++
       getsets "str" ["format"] ++ getsets "tuple" ["shape", "strides", "suboffsets"]
     isFixed := true
     isFinal := true
     isSigned := true },
   { name := "range"
     construction := refused "range expected at least 1 argument, got 0"
     members := documented ++ maker ++
       wrappers ["__repr__", "__hash__", "__getattribute__", "__lt__", "__le__", "__eq__",
         "__ne__", "__gt__", "__ge__", "__iter__", "__bool__", "__len__", "__getitem__",
         "__contains__"] ++
       unsigned (methods ["__reversed__", "count", "index"]) ++
       undocumented (unsigned (methods ["__reduce__"])) ++
       cells "int" ["start", "stop", "step"]
     isFixed := true
     isFinal := true },
   { name := "slice"
     construction := refused "slice expected at least 1 argument, got 0"
     members := documented ++ maker ++
       wrappers ["__repr__", "__getattribute__", "__lt__", "__le__", "__eq__", "__ne__",
         "__gt__", "__ge__"] ++
       nulls ["__hash__"] ++ unsigned (methods ["indices", "__reduce__"]) ++
       cells "NoneType" ["start", "step"] ++ cells "int" ["stop"]
     isFixed := true
     isFinal := true },
   { name := "enumerate"
     construction := refused "enumerate() missing required argument 'iterable'"
     members := documented ++ maker ++ wrappers ["__getattribute__", "__iter__", "__next__"] ++
       unsigned (methods ["__reduce__"]) ++ unsigned (classMethods ["__class_getitem__"])
     isFixed := true
     makerFault := some (.ofType "enumerate() missing required argument 'iterable' (pos 1)")
     isSigned := true },
   { name := "filter"
     construction := refused "filter expected 2 arguments, got 0"
     members := documented ++ maker ++ wrappers ["__getattribute__", "__iter__", "__next__"] ++
       unsigned (methods ["__reduce__"])
     isFixed := true
     makerFault := some (.ofType "filter expected 2 arguments, got 0") },
   { name := "map"
     construction := refused "map() must have at least two arguments."
     members := documented ++ maker ++ wrappers ["__getattribute__", "__iter__", "__next__"] ++
       unsigned (methods ["__reduce__"])
     isFixed := true
     makerFault := some (.ofType "map() must have at least two arguments.") },
   { name := "reversed"
     construction := refused "reversed expected 1 argument, got 0"
     members := documented ++ maker ++ wrappers ["__getattribute__", "__iter__", "__next__"] ++
       unsigned (methods ["__length_hint__", "__reduce__", "__setstate__"])
     isFixed := true
     makerFault := some (.ofType "reversed expected 1 argument, got 0")
     isSigned := true },
   { name := "zip"
     members := documented ++ maker ++ wrappers ["__getattribute__", "__iter__", "__next__"] ++
       unsigned (methods ["__reduce__", "__setstate__"])
     isFixed := true },
   { name := "classmethod"
     construction := refused "classmethod expected 1 argument, got 0"
     members := documented ++ maker ++ wrappers ["__repr__", "__get__", "__init__"] ++
       cells "function" ["__func__", "__wrapped__"] ++
       undocumented (getsets "bool" ["__isabstractmethod__"]) ++
       undocumented (getsets "dict" ["__dict__"])
     isFixed := true },
   { name := "staticmethod"
     construction := refused "staticmethod expected 1 argument, got 0"
     members := documented ++ maker ++ wrappers ["__repr__", "__call__", "__get__", "__init__"] ++
       cells "function" ["__func__", "__wrapped__"] ++
       undocumented (getsets "bool" ["__isabstractmethod__"]) ++
       undocumented (getsets "dict" ["__dict__"])
     isFixed := true },
   { name := "super"
     construction := .error (.raised ⟨"RuntimeError", .ordinary,
       "super(): __class__ cell not found"⟩)
     members := documented ++ maker ++
       wrappers ["__repr__", "__getattribute__", "__get__", "__init__"] ++
       each (.cell none) ["__thisclass__", "__self__", "__self_class__"]
     isFixed := true },
   { name := "NoneType"
     construction := single "NoneType"
     members := maker ++ wrappers ["__repr__", "__bool__"] ++ nulls ["__doc__"]
     isFixed := true
     isFinal := true }]

end SchemaNaming.Plugin.Basics
