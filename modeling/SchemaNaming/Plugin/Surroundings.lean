import SchemaNaming.Plugin.Catalogue

/-!
Classes from outside that the library's modules name or that lie behind those, as far as descriptors
can reach them.
-/

namespace SchemaNaming.Plugin.Surroundings
open Catalogue

/-- Classes from outside. -/
def classes : List ClassEntry :=
  [{ name := "ABC", module := "abc"
     kind := "ABCMeta"
     members := placed ++ documented ++ abstractMarks ++ values "tuple" ["__slots__"] },
   { name := "Enum", module := "enum"
     construction := lacksArguments "EnumType.__call__()" ["value"]
     kind := "EnumType"
     members := placed ++ documented ++ keeping ++ staticFunctions [] ["__new__"] ++
       functions [] ["__init__", "__repr__", "__str__", "__format__", "__hash__",
         "__reduce_ex__", "__deepcopy__", "__copy__", "_new_member_"] ++
       functions ["__doc__"] ["_generate_next_value_", "__dir__"] ++
       classFunctions [] ["_missing_"] ++ each (.hidden (.ofKind "str")) ["name", "value"] ++
       values "bool" ["_use_args_"] ++ values "list" ["_member_names_", "_unhashable_values_"] ++
       values "dict" ["_member_map_", "_value2member_map_"] ++
       renamed [("_member_type_", "object")] ++ nulls ["_value_repr_"] },
   { name := "Exception"
     bases := ["BaseException"]
     members := documented ++ maker ++ wrappers ["__init__"]
     isFixed := true },
   { name := "BaseException"
     members := documented ++ maker ++
       wrappers ["__repr__", "__str__", "__getattribute__", "__setattr__", "__delattr__",
         "__init__"] ++
       undocumented (unsigned (methods ["__reduce__", "__setstate__"])) ++
       unsigned (methods ["with_traceback", "add_note"]) ++
       cells "bool" ["__suppress_context__"] ++ undocumented (getsets "dict" ["__dict__"]) ++
       undocumented (getsets "tuple" ["args"]) ++
       undocumented (getsets "NoneType" ["__traceback__"]) ++
       getsets "NoneType" ["__context__", "__cause__"]
     isFixed := true },
   { name := "_Feature", module := "__future__"
     needs := ["optionalRelease", "mandatoryRelease", "compiler_flag"]
     members := placed ++ keeping ++ functions [] ["__init__", "__repr__"] ++
       functions ["__doc__"] ["getOptionalRelease", "getMandatoryRelease"] ++
       nulls ["__doc__"] },
   { name := "Any", module := "typing"
     construction := refused "Any cannot be instantiated"
     kind := "_AnyMeta"
     members := placed ++ documented ++ keeping ++ staticFunctions ["__closure__"] ["__new__"] },
   { name := "_AnyMeta", module := "typing"
     construction := refused "type.__new__() takes exactly 3 arguments (0 given)"
     bases := ["type"]
     members := placed ++ functions ["__closure__"] ["__instancecheck__", "__repr__"] ++
       nulls ["__doc__"] },
   { name := "_SpecialForm", module := "typing"
     needs := ["getitem"]
     bases := ["_Final", "_NotIterable"]
     members := placed ++ values "tuple" ["__slots__"] ++
       functions [] ["__init__", "__getattr__", "__mro_entries__", "__repr__", "__reduce__",
         "__call__", "__or__", "__ror__", "__instancecheck__", "__subclasscheck__"] ++
       functions ["__closure__"] ["__getitem__"] ++ cells "str" ["__doc__", "_name"] ++
       cells "function" ["_getitem"] },
   { name := "_Final", module := "typing"
     members := placed ++ documented ++ values "tuple" ["__slots__"] ++
       classFunctions [] ["__init_subclass__"] ++ getsets "NoneType" ["__weakref__"] },
   { name := "_NotIterable", module := "typing"
     members := placed ++ documented ++ values "tuple" ["__slots__"] ++ nulls ["__iter__"] },
   { name := "_TupleType", module := "typing"
     construction := lacksArguments "_SpecialGenericAlias.__init__()" ["origin", "nparams"]
     bases := ["_SpecialGenericAlias", "_NotIterable", "_BaseGenericAlias", "_Final"]
     members := placed ++ functions ["__closure__"] ["__getitem__"] ++ nulls ["__doc__"] },
   { name := "_SpecialGenericAlias", module := "typing"
     needs := ["origin", "nparams"]
     bases := ["_NotIterable", "_BaseGenericAlias", "_Final"]
     members := placed ++ keeping ++ functions ["__kwdefaults__", "__closure__"] ["__init__"] ++
       functions ["__closure__"] ["__getitem__", "__subclasscheck__"] ++
       functions [] ["copy_with", "__repr__", "__reduce__", "__or__", "__ror__"] ++
       nulls ["__doc__"] },
   { name := "_BaseGenericAlias", module := "typing"
     needs := ["origin"]
     bases := ["_Final"]
     members := placed ++ documented ++ functions ["__kwdefaults__"] ["__init__"] ++
       functions [] ["__call__", "__mro_entries__", "__getattr__", "__instancecheck__",
         "__subclasscheck__"] ++
       functions ["__closure__"] ["__setattr__", "__dir__"] ++ getsets "dict" ["__dict__"] },
   { name := "Path", module := "pathlib"
     construction := .ok (.other (classNumber "PosixPath"))
     bases := ["PurePath"]
     members := placed ++ documented ++ values "tuple" ["__slots__"] ++
       staticFunctions [] ["__new__"] ++
       functions [] ["_make_child_relpath", "__enter__", "__exit__", "_scandir"] ++
       classFunctions ["__doc__"] ["cwd", "home"] ++
       functions ["__doc__"] ["samefile", "iterdir", "glob", "rglob", "absolute", "owner",
         "group", "read_bytes", "write_bytes", "readlink", "lchmod", "rmdir", "lstat", "rename",
         "replace", "hardlink_to", "link_to", "exists", "is_dir", "is_file", "is_mount",
         "is_symlink", "is_block_device", "is_char_device", "is_fifo", "is_socket",
         "expanduser"] ++
       functions ["__doc__", "__defaults__"] ["resolve", "open", "read_text", "write_text",
         "touch", "mkdir", "unlink", "symlink_to"] ++
       functions ["__doc__", "__kwdefaults__"] ["stat", "chmod"] },
   { name := "PurePath", module := "pathlib"
     construction := .ok (.other (classNumber "PurePosixPath"))
     members := placed ++ documented ++ values "tuple" ["__slots__"] ++
       staticFunctions ["__doc__"] ["__new__"] ++
       functions [] ["__reduce__", "_make_child", "__fspath__", "__repr__", "__eq__",
         "__hash__", "__lt__", "__le__", "__gt__", "__ge__", "__truediv__", "__rtruediv__"] ++
       classFunctions [] ["_parse_args", "_from_parts", "_from_parsed_parts",
         "_format_parsed_parts"] ++
       functions ["__doc__"] ["__str__", "as_posix", "__bytes__", "as_uri", "with_name",
         "with_stem", "with_suffix", "relative_to", "is_relative_to", "joinpath", "is_absolute",
         "is_reserved", "match"] ++
       properties [] ["_cparts"] ++
       properties ["__doc__"] ["drive", "root", "anchor", "name", "suffix", "suffixes", "stem",
         "parts", "parent", "parents"] ++
       each (.cell none) ["_cached_cparts", "_drv", "_hash", "_parts", "_pparts", "_root",
         "_str"] },
   { name := "Logger", module := "logging"
     needs := ["name"]
     bases := ["Filterer"]
     members := placed ++ documented ++
       functions ["__doc__", "__defaults__"] ["__init__", "findCaller", "makeRecord", "_log"] ++
       functions ["__doc__"] ["setLevel", "debug", "info", "warning", "error", "critical",
         "fatal", "log", "handle", "addHandler", "removeHandler", "hasHandlers", "callHandlers",
         "getEffectiveLevel", "isEnabledFor", "getChild"] ++
       functions [] ["warn", "__repr__", "__reduce__"] ++
       functions ["__doc__", "__kwdefaults__"] ["exception"] ++
       things [("root", rootLogger), ("manager", manager)] },
   { name := "Filterer", module := "logging"
     members := placed ++ documented ++ keeping ++
       functions ["__doc__"] ["__init__", "addFilter", "removeFilter", "filter"] },
   { name := "RootLogger", module := "logging"
     needs := ["level"]
     bases := ["Logger", "Filterer"]
     members := placed ++ documented ++ functions ["__doc__"] ["__init__"] ++
       functions [] ["__reduce__"] },
   { name := "Manager", module := "logging"
     needs := ["rootnode"]
     members := placed ++ documented ++ keeping ++
       functions ["__doc__"] ["__init__", "getLogger", "setLoggerClass", "setLogRecordFactory",
         "_fixupParents", "_fixupChildren", "_clear_cache"] ++
       properties ["fset"] ["disable"] },
   { name := "_DataclassParams", module := "dataclasses"
     needs := ["init", "repr", "eq", "order", "unsafe_hash", "frozen"]
     members := placed ++ values "tuple" ["__slots__"] ++ functions [] ["__init__", "__repr__"] ++
       cells "bool" ["eq", "frozen", "init", "order", "repr", "unsafe_hash"] ++
       nulls ["__doc__"] },
   { name := "PosixPath", module := "pathlib"
     bases := ["Path", "PurePosixPath", "PurePath"]
     members := placed ++ documented },
   { name := "PurePosixPath", module := "pathlib"
     bases := ["PurePath"]
     members := placed ++ documented }]

end SchemaNaming.Plugin.Surroundings
