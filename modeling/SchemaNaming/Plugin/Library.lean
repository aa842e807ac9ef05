import SchemaNaming.Plugin.Basics
import SchemaNaming.Plugin.Builtin
import SchemaNaming.Plugin.Surroundings

/-!
The library's own modules, as plugins and descriptors can reach them: the names that each module
has, and what constructing each of its classes without arguments gives.
-/

namespace SchemaNaming.Plugin.Library
open Catalogue

def slotMember : Thing :=
  .item (classNumber "GeneratorSlot")
    [("_value_", .ofKind "str"), ("_name_", .ofKind "str"),
     ("__objclass__", .cls (classNumber "GeneratorSlot")), ("_sort_order_", .ofKind "int")]

def contracts : List ClassEntry :=
  [{ name := "EnumNameGenerator", module := "namegen.generators.base"
     construction := .error (.abstractClass "EnumNameGenerator")
     kind := "ABCMeta"
     slots := [.enum]
     bases := ["ABC"]
     members := placed ++ documented ++ keeping ++ abstractMarks ++
       functions ["__doc__"] ["generate"] ++ things [("slot", slotMember)] },
   { name := "TypeNameGenerator", module := "namegen.generators.base"
     construction := .error (.abstractClass "TypeNameGenerator")
     kind := "ABCMeta"
     slots := [.type]
     bases := ["ABC"]
     members := placed ++ documented ++ keeping ++ abstractMarks ++
       functions ["__doc__"] ["generate"] ++ things [("slot", slotMember)] },
   { name := "PropertyNameGenerator", module := "namegen.generators.base"
     construction := .error (.abstractClass "PropertyNameGenerator")
     kind := "ABCMeta"
     slots := [.property]
     bases := ["ABC"]
     members := placed ++ documented ++ keeping ++ abstractMarks ++
       functions ["__doc__"] ["generate"] ++ things [("slot", slotMember)] }]

def classes : List ClassEntry :=
  [{ name := "JsonSchema", module := "namegen.schema"
     members := placed ++ documented ++ keeping ++
       values "dict" ["__annotations__", "__dataclass_fields__"] ++
       nulls ["title", "document_path"] ++
       values "tuple" ["enumeration", "enumeration_names", "__match_args__"] ++
       properties ["__doc__"] ["has_type_name_title"] ++
       values "_DataclassParams" ["__dataclass_params__"] ++
       functions ["__defaults__", "__closure__"] ["__init__"] ++
       functions ["__closure__"] ["__repr__", "__setattr__", "__delattr__"] ++
       functions [] ["__eq__", "__hash__"] },
   { name := "JsonSchemaProperty", module := "namegen.schema"
     needs := ["name"]
     members := placed ++ documented ++ keeping ++
       values "dict" ["__annotations__", "__dataclass_fields__"] ++
       values "bool" ["is_required"] ++ values "_DataclassParams" ["__dataclass_params__"] ++
       functions ["__defaults__", "__closure__"] ["__init__"] ++
       functions ["__closure__"] ["__repr__", "__setattr__", "__delattr__"] ++
       functions [] ["__eq__", "__hash__"] ++ values "tuple" ["__match_args__"] },
   { name := "DefaultEnumNameGenerator", module := "namegen.generators.defaults"
     construction := .ok (.generator (.default .enum))
     kind := "ABCMeta"
     slots := [.enum]
     bases := ["EnumNameGenerator", "ABC"]
     members := placed ++ documented ++ abstractMarks ++ functions [] ["generate"] },
   { name := "DefaultTypeNameGenerator", module := "namegen.generators.defaults"
     construction := .ok (.generator (.default .type))
     kind := "ABCMeta"
     slots := [.type]
     bases := ["TypeNameGenerator", "ABC"]
     members := placed ++ documented ++ abstractMarks ++ functions [] ["generate"] },
   { name := "DefaultPropertyNameGenerator", module := "namegen.generators.defaults"
     construction := .ok (.generator (.default .property))
     kind := "ABCMeta"
     slots := [.property]
     bases := ["PropertyNameGenerator", "ABC"]
     members := placed ++ documented ++ abstractMarks ++ functions [] ["generate"] },
   { name := "IdentifierNormalizer", module := "namegen.generators.decorators"
     needs := ["slot"]
     members := placed ++ documented ++ keeping ++ functions ["__defaults__"] ["__init__"] ++
       functions ["__doc__"] ["substitute", "normalize"] },
   { name := "_NormalizingDecorator", module := "namegen.generators.decorators"
     needs := ["base_generator", "normalizer"]
     members := placed ++ documented ++ keeping ++ values "dict" ["__annotations__"] ++
       functions [] ["__init__", "_normalize_output"] ++
       properties ["__doc__"] ["base_generator"] },
   { name := "EnumNameDecorator", module := "namegen.generators.decorators"
     construction := .ok (.generator (.standard { slot := .enum }))
     kind := "ABCMeta"
     slots := [.enum]
     bases := ["_NormalizingDecorator", "EnumNameGenerator", "ABC"]
     members := placed ++ documented ++ abstractMarks ++
       functions ["__defaults__", "__closure__"] ["__init__"] ++ functions [] ["generate"] },
   { name := "TypeNameDecorator", module := "namegen.generators.decorators"
     construction := .ok (.generator (.standard { slot := .type }))
     kind := "ABCMeta"
     slots := [.type]
     bases := ["_NormalizingDecorator", "TypeNameGenerator", "ABC"]
     members := placed ++ documented ++ abstractMarks ++
       functions ["__defaults__", "__closure__"] ["__init__"] ++ functions [] ["generate"] },
   { name := "PropertyNameDecorator", module := "namegen.generators.decorators"
     construction := .ok (.generator (.standard { slot := .property }))
     kind := "ABCMeta"
     slots := [.property]
     bases := ["_NormalizingDecorator", "PropertyNameGenerator", "ABC"]
     members := placed ++ documented ++ abstractMarks ++
       functions ["__defaults__", "__closure__"] ["__init__"] ++ functions [] ["generate"] },
   { name := "TypeDescriptor", module := "namegen.runtime.loader"
     needs := ["descriptor", "type_name"]
     members := placed ++ documented ++ keeping ++
       values "dict" ["__annotations__", "__dataclass_fields__"] ++ nulls ["assembly"] ++
       classFunctions ["__doc__"] ["parse"] ++ functions [] ["__str__", "__eq__", "__hash__"] ++
       values "_DataclassParams" ["__dataclass_params__"] ++
       functions ["__defaults__", "__closure__"] ["__init__"] ++
       functions ["__closure__"] ["__repr__", "__setattr__", "__delattr__"] ++
       values "tuple" ["__match_args__"] },
   { name := "PluginLoader", module := "namegen.runtime.loader"
     members := placed ++ documented ++ keeping ++
       functions ["__doc__"] ["resolve", "create_instance", "resolve_type",
         "_find_loaded_module"] ++
       functions [] ["_resolve_type", "_load_from_path", "_load_by_name"] ++
       staticFunctions ["__doc__"] ["_relative_type_path"] ++
       staticFunctions [] ["_import_if_present", "_looks_like_path", "_module_name_for_path",
         "_instantiate"] ++
       functions ["__doc__", "__defaults__"] ["load_assembly"] },
   { name := "GeneratorSettings", module := "namegen.pipeline.naming_pipeline"
     members := placed ++ documented ++ keeping ++
       values "dict" ["__annotations__", "__dataclass_fields__"] ++
       values "str" ["separator", "digit_prefix"] ++
       nulls ["enum_name_generator", "type_name_generator", "property_name_generator",
         "__hash__"] ++
       functions ["__doc__"] ["__post_init__", "get_generator", "set_generator", "as_dict"] ++
       values "_DataclassParams" ["__dataclass_params__"] ++
       functions ["__defaults__"] ["__init__"] ++ functions ["__closure__"] ["__repr__"] ++
       functions [] ["__eq__"] ++ values "tuple" ["__match_args__"] },
   { name := "NamingPipeline", module := "namegen.pipeline.naming_pipeline"
     construction := .ok .pipeline
     members := placed ++ documented ++ keeping ++ functions ["__defaults__"] ["__init__"] ++
       classFunctions ["__doc__", "__defaults__"] ["from_config"] ++
       properties ["__doc__"] ["generation_started"] ++
       functions ["__doc__"] ["descriptors", "apply_overrides", "generate_enum_name",
         "generate_type_name", "generate_property_name", "generate_enum_names"] },
   { name := "GeneratorConfig", module := "namegen.utils.config"
     members := placed ++ documented ++ keeping ++
       values "dict" ["__annotations__", "__dataclass_fields__"] ++
       nulls ["type_name_generator_type", "property_name_generator_type",
         "enum_name_generator_type", "__hash__"] ++
       values "_DataclassParams" ["__dataclass_params__"] ++
       functions ["__defaults__"] ["__init__"] ++ functions ["__closure__"] ["__repr__"] ++
       functions [] ["__eq__"] ++ values "tuple" ["__match_args__"] },
   { name := "NamingConfig", module := "namegen.utils.config"
     members := placed ++ documented ++ keeping ++
       values "dict" ["__annotations__", "__dataclass_fields__"] ++
       values "str" ["separator", "digit_prefix"] ++
       values "_DataclassParams" ["__dataclass_params__"] ++
       functions ["__defaults__"] ["__init__"] ++ functions ["__closure__"] ["__repr__"] ++
       functions [] ["__eq__"] ++ nulls ["__hash__"] ++ values "tuple" ["__match_args__"] },
   { name := "LoggingConfig", module := "namegen.utils.config"
     members := placed ++ documented ++ keeping ++
       values "dict" ["__annotations__", "__dataclass_fields__"] ++
       values "str" ["level", "log_file"] ++ values "bool" ["enable_file_logging"] ++
       values "_DataclassParams" ["__dataclass_params__"] ++
       functions ["__defaults__"] ["__init__"] ++ functions ["__closure__"] ["__repr__"] ++
       functions [] ["__eq__"] ++ nulls ["__hash__"] ++ values "tuple" ["__match_args__"] },
   { name := "NamegenConfig", module := "namegen.utils.config"
     construction := .ok .configuration
     members := placed ++ documented ++ keeping ++
       functions ["__doc__", "__defaults__"] ["__init__"] ++
       functions ["__doc__"] ["_get_config_file_path", "_load_config",
         "_create_generator_config", "_create_naming_config", "_create_logging_config",
         "apply_logging", "has_overrides", "save_config"] },
   { name := "GeneratorSlot", module := "namegen.utils.constants"
     construction := lacksArguments "EnumType.__call__()" ["value"]
     kind := "EnumType"
     bases := ["Enum"]
     members := placed ++ documented ++ functions ["__doc__"] ["_generate_next_value_"] ++
       values "bool" ["_use_args_"] ++ values "list" ["_member_names_", "_unhashable_values_"] ++
       values "dict" ["_member_map_", "_value2member_map_"] ++
       renamed [("_member_type_", "object")] ++ nulls ["_value_repr_"] ++
       functions [] ["__new__"] ++
       things [("_new_member_", .builtin (.cls objectClass) []), ("ENUM", slotMember), ("TYPE",
         slotMember), ("PROPERTY", slotMember)] },
   { name := "NamegenError", module := "namegen.utils.exceptions"
     needs := ["message"]
     bases := ["Exception", "BaseException"]
     members := placed ++ documented ++
       functions ["__doc__", "__defaults__", "__closure__"] ["__init__"] ++
       functions ["__doc__"] ["__str__"] ++ getsets "NoneType" ["__weakref__"] },
   { name := "NamingError", module := "namegen.utils.exceptions"
     needs := ["slot", "value"]
     bases := ["NamegenError", "Exception", "BaseException"]
     members := placed ++ documented ++
       functions ["__doc__", "__defaults__", "__closure__"] ["__init__"] },
   { name := "PluginError", module := "namegen.utils.exceptions"
     needs := ["descriptor"]
     bases := ["NamegenError", "Exception", "BaseException"]
     members := placed ++ documented ++
       functions ["__doc__", "__defaults__", "__closure__"] ["__init__"] },
   { name := "AssemblyLoadError", module := "namegen.utils.exceptions"
     needs := ["descriptor", "assembly"]
     bases := ["PluginError", "NamegenError", "Exception", "BaseException"]
     members := placed ++ documented ++ functions ["__defaults__", "__closure__"] ["__init__"] },
   { name := "TypeNotFoundError", module := "namegen.utils.exceptions"
     needs := ["descriptor", "type_name"]
     bases := ["PluginError", "NamegenError", "Exception", "BaseException"]
     members := placed ++ documented ++ functions ["__defaults__", "__closure__"] ["__init__"] },
   { name := "InstantiationError", module := "namegen.utils.exceptions"
     needs := ["descriptor", "type_name"]
     bases := ["PluginError", "NamegenError", "Exception", "BaseException"]
     members := placed ++ documented ++ functions ["__defaults__", "__closure__"] ["__init__"] },
   { name := "InterfaceMismatchError", module := "namegen.utils.exceptions"
     needs := ["descriptor", "type_name", "contract"]
     bases := ["PluginError", "NamegenError", "Exception", "BaseException"]
     members := placed ++ documented ++ functions ["__closure__"] ["__init__"] },
   { name := "PipelineStateError", module := "namegen.utils.exceptions"
     needs := ["message"]
     bases := ["NamegenError", "Exception", "BaseException"]
     members := placed ++ documented ++ functions ["__defaults__", "__closure__"] ["__init__"] },
   { name := "NamegenLogger", module := "namegen.utils.logging"
     needs := ["name"]
     members := placed ++ documented ++ keeping ++
       functions ["__doc__"] ["__init__", "log_assembly_loaded", "log_override_applied",
         "log_naming_failure", "log_slot_defaults"] }]

def modules : List ModuleEntry :=
  [{ name := "namegen", isPackage := true
     members := documented ++ values "str" ["__version__", "__author__", "__email__"] ++
       namedModules [("schema", "namegen.schema"), ("utils", "namegen.utils"), ("generators",
         "namegen.generators"), ("runtime", "namegen.runtime"), ("pipeline",
         "namegen.pipeline")] ++
       namedClasses ["JsonSchema", "JsonSchemaProperty", "EnumNameGenerator",
         "TypeNameGenerator", "PropertyNameGenerator", "DefaultEnumNameGenerator",
         "DefaultTypeNameGenerator", "DefaultPropertyNameGenerator", "EnumNameDecorator",
         "TypeNameDecorator", "PropertyNameDecorator", "PluginLoader", "TypeDescriptor",
         "GeneratorSettings", "NamingPipeline", "GeneratorSlot", "NamegenError", "NamingError",
         "PluginError", "AssemblyLoadError", "TypeNotFoundError", "InstantiationError",
         "InterfaceMismatchError", "PipelineStateError", "NamegenConfig"] ++
       functions ["__doc__"] ["get_config"] ++ values "list" ["__all__"] },
   { name := "namegen.schema"
     members := documented ++
       functions ["__doc__", "__defaults__", "__kwdefaults__"] ["dataclass"] ++
       functions ["__doc__", "__kwdefaults__"] ["field"] ++
       namedClasses ["Any", "JsonSchema", "JsonSchemaProperty"] ++
       things [("annotations", laterFeature), ("Optional", specialForm), ("Tuple", generic
         "_TupleType" (.cls (classNumber "tuple")))] },
   { name := "namegen.generators", isPackage := true
     members := documented ++
       namedModules [("base", "namegen.generators.base"), ("defaults",
         "namegen.generators.defaults"), ("decorators", "namegen.generators.decorators")] ++
       namedClasses ["EnumNameGenerator", "TypeNameGenerator", "PropertyNameGenerator",
         "DefaultEnumNameGenerator", "DefaultTypeNameGenerator", "DefaultPropertyNameGenerator",
         "IdentifierNormalizer", "EnumNameDecorator", "TypeNameDecorator",
         "PropertyNameDecorator"] ++
       functions ["__doc__"] ["get_contract"] ++ values "list" ["__all__"] },
   { name := "namegen.generators.base"
     members := documented ++
       namedClasses ["ABC", "Any", "JsonSchema", "JsonSchemaProperty", "GeneratorSlot",
         "EnumNameGenerator", "TypeNameGenerator", "PropertyNameGenerator"] ++
       functions ["__doc__"] ["abstractmethod", "get_contract"] ++ values "dict" ["CONTRACTS"] ++
       things [("annotations", laterFeature), ("Iterable", generic "_SpecialGenericAlias"
         (.ofKind "ABCMeta")), ("Optional", specialForm)] },
   { name := "namegen.generators.defaults"
     members := documented ++
       namedClasses ["Any", "JsonSchema", "JsonSchemaProperty", "GeneratorSlot", "NamingError",
         "EnumNameGenerator", "PropertyNameGenerator", "TypeNameGenerator",
         "DefaultEnumNameGenerator", "DefaultTypeNameGenerator", "DefaultPropertyNameGenerator"] ++
       values "str" ["ANONYMOUS_TYPE_NAME"] ++ values "dict" ["ENUM_OPERATOR_NAMES"] ++
       functions ["__doc__"] ["apply_replacements", "generate_unique_name"] ++
       functions ["__doc__", "__defaults__"] ["to_upper_camel_case"] ++
       values "tuple" ["_GENERIC_HINT_REPLACEMENTS", "_PROPERTY_REPLACEMENTS"] ++
       things [("annotations", laterFeature), ("Iterable", generic "_SpecialGenericAlias"
         (.ofKind "ABCMeta")), ("Optional", specialForm)] },
   { name := "namegen.generators.decorators"
     members := documented ++
       namedClasses ["Any", "JsonSchema", "JsonSchemaProperty", "GeneratorSlot", "NamingError",
         "NamegenLogger", "EnumNameGenerator", "PropertyNameGenerator", "TypeNameGenerator",
         "DefaultEnumNameGenerator", "DefaultPropertyNameGenerator", "DefaultTypeNameGenerator",
         "IdentifierNormalizer", "_NormalizingDecorator", "EnumNameDecorator",
         "TypeNameDecorator", "PropertyNameDecorator"] ++
       values "str" ["CANONICAL_SEPARATOR", "DIGIT_PREFIX"] ++
       values "tuple" ["ENUM_POST_CASING_REPLACEMENTS", "ENUM_SEPARATOR_CHARS",
         "PROPERTY_SEPARATOR_CHARS", "PROPERTY_STRIPPED_CHARS", "TYPE_SEPARATOR_CHARS"] ++
       functions ["__doc__"] ["apply_replacements", "generate_unique_name", "replace_chars"] ++
       functions ["__doc__", "__defaults__"] ["ensure_letter_leading", "strip_invalid_chars",
         "to_upper_camel_case"] ++
       things [("annotations", laterFeature), ("Iterable", generic "_SpecialGenericAlias"
         (.ofKind "ABCMeta")), ("Optional", specialForm), ("Tuple", generic "_TupleType" (.cls
         (classNumber "tuple"))), ("_log", ownLogger)] },
   { name := "namegen.runtime", isPackage := true
     members := documented ++ namedModules [("loader", "namegen.runtime.loader")] ++
       namedClasses ["PluginLoader", "TypeDescriptor"] ++
       functions ["__doc__"] ["get_loaded_assemblies"] ++ values "list" ["__all__"] },
   { name := "namegen.runtime.loader"
     members := documented ++ values "dict" ["__annotations__", "_loaded_assemblies"] ++
       strangeModules ["hashlib", "importlib", "os", "sys"] ++
       functions ["__doc__", "__defaults__", "__kwdefaults__"] ["dataclass"] ++
       namedClasses ["Any", "AssemblyLoadError", "InstantiationError", "InterfaceMismatchError",
         "TypeNotFoundError", "NamegenLogger", "TypeDescriptor", "PluginLoader"] ++
       renamed [("ModuleType", "module")] ++
       values "str" ["DESCRIPTOR_SEPARATOR", "PACKAGE_INIT_FILE", "PLUGIN_MODULE_PREFIX",
         "PYTHON_SOURCE_SUFFIX", "TYPE_PATH_SEPARATOR"] ++
       functions ["__doc__"] ["_module_aliases", "get_loaded_assemblies"] ++
       things [("Dict", generic "_SpecialGenericAlias" (.cls (classNumber "dict"))),
         ("Optional", specialForm), ("Tuple", generic "_TupleType" (.cls (classNumber
         "tuple"))), ("_log", ownLogger)] },
   { name := "namegen.pipeline", isPackage := true
     members := documented ++
       namedModules [("naming_pipeline", "namegen.pipeline.naming_pipeline")] ++
       namedClasses ["GeneratorSettings", "NamingPipeline"] ++ values "list" ["__all__"] },
   { name := "namegen.pipeline.naming_pipeline"
     members := documented ++
       functions ["__doc__", "__defaults__", "__kwdefaults__"] ["dataclass"] ++
       namedClasses ["Any", "EnumNameGenerator", "PropertyNameGenerator", "TypeNameGenerator",
         "EnumNameDecorator", "PropertyNameDecorator", "TypeNameDecorator", "PluginLoader",
         "JsonSchema", "JsonSchemaProperty", "NamegenConfig", "GeneratorSlot",
         "PipelineStateError", "NamegenLogger", "GeneratorSettings", "NamingPipeline"] ++
       functions ["__doc__"] ["get_contract"] ++
       values "str" ["CANONICAL_SEPARATOR", "DIGIT_PREFIX"] ++
       values "dict" ["_SLOT_ATTRIBUTES"] ++
       things [("annotations", laterFeature), ("Dict", generic "_SpecialGenericAlias" (.cls
         (classNumber "dict"))), ("Iterable", generic "_SpecialGenericAlias" (.ofKind
         "ABCMeta")), ("List", generic "_SpecialGenericAlias" (.cls (classNumber "list"))),
         ("Optional", specialForm), ("_log", ownLogger)] },
   { name := "namegen.utils", isPackage := true
     members := documented ++
       namedModules [("exceptions", "namegen.utils.exceptions"), ("constants",
         "namegen.utils.constants"), ("naming", "namegen.utils.naming"), ("logging",
         "namegen.utils.logging"), ("config", "namegen.utils.config"), ("info",
         "namegen.utils.info")] ++
       namedClasses ["NamegenError", "NamingError", "PluginError", "AssemblyLoadError",
         "TypeNotFoundError", "InstantiationError", "InterfaceMismatchError",
         "PipelineStateError", "GeneratorSlot", "NamegenConfig", "GeneratorConfig",
         "NamingConfig", "LoggingConfig", "NamegenLogger"] ++
       values "str" ["CANONICAL_SEPARATOR", "DIGIT_PREFIX"] ++
       functions ["__doc__", "__defaults__"] ["to_upper_camel_case", "strip_invalid_chars",
         "ensure_letter_leading", "setup_logging"] ++
       functions ["__doc__"] ["generate_unique_name", "is_upper_camel_case", "get_config",
         "set_config", "load_config", "get_logger"] ++
       values "list" ["__all__"] },
   { name := "namegen.utils.naming"
     members := documented ++ values "str" ["CANONICAL_SEPARATOR", "DIGIT_PREFIX"] ++
       functions ["__doc__"] ["replace_chars", "apply_replacements", "is_identifier_char",
         "can_start_segment", "is_upper_camel_case", "generate_unique_name"] ++
       functions ["__doc__", "__defaults__"] ["strip_invalid_chars", "to_upper_camel_case",
         "ensure_letter_leading"] ++
       things [("annotations", laterFeature), ("AbstractSet", generic "_SpecialGenericAlias"
         (.ofKind "ABCMeta")), ("Iterable", generic "_SpecialGenericAlias" (.ofKind "ABCMeta")),
         ("Tuple", generic "_TupleType" (.cls (classNumber "tuple")))] },
   { name := "namegen.utils.config"
     members := documented ++ values "dict" ["__annotations__"] ++
       strangeModules ["json", "os", "yaml"] ++
       functions ["__doc__", "__defaults__", "__kwdefaults__"] ["dataclass"] ++
       namedClasses ["Path", "Any", "GeneratorConfig", "NamingConfig", "LoggingConfig",
         "NamegenConfig"] ++
       values "str" ["CANONICAL_SEPARATOR", "DIGIT_PREFIX", "ENV_CONFIG_FILE",
         "ENV_ENUM_NAME_GENERATOR", "ENV_LOG_LEVEL", "ENV_PROPERTY_NAME_GENERATOR",
         "ENV_TYPE_NAME_GENERATOR"] ++
       values "tuple" ["ENUM_POST_CASING_REPLACEMENTS"] ++
       functions ["__doc__"] ["get_logger", "get_config", "set_config", "load_config"] ++
       functions ["__doc__", "__defaults__"] ["setup_logging"] ++
       values "frozenset" ["_POST_CASING_CHARS"] ++ nulls ["_global_config"] ++
       things [("Dict", generic "_SpecialGenericAlias" (.cls (classNumber "dict"))),
         ("Optional", specialForm), ("logger", logger)] },
   { name := "namegen.utils.constants"
     members := documented ++ namedClasses ["Enum", "GeneratorSlot"] ++
       values "str" ["CANONICAL_SEPARATOR", "DIGIT_PREFIX", "ANONYMOUS_TYPE_NAME",
         "DESCRIPTOR_SEPARATOR", "TYPE_PATH_SEPARATOR", "PLUGIN_MODULE_PREFIX",
         "PYTHON_SOURCE_SUFFIX", "PACKAGE_INIT_FILE", "ENV_CONFIG_FILE", "ENV_LOG_LEVEL",
         "ENV_TYPE_NAME_GENERATOR", "ENV_PROPERTY_NAME_GENERATOR", "ENV_ENUM_NAME_GENERATOR"] ++
       values "tuple" ["ENUM_SEPARATOR_CHARS", "ENUM_POST_CASING_REPLACEMENTS",
         "TYPE_SEPARATOR_CHARS", "PROPERTY_SEPARATOR_CHARS", "PROPERTY_STRIPPED_CHARS"] ++
       values "dict" ["ENUM_OPERATOR_NAMES"] ++ things [("annotations", laterFeature)] },
   { name := "namegen.utils.exceptions"
     members := documented ++
       namedClasses ["Any", "NamegenError", "NamingError", "PluginError", "AssemblyLoadError",
         "TypeNotFoundError", "InstantiationError", "InterfaceMismatchError",
         "PipelineStateError"] ++
       things [("Optional", specialForm)] },
   { name := "namegen.utils.logging"
     members := documented ++ strangeModules ["logging", "os"] ++ values "str" ["ENV_LOG_LEVEL"] ++
       functions ["__doc__", "__defaults__"] ["setup_logging"] ++
       functions ["__doc__"] ["get_logger"] ++ namedClasses ["NamegenLogger"] ++
       things [("Optional", specialForm)] },
   { name := "namegen.utils.info"
     members := documented ++ strangeModules ["platform", "sys", "yaml"] ++
       namedClasses ["Any", "NamingPipeline", "NamegenError"] ++
       namedModules [("namegen", "namegen")] ++
       functions ["__doc__"] ["get_config", "get_system_info", "get_namegen_info", "print_info",
         "main"] ++
       things [("Dict", generic "_SpecialGenericAlias" (.cls (classNumber "dict")))] }]

def allClasses : List ClassEntry :=
  contracts ++ Basics.classes ++ Builtin.raised ++ Surroundings.classes ++ classes

set_option maxRecDepth 4000 in
/-- Every class has the number that its name stands for. -/
theorem allClasses_name : allClasses.map (·.name) = standingClasses := rfl

theorem modules_name : modules.map (·.name) = ownModules := rfl

/-- A registry in which the library's own modules are loaded and nothing else. -/
def registry : Registry :=
  { modules := (modules.map ModuleEntry.build).toArray
    classes := (allClasses.map ClassEntry.build).toArray
    table := ownModules.map (fun name => (name, moduleNumber name))
    names := Builtin.names }

end SchemaNaming.Plugin.Library
