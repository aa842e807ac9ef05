import SchemaNaming.Proofs.Config.Saved
import SchemaNaming.Proofs.Pipeline.Configured
import SchemaNaming.Proofs.Value.Alike

/-!
Configurations that are saved and read again. What comes from the environment comes from there
again, what was tested passes the test again, and everything else stands in the file that has been
written.
-/

namespace SchemaNaming.Config

variable {c c' : Config} {h h' : Host} {place : Location} {entries : List (Value × Value)}

/-- What a configuration has taken from the environment, and what it has tested. -/
structure IsReadIn (h : Host) (c : Config) : Prop where
  override : ∀ slot descriptor,
    nonempty? (h.fromEnvironment? (overrideVariable slot)) = some descriptor →
      c.overrides.get slot = .text descriptor
  naming : IsSound c.naming
  level : c.logging.level.isTrue = true ∨
    c.logging.level = .text ((h.fromEnvironment? Host.levelVariable).getD "INFO")

theorem overrideOf_given {part : Value} {slot : Slot}
    (given : nonempty? (h.fromEnvironment? (overrideVariable slot)) = some descriptor) :
    overrideOf h part slot = .ok (.text descriptor) := by
  rw [overrideOf, given]

theorem except_bind_eq_ok {x : Except ε α} {f : α → Except ε β} :
    (x >>= f) = .ok b ↔ ∃ a, x = .ok a ∧ f a = .ok b := by
  cases x with
  | error e => exact ⟨fun failed => (nomatch failed), fun ⟨_, failed, _⟩ => (nomatch failed)⟩
  | ok a =>
    refine ⟨fun done => ⟨a, rfl, done⟩, ?_⟩
    rintro ⟨_, same, done⟩
    obtain rfl := Except.ok.inj same
    exact done

theorem overridesOf_ok {o : Overrides} (read : overridesOf h entries = .ok o) (slot : Slot) :
    overrideOf h (sectionOf entries "generators") slot = .ok (o.get slot) := by
  obtain ⟨type, typeRead, read⟩ := except_bind_eq_ok.mp read
  obtain ⟨property, propertyRead, read⟩ := except_bind_eq_ok.mp read
  obtain ⟨enum, enumRead, read⟩ := except_bind_eq_ok.mp read
  obtain rfl := Except.ok.inj read
  cases slot <;> assumption

theorem loggingOf_level {l : LogOptions} (read : loggingOf h entries = .ok l) :
    l.level.isTrue = true ∨
      l.level = .text ((h.fromEnvironment? Host.levelVariable).getD "INFO") := by
  obtain ⟨level, _, read⟩ := except_bind_eq_ok.mp read
  obtain ⟨fileLogging, _, read⟩ := except_bind_eq_ok.mp read
  obtain ⟨file, _, read⟩ := except_bind_eq_ok.mp read
  obtain rfl := Except.ok.inj read
  dsimp only
  split
  · rename_i given
    exact .inl given
  · exact .inr rfl

/-- Where the parts of a configuration come from. -/
theorem read_eq_ok {given : Option String} (built : read given h = (.ok c, h')) :
    c.path = pathFor h given ∧ ∃ reading, readFile h c.path = .ok reading ∧
      overridesOf h reading.entries = .ok c.overrides ∧
      namingOf reading.entries (h.record (readingRecord c.path reading)) = (.ok c.naming, h') ∧
      loggingOf h reading.entries = .ok c.logging := by
  rw [read, Run.bind_apply, Run.get_apply] at built
  obtain ⟨reading, _, found, rest⟩ := Run.bind_eq_ok.mp built
  obtain ⟨_, _, noted, rest⟩ := Run.bind_eq_ok.mp rest
  obtain ⟨overrides, _, overridden, rest⟩ := Run.bind_eq_ok.mp rest
  obtain ⟨naming, _, named, rest⟩ := Run.bind_eq_ok.mp rest
  obtain ⟨logging, _, logged, final⟩ := Run.bind_eq_ok.mp rest
  obtain ⟨reads, rfl⟩ := Run.check_eq_ok.mp found
  obtain ⟨-, rfl⟩ := Prod.mk.inj noted
  obtain ⟨overrides_eq, rfl⟩ := Run.check_eq_ok.mp overridden
  obtain ⟨logging_eq, rfl⟩ := Run.check_eq_ok.mp logged
  obtain ⟨same, rfl⟩ := Prod.mk.inj final
  obtain rfl := Except.ok.inj same
  exact ⟨rfl, reading, reads, overrides_eq, named, logging_eq⟩

theorem IsReadIn.of_read {given : Option String} (built : read given h = (.ok c, h')) :
    IsReadIn h c := by
  obtain ⟨-, reading, -, overridden, -, logged⟩ := read_eq_ok built
  refine ⟨fun slot descriptor given => ?_, read_ok built, loggingOf_level logged⟩
  have read := overridesOf_ok overridden slot
  rw [overrideOf, given] at read
  exact (Except.ok.inj read).symm

/-- A file that is no mapping leaves the naming options as they are without a file. -/
theorem naming_of_unread {given : Option String} {reading : Reading}
    (path : pathFor h given = file) (unread : readFile h file = .ok reading)
    (empty : reading.entries = []) (built : read given h = (.ok c, h')) : c.naming = {} := by
  obtain ⟨own, found, reads, -, named, -⟩ := read_eq_ok built
  rw [own, path, unread] at reads
  obtain rfl := Except.ok.inj reads
  have defaults (h : Host) : namingOf [] h = (.ok {}, h) := rfl
  rw [empty, defaults] at named
  exact (Except.ok.inj (Prod.mk.inj named).1).symm

/-- Two configurations with the same settings. -/
structure SameSettings (c c' : Config) : Prop where
  overrides : ∀ slot, Value.Alike (c.overrides.get slot) (c'.overrides.get slot)
  naming : c.naming = c'.naming
  level : Value.Alike c.logging.level c'.logging.level
  fileLogging : Value.Alike c.logging.fileLogging c'.logging.fileLogging
  logFile : Value.Alike c.logging.file c'.logging.file

/-- A section that has been saved. -/
theorem sectionOf_alike {fields more : List (String × Value)} {field : String × Value}
    (name : String) (alike : Value.AllAlike entries (mapping fields))
    (listed : Value.get? name (mapping fields) = some (.dict (mapping (field :: more)))) :
    ∃ others, sectionOf entries name = .dict others ∧
      Value.AllAlike others (mapping (field :: more)) := by
  obtain ⟨part, found, same⟩ := alike.get?_eq_some listed
  obtain ⟨others, bare, further⟩ := same.bare_eq_dict
  have some : part.isTrue = true := same.isTrue_eq
  refine ⟨others, ?_, further⟩
  rw [sectionOf, found]
  dsimp only
  rw [if_pos some, bare]

/-- A field of a section that has been saved. -/
theorem fieldOf_alike {fields : List (String × Value)} (key : String)
    (alike : Value.AllAlike entries (mapping fields))
    (listed : Value.get? key (mapping fields) = some v) :
    ∃ w, fieldOf (.dict entries) key = .ok (some w) ∧ Value.Alike w v := by
  obtain ⟨w, found, same⟩ := alike.get?_eq_some listed
  exact ⟨w, congrArg Except.ok found, same⟩

theorem overrideKey_beq (slot other : Slot) :
    (overrideKey slot == overrideKey other) = (slot == other) := by
  cases slot <;> cases other <;> decide +kernel

theorem get?_overrides (o : Overrides) (slot : Slot) :
    Value.get? (overrideKey slot)
      (mapping (Overrides.order.map (fun slot => (overrideKey slot, o.get slot)))) =
        some (o.get slot) := by
  cases slot <;>
    simp [mapping, Overrides.order, Value.get?, Value.sameKey, overrideKey_beq]

/-- The descriptors come from the environment or from the file, as before. -/
theorem overridesOf_alike (alike : Value.AllAlike entries c.toEntries) (settled : IsReadIn h c) :
    ∃ o, overridesOf h entries = .ok o ∧
      ∀ slot, Value.Alike (o.get slot) (c.overrides.get slot) := by
  obtain ⟨part, section_, same⟩ := sectionOf_alike "generators" alike rfl
  have read (slot : Slot) : ∃ v, overrideOf h (sectionOf entries "generators") slot = .ok v ∧
      Value.Alike v (c.overrides.get slot) := by
    cases given : nonempty? (h.fromEnvironment? (overrideVariable slot)) with
    | some descriptor =>
      rw [settled.override slot descriptor given]
      exact ⟨.text descriptor, overrideOf_given given, .refl _⟩
    | none =>
      obtain ⟨v, found, alike⟩ := fieldOf_alike _ same (get?_overrides c.overrides slot)
      refine ⟨v, ?_, alike⟩
      rw [overrideOf, given, section_]
      dsimp only
      rw [found]
      rfl
  obtain ⟨type, typeRead, typeSame⟩ := read .type
  obtain ⟨property, propertyRead, propertySame⟩ := read .property
  obtain ⟨enum, enumRead, enumSame⟩ := read .enum
  refine ⟨{ type, property, enum }, ?_, fun slot => ?_⟩
  · rw [overridesOf, typeRead, propertyRead, enumRead]
    rfl
  · cases slot <;> assumption

/-- What has passed its test passes it again. -/
theorem accepted_of_test {test : Value → Bool} {v : Value} (passes : test v = true)
    (what fallback : String) (h : Host) : accepted test what fallback v h = (.ok v, h) := by
  rw [accepted, if_pos passes]
  rfl

theorem accepted_of_refused {test : Value → Bool} {v : Value} (refused : test v = false)
    (short : v.hasLongInteger = false) (what fallback : String) (h : Host) :
    accepted test what fallback v h =
      (.ok (.text fallback), h.record (invalidRecord what v fallback)) := by
  rw [accepted, if_neg (by simp [refused]), if_neg (by simp [short])]
  rfl

theorem text_of_isSeparator (passes : isSeparator v = true) : ∃ s, v = .text s := by
  cases v with
  | text s => exact ⟨s, rfl⟩
  | _ => contradiction

theorem text_of_isDigitPrefix (passes : isDigitPrefix v = true) : ∃ s, v = .text s := by
  cases v with
  | text s => exact ⟨s, rfl⟩
  | _ => contradiction

theorem namingOf_eq_ok {separatorField prefixField : Option Value} {separator digitPrefix : Value}
    {h h₁ h₂ : Host}
    (separatorRead : fieldOf (sectionOf entries "naming") "separator" = .ok separatorField)
    (separates : accepted isSeparator "separator" "-" (separatorField.getD (.text "-")) h =
      (.ok separator, h₁))
    (prefixRead : fieldOf (sectionOf entries "naming") "digit_prefix" = .ok prefixField)
    (leads : accepted isDigitPrefix "digit prefix" "N" (prefixField.getD (.text "N")) h₁ =
      (.ok digitPrefix, h₂)) :
    namingOf entries h = (.ok { separator, digitPrefix }, h₂) := by
  refine Run.bind_eq_ok.mpr ⟨_, h, Run.check_eq_ok.mpr ⟨separatorRead, rfl⟩, ?_⟩
  refine Run.bind_eq_ok.mpr ⟨_, h₁, separates, ?_⟩
  refine Run.bind_eq_ok.mpr ⟨_, h₁, Run.check_eq_ok.mpr ⟨prefixRead, rfl⟩, ?_⟩
  exact Run.bind_eq_ok.mpr ⟨_, h₂, leads, rfl⟩

/-- The naming options are texts, and read as they were without a warning. -/
theorem namingOf_alike (alike : Value.AllAlike entries c.toEntries) (sound : IsSound c.naming)
    (h : Host) : namingOf entries h = (.ok c.naming, h) := by
  obtain ⟨part, section_, same⟩ := sectionOf_alike "naming" alike rfl
  obtain ⟨separator, separatorRead, separatorSame⟩ := fieldOf_alike "separator" same rfl
  obtain ⟨digitPrefix, prefixRead, prefixSame⟩ := fieldOf_alike "digit_prefix" same rfl
  obtain ⟨s, separatorText⟩ := text_of_isSeparator sound.separates
  obtain ⟨p, prefixText⟩ := text_of_isDigitPrefix sound.leads
  rw [separatorText] at separatorSame
  rw [prefixText] at prefixSame
  obtain rfl := separatorSame.eq_text
  obtain rfl := prefixSame.eq_text
  have separates := accepted_of_test sound.separates "separator" "-" h
  have leads := accepted_of_test sound.leads "digit prefix" "N" h
  rw [separatorText] at separates
  rw [prefixText] at leads
  rw [← section_] at separatorRead prefixRead
  rw [namingOf_eq_ok separatorRead separates prefixRead leads, ← separatorText, ← prefixText]

/-- A level that counts as false has come from the environment, and comes from there again. -/
theorem loggingOf_alike (alike : Value.AllAlike entries c.toEntries) (settled : IsReadIn h c) :
    ∃ l, loggingOf h entries = .ok l ∧ Value.Alike l.level c.logging.level ∧
      Value.Alike l.fileLogging c.logging.fileLogging ∧ Value.Alike l.file c.logging.file := by
  obtain ⟨part, section_, same⟩ := sectionOf_alike "logging" alike rfl
  obtain ⟨level, levelRead, levelSame⟩ := fieldOf_alike "level" same rfl
  obtain ⟨fileLogging, fileLoggingRead, fileLoggingSame⟩ :=
    fieldOf_alike "enable_file_logging" same rfl
  obtain ⟨file, fileRead, fileSame⟩ := fieldOf_alike "log_file" same rfl
  let resolved : Value :=
    if level.isTrue then level else .text ((h.fromEnvironment? Host.levelVariable).getD "INFO")
  refine ⟨{ level := resolved, fileLogging, file }, ?_, ?_, fileLoggingSame, fileSame⟩
  · rw [loggingOf, section_]
    dsimp only
    rw [levelRead, fileLoggingRead, fileRead]
    rfl
  · cases truth : level.isTrue with
    | true => simpa only [resolved, truth, if_true] using levelSame
    | false =>
      have blank : c.logging.level.isTrue = false := by rw [← levelSame.isTrue_eq, truth]
      rcases settled.level with true_ | fallback
      · simp [blank] at true_
      · simp only [resolved, truth, Bool.false_eq_true, if_false]
        rw [fallback]
        exact .refl _

theorem read_of_mapping {given : Option String} {overrides : Overrides} {naming : NamingOptions}
    {logging : LogOptions} {h' : Host} (path : pathFor h given = file)
    (reading : readFile h file = .ok (.mapping entries))
    (overridesRead : overridesOf h entries = .ok overrides)
    (namingRead : namingOf entries (h.record (readingRecord file (.mapping entries))) =
      (.ok naming, h'))
    (loggingRead : loggingOf h entries = .ok logging) :
    read given h = (.ok { path := file, overrides, naming, logging }, h') := by
  let logged := h.record (readingRecord file (.mapping entries))
  refine Run.bind_eq_ok.mpr ⟨h, h, rfl, ?_⟩
  rw [path]
  refine Run.bind_eq_ok.mpr ⟨_, h, Run.check_eq_ok.mpr ⟨reading, rfl⟩, ?_⟩
  refine Run.bind_eq_ok.mpr ⟨(), logged, rfl, ?_⟩
  refine Run.bind_eq_ok.mpr ⟨_, logged, Run.check_eq_ok.mpr ⟨overridesRead, rfl⟩, ?_⟩
  refine Run.bind_eq_ok.mpr ⟨_, h', namingRead, ?_⟩
  exact Run.bind_eq_ok.mpr ⟨_, h', Run.check_eq_ok.mpr ⟨loggingRead, rfl⟩, rfl⟩

/-- A file that holds what has been saved is read as a configuration of the same settings. -/
theorem read_alike (settled : IsReadIn h c) (path : pathFor h given = c.path)
    (reading : readFile h c.path = .ok (.mapping entries))
    (alike : Value.AllAlike entries c.toEntries) :
    ∃ c' h', read given h = (.ok c', h') ∧ c'.path = c.path ∧ SameSettings c' c := by
  obtain ⟨overrides, overridesRead, overridesSame⟩ := overridesOf_alike alike settled
  obtain ⟨logging, loggingRead, levelSame, fileLoggingSame, fileSame⟩ :=
    loggingOf_alike alike settled
  have naming := namingOf_alike alike settled.naming
  have again := read_of_mapping path reading overridesRead (naming _) loggingRead
  exact ⟨_, _, again, rfl, overridesSame, rfl, levelSame, fileLoggingSame, fileSame⟩

theorem IsReadIn.of_environment (settled : IsReadIn h c) (same : h'.environment = h.environment) :
    IsReadIn h' c := by
  have unchanged (name : String) : h'.fromEnvironment? name = h.fromEnvironment? name :=
    congrArg (List.lookup name) same
  refine ⟨fun slot descriptor given => ?_, settled.naming, ?_⟩
  · rw [unchanged] at given
    exact settled.override slot descriptor given
  · rw [unchanged]
    exact settled.level

/-- A path that is given says by itself which file is meant. -/
theorem pathFor_of_given {path : String} (named : nonempty? given = some path) (h : Host) :
    pathFor h given = Path.plain path := by
  rw [pathFor, named, Option.some_or]

example (h : Host) : pathFor h (some ".//conf/namegen.json") = "conf/namegen.json" :=
  (pathFor_of_given rfl h).trans (by decide +kernel)

/-- What the library of the file's format has written, it reads as the same value. -/
def ReadsBack (c : Config) : Prop :=
  ∃ v, parse c.path c.document.text = .ok v ∧ Value.Alike v (.dict c.toEntries)

theorem readText_of_parse {path s : String} {v : Value} (parsed : parse path s = .ok v)
    (bare : v.bare = .dict entries) : readText path s = .ok (.mapping entries) := by
  unfold readText
  generalize parse path s = outcome at parsed ⊢
  subst parsed
  dsimp only
  rw [bare]

theorem readText_of_readsBack (library : c.ReadsBack) :
    ∃ entries, readText c.path c.document.text = .ok (.mapping entries) ∧
      Value.AllAlike entries c.toEntries := by
  obtain ⟨v, parsed, alike⟩ := library
  obtain ⟨entries, bare, same⟩ := alike.bare_eq_dict
  exact ⟨entries, readText_of_parse parsed bare, same⟩

/-- The reading of a document that is no YAML, by its characters. -/
theorem parse_ofList {path : String} (json : isYaml path = false) (cs : List Char) :
    parse path (String.ofList cs) = (do
      let cs := Text.withPlainLines cs
      let (value, rest) ← Json.readValue 0 (cs.length + 1) (Json.skipSpace cs)
      if (Json.skipSpace rest).isEmpty then return value else .error .malformed) := by
  rw [parse, String.toList_ofList, json]
  simp only [Bool.false_eq_true, if_false]
  rw [Json.read, String.toList_ofList]

theorem parse_append {path : String} (json : isYaml path = false) (cs ds : List Char) :
    parse path (String.ofList cs ++ String.ofList ds) = (do
      let cs := Text.withPlainLines (cs ++ ds)
      let (value, rest) ← Json.readValue 0 (cs.length + 1) (Json.skipSpace cs)
      if (Json.skipSpace rest).isEmpty then return value else .error .malformed) := by
  rw [← String.ofList_append, parse_ofList json]

theorem of_append_of (s t : String) :
    (Json.Written.of s ++ Json.Written.of t : Json.Written) = .of (s ++ t) := rfl

theorem eq_ofList_iff {s : String} {cs : List Char} : s = String.ofList cs ↔ s.toList = cs := by
  rw [← String.toList_inj, String.toList_ofList]

def isMalformed : Except Refusal Value → Bool
  | .error .malformed => true
  | _ => false

theorem readText_of_malformed {path s : String} (malformed : isMalformed (parse path s) = true) :
    readText path s = .ok (.unreadable "the document is malformed") := by
  unfold readText
  generalize parse path s = outcome at malformed ⊢
  cases outcome with
  | ok v => nomatch malformed
  | error refusal =>
    cases refusal with
    | malformed => rfl
    | fault fault => nomatch malformed

/-- Settings from the environment, from a file and from the defaults, with their own file as the log
file. -/
def ownLog : Config where
  path := "namegen.json"
  overrides := { type := .text "pkg:T" }
  naming := { separator := .text "+" }
  logging := { level := .text "DEBUG", fileLogging := .int 1, file := .text "namegen.json" }

def ownLogText : String := "\x7b
  \"version\": \"1.0\",
  \"description\": \"namegen configuration\",
  \"generators\": \x7b
    \"type_name_generator_type\": \"pkg:T\",
    \"property_name_generator_type\": null,
    \"enum_name_generator_type\": null
  \x7d,
  \"naming\": \x7b
    \"separator\": \"+\",
    \"digit_prefix\": \"N\"
  \x7d,
  \"logging\": \x7b
    \"level\": \"DEBUG\",
    \"enable_file_logging\": 1,
    \"log_file\": \"namegen.json\"
  \x7d
\x7d"

theorem ownLog_path : isYaml "namegen.json" = false ∧
    Path.plain "namegen.json" = "namegen.json" ∧ Host.hasNull "namegen.json" = false := by
  decide +kernel

/-- The pieces are compared character by character: putting them together as texts takes long. -/
theorem ownLog_document : ownLog.document = .of ownLogText := by
  have number : Json.integer 1 = .ok "1" := by decide +kernel
  simp only [document, ownLog, ownLog_path.1, Bool.false_eq_true, if_false, toEntries, mapping,
    overridesSection, namingSection, loggingSection, Overrides.order, Overrides.get, List.map_cons,
    List.map_nil, Json.document, Json.write, Json.writeEntries, Json.keyText, Json.scalar?, number,
    Except.map, Json.Written.ofExcept, of_append_of]
  refine congrArg Json.Written.of ?_
  rw [ownLogText, eq_ofList_iff]
  conv_lhs => simp only [Json.text, String.toList_append, String.toList_ofList]
  decide +kernel

/-- Where they come from: one section is missing, and a digit prefix is refused. -/
def ownLogSource : String :=
  "\x7b\"naming\": \x7b\"separator\": \"+\", \"digit_prefix\": null\x7d,
  \"logging\": \x7b\"enable_file_logging\": 1, \"log_file\": \"namegen.json\"\x7d\x7d"

def ownLogEntries : List (Value × Value) :=
  mapping
    [("naming", .dict (mapping [("separator", .text "+"), ("digit_prefix", .null)])),
     ("logging",
      .dict (mapping [("enable_file_logging", .int 1), ("log_file", .text "namegen.json")]))]

def ownLogHost : Host where
  files := { nodes := [(["namegen.json"], .file (.text ownLogSource))] }
  environment := [("NAMEGEN_TYPE_NAME_GENERATOR", "pkg:T"), ("NAMEGEN_LOG_LEVEL", "DEBUG")]

/-- The host after they have been read. -/
def ownLogReadHost : Host :=
  (ownLogHost.record (readingRecord "namegen.json" (.mapping ownLogEntries))).record
    (invalidRecord "digit prefix" .null "N")

theorem exists_of_any {x : Except ε α} {p : α → Bool} (passes : x.toOption.any p = true) :
    ∃ a, x = .ok a ∧ p a = true := by
  cases x with
  | error e => nomatch passes
  | ok a => exact ⟨a, rfl, passes⟩

theorem parse_of_isSame {path s : String} {entries : List (Value × Value)}
    (passes : (parse path s).toOption.any (·.isSame (.dict entries)) = true) :
    parse path s = .ok (.dict entries) := by
  obtain ⟨v, parsed, same⟩ := exists_of_any passes
  rw [parsed, Value.eq_of_isSame _ _ same]

theorem pathFor_ownLog (h : Host) : pathFor h (some "namegen.json") = "namegen.json" :=
  (pathFor_of_given rfl h).trans ownLog_path.2.1

theorem read_ownLogHost : read (some "namegen.json") ownLogHost = (.ok ownLog, ownLogReadHost) := by
  have parsed : parse "namegen.json" ownLogSource = .ok (.dict ownLogEntries) := by
    refine parse_of_isSame ?_
    rw [ownLogSource, parse_ofList ownLog_path.1]
    decide +kernel
  have reading : readFile ownLogHost "namegen.json" = .ok (.mapping ownLogEntries) := by
    have located : ownLogHost.files.locate ownLogHost.base "namegen.json" =
        .ok ["namegen.json"] := by decide +kernel
    rw [readFile_of_located ownLog_path.2.2 located rfl]
    exact readText_of_parse parsed rfl
  have naming (h : Host) : namingOf ownLogEntries h =
      (.ok ownLog.naming, h.record (invalidRecord "digit prefix" .null "N")) :=
    namingOf_eq_ok rfl (accepted_of_test (by decide +kernel) _ _ h) rfl
      (accepted_of_refused rfl rfl _ _ h)
  exact read_of_mapping (pathFor_ownLog _) reading rfl (naming _) rfl

theorem ownLog_readsBack : ownLog.ReadsBack := by
  have parsed : parse "namegen.json" ownLogText = .ok (.dict ownLog.toEntries) := by
    refine parse_of_isSame ?_
    rw [ownLogText, parse_ofList ownLog_path.1]
    decide +kernel
  refine ⟨_, ?_, .refl _⟩
  rw [ownLog_document]
  exact parsed

def ownLogLine : String :=
  " - namegen.utils.config - INFO - Configuration saved to namegen.json\n"

theorem ownLog_malformed :
    readText "namegen.json" (ownLogText ++ ownLogLine) =
      .ok (.unreadable "the document is malformed") := by
  refine readText_of_malformed ?_
  rw [ownLogText, ownLogLine, parse_append ownLog_path.1]
  decide +kernel

theorem ownLog_saves (opened : h.files.target h.base "namegen.json" = .ok place) :
    ownLog.Saves place h ((ownLog.writtenHost place h).record (ownLog.saveRecord none)) := by
  refine ⟨opened, save_of_target ownLog_path.2.2 opened ?_⟩
  rw [ownLog_document]
  rfl

/-- A run that succeeds and whose host passes a test. -/
def leadsTo (test : Host → Bool) (x : Run Host Unit) (h : Host) : Bool :=
  match x h with
  | (.ok (), h') => test h'
  | (.error _, _) => false

theorem exists_of_leadsTo {test : Host → Bool} {x : Run Host Unit}
    (passes : leadsTo test x h = true) : ∃ h', x h = (.ok (), h') ∧ test h' = true := by
  rw [leadsTo] at passes
  split at passes
  · rename_i h' ran
    exact ⟨h', ran, passes⟩
  · nomatch passes

example :
    leadsTo (fun h => h.log.level == 10) (Host.setupLogging (.text "debug") .null) {} = true := by
  decide +kernel

/-- A configuration that has been saved is read again with the same settings in the same
environment, if no log file is the file of the configuration. -/
theorem read_saved {given : Option String} {c : Config} {place : Location} {h h₁ h₂ h₃ : Host}
    (built : read given h = (.ok c, h₁)) (environment : h₂.environment = h.environment)
    (saves : c.Saves place h₂ h₃) (logs : h₂.LogsElsewhere place)
    (again : nonempty? given = none → pathFor h₃ given = c.path) (library : c.ReadsBack) :
    ∃ c' h₄, read given h₃ = (.ok c', h₄) ∧ c'.path = c.path ∧ SameSettings c' c := by
  have settled := IsReadIn.of_read built
  obtain ⟨entries, reading, alike⟩ := readText_of_readsBack library
  rw [← readFile_of_saved saves.saved saves.opened logs] at reading
  have kept : h₃.environment = h.environment := by
    rw [(save_eq_ok saves.saved saves.opened).2, Host.record_environment]
    exact environment
  refine read_alike (settled.of_environment kept) ?_ reading alike
  cases named : nonempty? given with
  | none => exact again named
  | some path =>
    rw [(read_eq_ok built).1, pathFor_of_given named, pathFor_of_given named]

/-- The log goes to a file beside the configuration. -/
theorem read_saved_beside :
    let given := some "namegen.json"
    ∃ h₂ h₃ c' h₄, read given ownLogHost = (.ok ownLog, ownLogReadHost) ∧
      Host.setupLogging ownLog.logging.level (.text "run.log") ownLogReadHost = (.ok (), h₂) ∧
      ownLog.Saves ["namegen.json"] h₂ h₃ ∧
      h₂.log.handlers = [.console 10, .file 10 ["run.log"]] ∧
      read given h₃ = (.ok c', h₄) ∧ c'.path = ownLog.path ∧ SameSettings c' ownLog := by
  intro given
  let place : Location := ["namegen.json"]
  let test (h : Host) : Bool := decide (h.environment = ownLogHost.environment ∧
    h.files.target h.base "namegen.json" = .ok place ∧ h.LogsElsewhere place ∧
    h.log.handlers = [.console 10, .file 10 ["run.log"]])
  have passes : leadsTo test (Host.setupLogging ownLog.logging.level (.text "run.log"))
      ownLogReadHost = true := by decide +kernel
  obtain ⟨h₂, ready, passed⟩ := exists_of_leadsTo passes
  obtain ⟨environment, opened, logs, handlers⟩ := of_decide_eq_true passed
  have saves := ownLog_saves opened
  obtain ⟨c', h₄, again⟩ := read_saved read_ownLogHost environment saves logs
    (fun absent => nomatch absent) ownLog_readsBack
  exact ⟨h₂, _, c', h₄, read_ownLogHost, ready, saves, handlers, again⟩

/-- Nothing keeps the log out of the file of the configuration: the record of the saving stands
behind the document, which is no document any more. -/
theorem read_saved_own :
    ¬ ∀ (given : Option String) (c : Config) (place : Location) (h h₁ h₂ h₃ : Host),
      read given h = (.ok c, h₁) → h₂.environment = h.environment → c.Saves place h₂ h₃ →
      (nonempty? given = none → pathFor h₃ given = c.path) → c.ReadsBack →
      ∃ c' h₄, read given h₃ = (.ok c', h₄) ∧ c'.path = c.path ∧ SameSettings c' c := by
  intro all
  let place : Location := ["namegen.json"]
  let test (h : Host) : Bool := decide (h.environment = ownLogHost.environment ∧
    h.files.target h.base "namegen.json" = .ok place ∧
    h.log.handlers = [.console 10, .file 10 place] ∧
    h.log.enabled (ownLog.saveRecord none) = true ∧
    h.logLine (ownLog.saveRecord none) = ownLogLine)
  have passes : leadsTo test ownLog.applyLogging ownLogReadHost = true := by decide +kernel
  obtain ⟨h₂, -, passed⟩ := exists_of_leadsTo passes
  obtain ⟨environment, opened, handlers, enabled, line⟩ := of_decide_eq_true passed
  have saves := ownLog_saves opened
  obtain ⟨c', h₄, again, -, settings⟩ := all (some "namegen.json") ownLog place _ _ h₂ _
    read_ownLogHost environment saves (fun absent => nomatch absent) ownLog_readsBack
  have own := readFile_of_saved_own saves.saved opened handlers enabled (by decide)
  rw [line, ownLog_document] at own
  have unread := own.trans ownLog_malformed
  have defaults :=
    settings.naming.symm.trans (naming_of_unread (pathFor_ownLog _) unread rfl again)
  exact absurd (Value.text.inj (congrArg NamingOptions.separator defaults)) (by decide)

end SchemaNaming.Config
