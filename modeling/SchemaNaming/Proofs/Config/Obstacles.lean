import SchemaNaming.Proofs.Config.Reloaded

/-!
What keeps a configuration from being read. A file that is missing, that cannot be opened or decoded,
or that holds a malformed document or no mapping, gives the defaults. A mapping need not: each of its
sections has to be a mapping too, unless it counts as false. The other obstacles are a path that the
file system refuses to look at, a document that its library fails on by itself, and an option with an
integer that has too many digits for the warning about it.
-/

namespace SchemaNaming.Config
open Text

variable {h h' : Host} {path : String} {entries fields : List (Value × Value)} {name key : String}
  {fault : Fault}

/-- A section that is neither a mapping nor counts as false. -/
def IsOdd (entries : List (Value × Value)) (name : String) : Prop :=
  ∀ fields, sectionOf entries name ≠ .dict fields

def oddFault (entries : List (Value × Value)) (name : String) : Fault :=
  .noAttribute (.instance (sectionOf entries name).kindName) "get"

theorem fieldOf_of_isOdd (odd : IsOdd entries name) (key : String) :
    fieldOf (sectionOf entries name) key = .error (oddFault entries name) := by
  rw [oddFault]
  unfold IsOdd at odd
  generalize sectionOf entries name = part at odd
  cases part with
  | dict fields => exact absurd rfl (odd fields)
  | _ => rfl

theorem exists_dict_of_not_isOdd (even : ¬ IsOdd entries name) :
    ∃ fields, sectionOf entries name = .dict fields := by
  simpa [IsOdd] using even

theorem fieldOf_eq_error (failed : fieldOf (sectionOf entries name) key = .error fault) :
    IsOdd entries name ∧ fault = oddFault entries name := by
  by_cases odd : IsOdd entries name
  · rw [fieldOf_of_isOdd odd] at failed
    exact ⟨odd, (Except.error.inj failed).symm⟩
  · obtain ⟨fields, same⟩ := exists_dict_of_not_isOdd odd
    rw [same] at failed
    contradiction

theorem except_bind_eq_error {x : Except ε α} {f : α → Except ε β} :
    (x >>= f) = .error e ↔ x = .error e ∨ ∃ a, x = .ok a ∧ f a = .error e := by
  cases x <;> simp [bind, Except.bind]

/-- Whether the section of descriptors is looked at. -/
def AsksFile (h : Host) : Prop :=
  ∃ slot, nonempty? (h.fromEnvironment? (overrideVariable slot)) = none

theorem overrideOf_eq_error {slot : Slot}
    (failed : overrideOf h (sectionOf entries "generators") slot = .error fault) :
    nonempty? (h.fromEnvironment? (overrideVariable slot)) = none ∧
      IsOdd entries "generators" ∧ fault = oddFault entries "generators" := by
  rw [overrideOf] at failed
  split at failed
  · contradiction
  · rename_i absent
    refine ⟨absent, ?_⟩
    cases read : fieldOf (sectionOf entries "generators") (overrideKey slot) with
    | error other =>
      rw [read] at failed
      obtain rfl : other = fault := Except.error.inj failed
      exact fieldOf_eq_error read
    | ok v =>
      rw [read] at failed
      contradiction

theorem overridesOf_eq_error (failed : overridesOf h entries = .error fault) :
    IsOdd entries "generators" ∧ AsksFile h ∧ fault = oddFault entries "generators" := by
  have some : ∃ slot, overrideOf h (sectionOf entries "generators") slot = .error fault := by
    rcases except_bind_eq_error.mp failed with first | ⟨_, _, failed⟩
    · exact ⟨.type, first⟩
    rcases except_bind_eq_error.mp failed with second | ⟨_, _, failed⟩
    · exact ⟨.property, second⟩
    rcases except_bind_eq_error.mp failed with third | ⟨_, _, failed⟩
    · exact ⟨.enum, third⟩
    · contradiction
  obtain ⟨slot, failed⟩ := some
  obtain ⟨absent, odd, same⟩ := overrideOf_eq_error failed
  exact ⟨odd, ⟨slot, absent⟩, same⟩

/-- If the descriptors have been read, their section is a mapping or has not been looked at. -/
theorem not_isOdd_generators (read : overridesOf h entries = .ok o) (asks : AsksFile h) :
    ¬ IsOdd entries "generators" := by
  intro odd
  obtain ⟨slot, absent⟩ := asks
  have found := overridesOf_ok read slot
  rw [overrideOf, absent] at found
  dsimp only at found
  rw [fieldOf_of_isOdd odd] at found
  contradiction

theorem loggingOf_eq_error (failed : loggingOf h entries = .error fault) :
    IsOdd entries "logging" ∧ fault = oddFault entries "logging" := by
  rcases except_bind_eq_error.mp failed with first | ⟨_, _, failed⟩
  · exact fieldOf_eq_error first
  rcases except_bind_eq_error.mp failed with second | ⟨_, _, failed⟩
  · exact fieldOf_eq_error second
  rcases except_bind_eq_error.mp failed with third | ⟨_, _, failed⟩
  · exact fieldOf_eq_error third
  · contradiction

theorem not_isOdd_logging (read : loggingOf h entries = .ok l) : ¬ IsOdd entries "logging" := by
  intro odd
  simp only [loggingOf, fieldOf_of_isOdd odd] at read
  contradiction

/-- The option under a key of a section of options is refused, and it is too long to be shown. -/
def IsUnshown (entries : List (Value × Value)) (key : String) (test : Value → Bool) : Prop :=
  ∃ fields v, sectionOf entries "naming" = .dict fields ∧ Value.get? key fields = some v ∧
    test v = false ∧ v.hasLongInteger = true

theorem accepted_eq_error {test : Value → Bool} {what fallback : String} {v : Value}
    {failure : Failure}
    (failed : accepted test what fallback v h = (.error failure, h')) :
    test v = false ∧ v.hasLongInteger = true ∧ failure = .of (.mishap .digitLimit) := by
  rw [accepted] at failed
  split at failed
  · cases failed
  · rename_i refused
    split at failed
    · rename_i long
      cases failed
      exact ⟨by simpa using refused, long, rfl⟩
    · cases failed

theorem accepted_eq_ok {test : Value → Bool} {what fallback : String} {v w : Value}
    (passed : accepted test what fallback v h = (.ok w, h')) (refused : test v = false) :
    v.hasLongInteger = false := by
  rw [accepted, if_neg (by simp [refused])] at passed
  split at passed
  · cases passed
  · rename_i short
    simpa using short

/-- What a step reads of the options and tests. -/
theorem isUnshown_iff {test : Value → Bool} {option : Option Value} {fallback : Value}
    (read : fieldOf (sectionOf entries "naming") key = .ok option) (passes : test fallback = true) :
    IsUnshown entries key test ↔
      test (option.getD fallback) = false ∧ (option.getD fallback).hasLongInteger = true := by
  constructor
  · rintro ⟨fields, v, section_, found, refused, long⟩
    rw [section_] at read
    obtain rfl : Value.get? key fields = option := Except.ok.inj read
    rw [found]
    exact ⟨refused, long⟩
  · rintro ⟨refused, long⟩
    have even : ¬ IsOdd entries "naming" := by
      intro odd
      rw [fieldOf_of_isOdd odd] at read
      contradiction
    obtain ⟨fields, section_⟩ := exists_dict_of_not_isOdd even
    rw [section_] at read
    obtain rfl : Value.get? key fields = option := Except.ok.inj read
    cases found : Value.get? key fields with
    | none =>
      rw [found] at refused
      exact absurd passes (by simpa using refused)
    | some v =>
      rw [found] at refused long
      exact ⟨fields, v, section_, found, refused, long⟩

theorem isSeparator_dash : isSeparator (.text "-") = true := by decide +kernel

theorem isDigitPrefix_letter : isDigitPrefix (.text "N") = true := by decide +kernel

theorem namingOf_eq_error {failure : Failure}
    (failed : namingOf entries h = (.error failure, h')) :
    IsOdd entries "naming" ∧ failure = .of (oddFault entries "naming") ∨
      (IsUnshown entries "separator" isSeparator ∨
        IsUnshown entries "digit_prefix" isDigitPrefix) ∧
        failure = .of (.mishap .digitLimit) := by
  rcases Run.check_bind_eq_error.mp failed with ⟨fault, first, rfl, -⟩ | ⟨separator, first, rest⟩
  · obtain ⟨odd, rfl⟩ := fieldOf_eq_error first
    exact .inl ⟨odd, rfl⟩
  rcases Run.bind_eq_error.mp rest with separates | ⟨_, h₁, -, rest⟩
  · obtain ⟨refused, long, same⟩ := accepted_eq_error separates
    exact .inr ⟨.inl ((isUnshown_iff first isSeparator_dash).mpr ⟨refused, long⟩), same⟩
  rcases Run.check_bind_eq_error.mp rest with ⟨fault, second, rfl, -⟩ | ⟨digitPrefix, second, rest⟩
  · obtain ⟨odd, rfl⟩ := fieldOf_eq_error second
    exact .inl ⟨odd, rfl⟩
  rcases Run.bind_eq_error.mp rest with leads | ⟨_, _, -, rest⟩
  · obtain ⟨refused, long, same⟩ := accepted_eq_error leads
    exact .inr ⟨.inr ((isUnshown_iff second isDigitPrefix_letter).mpr ⟨refused, long⟩), same⟩
  · cases rest

/-- If the options have been read, all of them could be. -/
theorem not_isOdd_naming (read : namingOf entries h = (.ok n, h')) :
    ¬ IsOdd entries "naming" ∧ ¬ IsUnshown entries "separator" isSeparator ∧
      ¬ IsUnshown entries "digit_prefix" isDigitPrefix := by
  obtain ⟨separator, first, rest⟩ := Run.check_bind_eq_ok.mp read
  obtain ⟨_, _, separates, rest⟩ := Run.bind_eq_ok.mp rest
  obtain ⟨digitPrefix, second, rest⟩ := Run.check_bind_eq_ok.mp rest
  obtain ⟨_, _, leads, _⟩ := Run.bind_eq_ok.mp rest
  refine ⟨fun odd => ?_, fun unshown => ?_, fun unshown => ?_⟩
  · rw [fieldOf_of_isOdd odd] at first
    contradiction
  · obtain ⟨refused, long⟩ := (isUnshown_iff first isSeparator_dash).mp unshown
    simp [accepted_eq_ok separates refused] at long
  · obtain ⟨refused, long⟩ := (isUnshown_iff second isDigitPrefix_letter).mp unshown
    simp [accepted_eq_ok leads refused] at long

theorem readText_eq_error {s : String} :
    readText path s = .error fault ↔ parse path s = .error (.fault fault) := by
  unfold readText
  rcases parse path s with ⟨_ | other⟩ | v
  · simp
  · simp
  · simp only [reduceCtorEq, iff_false]
    split <;> simp

theorem mapError_ok (f : ε → ε') (a : α) : (Except.ok a).mapError f = .ok a := rfl

theorem mapError_error (f : ε → ε') (e : ε) :
    (Except.error e : Except ε α).mapError f = .error (f e) := rfl

/-- A file cannot be read if the file system refuses to look at its path, or if the library of its
format fails on the document by itself. -/
theorem readFile_eq_error :
    readFile h path = .error fault ↔ Host.hasNull path = false ∧
      ((∃ reason, h.files.holds h.base path = .error reason ∧ fault = .file reason path) ∨
        h.files.holds h.base path = .ok true ∧
        ∃ s, h.files.content? h.base path = some (.text s) ∧
          parse path s = .error (.fault fault)) := by
  unfold readFile
  cases named : Host.hasNull path with
  | true => simp [pure, Except.pure]
  | false =>
    simp only [Bool.false_eq_true, if_false, true_and]
    rcases held : h.files.holds h.base path with reason | _ | _
    · simp [mapError_error, bind, Except.bind, eq_comm]
    · simp [mapError_ok, bind, Except.bind, pure, Except.pure]
    · cases content : h.files.content? h.base path with
      | none => simp [mapError_ok, bind, Except.bind, pure, Except.pure]
      | some c =>
        cases c with
        | text s => simp [mapError_ok, bind, Except.bind, readText_eq_error]
        | source _ => simp [mapError_ok, bind, Except.bind, pure, Except.pure]
        | binary _ => simp [mapError_ok, bind, Except.bind, pure, Except.pure]

/-- What keeps a configuration from being read, with the fault that says so. -/
inductive Obstacle (h : Host) (path : String) : Fault → Prop where
  /-- The file system refuses to look at the path. -/
  | place {reason : FileReason} (named : Host.hasNull path = false)
    (refused : h.files.holds h.base path = .error reason) : Obstacle h path (.file reason path)
  /-- The document is not malformed, and reading it fails all the same. -/
  | document {s : String} {fault : Fault} (named : Host.hasNull path = false)
    (held : h.files.holds h.base path = .ok true)
    (content : h.files.content? h.base path = some (.text s))
    (failed : parse path s = .error (.fault fault)) : Obstacle h path fault
  /-- A section is no mapping. The environment can make up for the one of the descriptors. -/
  | odd {reading : Reading} {name : String} (read : readFile h path = .ok reading)
    (listed : name ∈ ["generators", "naming", "logging"])
    (asks : name = "generators" → AsksFile h) (odd : IsOdd reading.entries name) :
    Obstacle h path (oddFault reading.entries name)
  /-- The warning about an option would have to show an integer that is too long. -/
  | unshown {reading : Reading} {key : String} {test : Value → Bool}
    (read : readFile h path = .ok reading)
    (listed : (key, test) ∈ [("separator", isSeparator), ("digit_prefix", isDigitPrefix)])
    (long : IsUnshown reading.entries key test) : Obstacle h path (.mishap .digitLimit)

/-- A separator of one character that no identifier holds and that is no point, and a digit prefix
that is an identifier led by a letter. -/
structure CanName (n : NamingOptions) : Prop where
  separator : ∃ c, n.separator = .text (String.singleton c) ∧ isIdentifierPart c = false ∧ c ≠ '.'
  digitPrefix : ∃ p, n.digitPrefix = .text p ∧ Identifier.isIdentifier p.toList = true ∧
    Identifier.isLetterLed p.toList = true

theorem IsSound.canName {n : NamingOptions} (sound : IsSound n) : CanName n := by
  obtain ⟨s, c, text, single, outside, separate⟩ := isSeparator_iff.mp sound.separates
  obtain ⟨p, digits⟩ := text_of_isDigitPrefix sound.leads
  have lead := isLead_of_isDigitPrefix sound.leads
  rw [digits] at lead
  obtain rfl : s = String.singleton c :=
    String.toList_injective (by rw [single, String.toList_singleton])
  exact ⟨⟨c, text, outside, separate⟩, ⟨p, digits, lead.identifier, lead.letterLed⟩⟩

theorem obstacle_of_read {given : Option String} {failure : Failure}
    (failed : read given h = (.error failure, h')) :
    ∃ fault, failure = .of fault ∧ Obstacle h (pathFor h given) fault := by
  rw [read, Run.bind_apply, Run.get_apply] at failed
  rcases Run.check_bind_eq_error.mp failed with ⟨fault, unread, rfl, -⟩ | ⟨reading, found, rest⟩
  · obtain ⟨named, ⟨reason, refused, rfl⟩ | ⟨held, s, content, parsed⟩⟩ :=
      readFile_eq_error.mp unread
    · exact ⟨_, rfl, .place named refused⟩
    · exact ⟨_, rfl, .document named held content parsed⟩
  rcases Run.bind_eq_error.mp rest with noted | ⟨_, h₁, -, rest⟩
  · cases noted
  rcases Run.check_bind_eq_error.mp rest with ⟨fault, unread, rfl, -⟩ | ⟨_, -, rest⟩
  · obtain ⟨odd, asks, rfl⟩ := overridesOf_eq_error unread
    exact ⟨_, rfl, .odd found (by simp) (fun _ => asks) odd⟩
  rcases Run.bind_eq_error.mp rest with unread | ⟨_, h₂, -, rest⟩
  · rcases namingOf_eq_error unread with ⟨odd, rfl⟩ | ⟨long | long, rfl⟩
    · exact ⟨_, rfl, .odd found (by simp) (by simp) odd⟩
    · exact ⟨_, rfl, .unshown found (by simp) long⟩
    · exact ⟨_, rfl, .unshown found (by simp) long⟩
  rcases Run.check_bind_eq_error.mp rest with ⟨fault, unread, rfl, -⟩ | ⟨_, -, rest⟩
  · obtain ⟨odd, rfl⟩ := loggingOf_eq_error unread
    exact ⟨_, rfl, .odd found (by simp) (by simp) odd⟩
  · cases rest

theorem not_obstacle_of_read {given : Option String} {c : Config}
    (built : read given h = (.ok c, h')) : ¬ Obstacle h (pathFor h given) fault := by
  obtain ⟨path, reading, found, overridden, named, logged⟩ := read_eq_ok built
  rw [path] at found
  have unfailed {other : Fault} : readFile h (pathFor h given) ≠ .error other := by
    rw [found]
    exact fun same => nomatch same
  intro obstacle
  cases obstacle with
  | place plain refused => exact unfailed (readFile_eq_error.mpr ⟨plain, .inl ⟨_, refused, rfl⟩⟩)
  | document plain held content failed =>
    exact unfailed (readFile_eq_error.mpr ⟨plain, .inr ⟨held, _, content, failed⟩⟩)
  | odd read listed asks odd =>
    obtain rfl := Except.ok.inj (found.symm.trans read)
    simp only [List.mem_cons, List.not_mem_nil, or_false] at listed
    rcases listed with rfl | rfl | rfl
    · exact not_isOdd_generators overridden (asks rfl) odd
    · exact (not_isOdd_naming named).1 odd
    · exact not_isOdd_logging logged odd
  | unshown read listed long =>
    obtain rfl := Except.ok.inj (found.symm.trans read)
    simp only [List.mem_cons, Prod.mk.injEq, List.not_mem_nil, or_false] at listed
    rcases listed with ⟨rfl, rfl⟩ | ⟨rfl, rfl⟩
    · exact (not_isOdd_naming named).2.1 long
    · exact (not_isOdd_naming named).2.2 long

/-- A configuration is read unless an obstacle stands in the way, and then its options can name. If
one does, that is the fault. -/
theorem read_outcome (given : Option String) (h : Host) :
    (∃ c h', read given h = (.ok c, h') ∧ CanName c.naming ∧
      ∀ fault, ¬ Obstacle h (pathFor h given) fault) ∨
    ∃ fault h', read given h = (.error (.of fault), h') ∧ Obstacle h (pathFor h given) fault := by
  rcases built : read given h with ⟨failure | c, h'⟩
  · obtain ⟨fault, rfl, obstacle⟩ := obstacle_of_read built
    exact .inr ⟨fault, h', rfl, obstacle⟩
  · exact .inl ⟨c, h', rfl, (read_ok built).canName, fun fault => not_obstacle_of_read built⟩

/-- The descriptors are read before the options of names, and a record of the file stands. -/
theorem read_of_odd_naming {given : Option String} {reading : Reading} {o : Overrides}
    (found : readFile h (pathFor h given) = .ok reading)
    (overridden : overridesOf h reading.entries = .ok o) (odd : IsOdd reading.entries "naming") :
    read given h = (.error (.of (oddFault reading.entries "naming")),
      h.record (readingRecord (pathFor h given) reading)) := by
  rw [read, Run.bind_apply, Run.get_apply]
  refine Run.check_bind_eq_error.mpr (.inr ⟨reading, found, ?_⟩)
  refine Run.bind_eq_error.mpr (.inr ⟨(), _, rfl, ?_⟩)
  refine Run.check_bind_eq_error.mpr (.inr ⟨o, overridden, ?_⟩)
  refine Run.bind_eq_error.mpr (.inl ?_)
  exact Run.check_bind_eq_error.mpr (.inl ⟨_, fieldOf_of_isOdd odd _, rfl, rfl⟩)

def listSection : String := "\x7b\"naming\": [1]\x7d"

def listSectionHost : Host where
  files := { nodes := [(["namegen.json"], .file (.text listSection))] }

/-- Not every configuration is read: the sections of a file are not tested as the whole of it is. -/
theorem read_listSection :
    (∃ h', read (some "namegen.json") listSectionHost =
      (.error (.of (.noAttribute (.instance "list") "get")), h')) ∧
    ¬ ∀ (given : Option String) (h : Host),
      ∃ c h', read given h = (.ok c, h') ∧ CanName c.naming := by
  let entries : List (Value × Value) := [(.text "naming", .list [.int 1])]
  have parsed : parse "namegen.json" listSection = .ok (.dict entries) := by
    refine parse_of_isSame ?_
    rw [listSection, parse_ofList ownLog_path.1]
    decide +kernel
  have reading : readFile listSectionHost "namegen.json" = .ok (.mapping entries) := by
    have located : listSectionHost.files.locate listSectionHost.base "namegen.json" =
        .ok ["namegen.json"] := by decide +kernel
    rw [readFile_of_located ownLog_path.2.2 located rfl]
    exact readText_of_parse parsed rfl
  have odd : IsOdd entries "naming" := fun fields same => nomatch same
  have failed : ∃ h', read (some "namegen.json") listSectionHost =
      (.error (.of (.noAttribute (.instance "list") "get")), h') := by
    rw [← pathFor_ownLog listSectionHost] at reading
    exact ⟨_, read_of_odd_naming reading rfl odd⟩
  refine ⟨failed, fun all => ?_⟩
  obtain ⟨c, h', built, _⟩ := all (some "namegen.json") listSectionHost
  obtain ⟨_, failed⟩ := failed
  rw [failed] at built
  cases built

end SchemaNaming.Config
