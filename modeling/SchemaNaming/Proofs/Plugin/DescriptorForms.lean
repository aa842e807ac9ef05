import SchemaNaming.Proofs.Plugin.DescriptorText
import SchemaNaming.Proofs.Plugin.Settled

/-!
The two forms of a descriptor. A type of a module is named by one dotted name, or by the module and
the name inside it with a colon between them. The first form searches for the longest front that is a
module, the second one asks for its module at once. Where no module has a longer name, what one form
has led to the other leads to as well, without any load.
-/

namespace SchemaNaming

namespace Descriptor
open Text

variable {m u : String}

/-- Parts between points, none of which is empty, without a colon and without blanks around them. -/
structure IsDottedName (name : String) : Prop where
  named : IsTypeName name
  plain : ':' ∉ name.toList
  trimmed : stripped name = name

theorem point_eq_dotted (m u : String) : m ++ "." ++ u = dotted (parts m ++ parts u) := by
  rw [dotted_append (parts_ne_nil m) (parts_ne_nil u), dotted_parts, dotted_parts]

theorem undotted_append {front rest : List String} (first : Undotted front)
    (second : Undotted rest) : Undotted (front ++ rest) := by
  intro part member
  rcases List.mem_append.mp member with member | member
  · exact first part member
  · exact second part member

theorem parts_point (m u : String) : parts (m ++ "." ++ u) = parts m ++ parts u := by
  rw [point_eq_dotted, parts_dotted (by simp [parts_ne_nil])
    (undotted_append (undotted_parts m) (undotted_parts u))]

namespace IsDottedName

theorem point (first : IsDottedName m) (second : IsDottedName u) : IsDottedName (m ++ "." ++ u) := by
  refine ⟨?_, ?_, ?_⟩
  · intro part member
    rw [parts_point, List.mem_append] at member
    rcases member with member | member
    · exact first.named part member
    · exact second.named part member
  · rw [toList_point]
    simp [first.plain, second.plain]
  · have trimmed := (isTrimmed_of_stripped first.trimmed).append (toList_ne_nil first.named.ne_empty)
      (isTrimmed_of_stripped second.trimmed) (toList_ne_nil second.named.ne_empty) ['.']
    have same : strip (m.toList ++ ['.'] ++ u.toList) = m.toList ++ ['.'] ++ u.toList :=
      trimmed.trim_eq
    apply String.toList_inj.mp
    rw [toList_stripped, toList_point]
    simpa using same

theorem ofText (name : IsDottedName m) :
    ofText m = .ok { text := m, typeName := m, assembly := none } := by
  have describes : Describes m { text := m, typeName := stripped m, assembly := none } :=
    .alone name.plain (by rw [name.trimmed]; exact name.named)
  rw [name.trimmed] at describes
  exact describes.ofText_eq_ok name.trimmed

theorem ofText_colon (module : IsDottedName m) (name : IsDottedName u) :
    Descriptor.ofText (m ++ ":" ++ u) =
      .ok { text := m ++ ":" ++ u, typeName := u, assembly := some m } :=
  Descriptor.ofText_colon module.trimmed module.named.ne_empty name.trimmed name.plain name.named

end IsDottedName

theorem IsFront.trans (first : IsFront a b) (second : IsFront b c) : IsFront a c := by
  have inside : b.toList <+: c.toList := (List.prefix_append _ _).trans second
  exact List.IsPrefix.trans first inside

end Descriptor

namespace Plugin
open Descriptor (Undotted IsFront IsDottedName)

variable {h h₁ : Host} {m u : String} {id : ModuleId} {d : Descriptor}

theorem isModuleName_of_isTypeName (named : Descriptor.IsTypeName m) : IsModuleName m := by
  refine ⟨?_, ?_⟩
  · rw [← Bool.not_eq_true, String.isEmpty_iff]
    exact named.ne_empty
  · rw [← Bool.not_eq_true, String.startsWith_string_iff]
    rintro ⟨behind, pointed⟩
    have whole := Descriptor.dotted_parts m
    have undotted := Descriptor.undotted_parts m
    rcases split : Descriptor.parts m with _ | ⟨first, rest⟩
    · exact Descriptor.parts_ne_nil m split
    · rw [split] at whole undotted
      have filled : first ≠ "" := named first (by simp [split])
      have uncut : '.' ∉ first.toList := undotted first List.mem_cons_self
      have leads : first.toList <+: m.toList := by
        cases rest with
        | nil =>
          rw [Descriptor.dotted_singleton] at whole
          exact whole ▸ List.prefix_refl _
        | cons next rest =>
          rw [← whole, Descriptor.dotted_cons (by simp), Descriptor.toList_point]
          exact List.prefix_append _ _
      obtain ⟨more, same⟩ := leads
      cases characters : first.toList with
      | nil => exact filled (String.toList_inj.mp characters)
      | cons c cs =>
        rw [characters] at same uncut
        have point := same.trans pointed.symm
        rw [show ".".toList = ['.'] from rfl] at point
        obtain rfl : c = '.' := (List.cons.inj point).1
        exact uncut List.mem_cons_self

/-- An import of a longer name imports the module of a front first, and fails as that does. -/
theorem importParts_longer {load : String → Run Host ModuleId}
    (loads : ∀ name, KeepsTable (load name)) {front inner : List String} (filled : front ≠ [])
    (unloaded : ∀ more, more ≠ [] → more <+: inner →
      h.plugins.table.lookup (Descriptor.dotted (front ++ more)) = none) :
    match importParts load front.reverse h with
    | (.ok _, middle) => Extends middle (importParts load (front ++ inner).reverse h).2
    | (.error cause, last) =>
        importParts load (front ++ inner).reverse h = (.error cause, last) := by
  induction inner using List.reverseRecOn with
  | nil =>
    rw [List.append_nil]
    rcases importParts load front.reverse h with ⟨cause | id, last⟩
    · rfl
    · exact .refl last
  | append_singleton rest next ih =>
    have shorter := ih fun more some within => unloaded more some (within.trans ⟨[next], rfl⟩)
    have new := unloaded (rest ++ [next]) (by simp) (List.prefix_refl _)
    have split : (front ++ (rest ++ [next])).reverse = next :: (front ++ rest).reverse := by simp
    have run : importParts load (front ++ (rest ++ [next])).reverse h =
        (importParts load (front ++ rest).reverse >>=
          importBelow load (front ++ rest).reverse next) h := by
      rw [split]
      exact importParts_of_new load (by simp [filled]) (by simpa using new)
    rw [run, Run.bind_apply]
    rcases first : importParts load front.reverse h with ⟨cause | id, middle⟩ <;>
      rw [first] at shorter <;> dsimp only at shorter ⊢
    · rw [shorter]
    · rcases second : importParts load (front ++ rest).reverse h with ⟨cause | parent, last⟩ <;>
        rw [second] at shorter
      · exact shorter
      · exact shorter.trans (importBelow_enters loads _ next parent last).extended

/-- A module that is loaded, or found where it is searched. -/
def IsPresent (h : Host) (m : String) : Prop :=
  (h.plugins.table.lookup m).isSome ∨
    ∃ front last middle directories, Descriptor.parts m = front ++ [last] ∧
      SearchedIn h front middle directories ∧ (findSpec? middle directories last).isSome

/-- The import of a module fails for another one that is missing, and a name goes on behind that. -/
def Misleads (h : Host) (m name : String) : Prop :=
  ∃ cause last missing parent, importModule m h = (.error cause, last) ∧
    cause.fault = .moduleNotFound missing parent ∧ missing ≠ m ∧ IsFront missing name

/-- If the import of a module fails that is there, no front of the name is taken to be absent. -/
theorem isAbsence_of_present {cause : Failure} {name front : String} (present : IsPresent h m)
    (honest : ¬ Misleads h m name) (new : h.plugins.table.lookup m = none)
    (failed : importModule m h = (.error cause, h₁)) (outer : IsFront front name) :
    isAbsence front cause.fault = false := by
  refine Bool.eq_false_of_not_eq_true fun absence => ?_
  obtain ⟨missing, parent, same, named⟩ := (isAbsence_iff _ _).mp absence
  have different : missing ≠ m := by
    rcases present with loaded | ⟨before, last, middle, directories, split, searched, found⟩
    · rw [new] at loaded
      contradiction
    · obtain ⟨spec, found⟩ := Option.isSome_iff_exists.mp found
      have undotted := Descriptor.undotted_parts m
      have whole := Descriptor.dotted_parts m
      rw [split] at undotted whole
      rw [← whole] at new failed ⊢
      exact (importModule_missing undotted new searched found (by rw [failed]) same).1
  have inside : IsFront missing name := by
    rcases named with rfl | inner
    · exact outer
    · exact inner.trans outer
  exact honest ⟨cause, h₁, missing, parent, failed, same, different, inside⟩

theorem findModule_extends {fronts rest path : List String} (undotted : Undotted fronts)
    (found : findModule d fronts rest h = (.ok (id, path), h₁)) : Extends h h₁ := by
  have ends := findModule_ends d undotted rest h
  rw [found] at ends
  generalize outcome : (Except.ok (id, path), h₁) = ended at ends
  cases ends with
  | found filled split extended entered passes =>
    cases outcome
    exact extended
  | broken => cases outcome
  | nothing => cases outcome

theorem findModule_of_known {front inner rest path : List String} {known : ModuleId}
    (undotted : Undotted (front ++ inner).reverse) (filled : front ≠ [])
    (loaded : h.plugins.table.lookup (Descriptor.dotted front) = some known)
    (found : findModule d (front ++ inner).reverse rest h = (.ok (id, path), h₁)) :
    ∃ kept passed, inner = kept ++ passed ∧ path = passed ++ rest ∧
      h₁.plugins.table.lookup (Descriptor.dotted (front ++ kept)) = some id := by
  have ends := findModule_ends d undotted rest h
  rw [List.reverse_reverse, found] at ends
  generalize outcome : (Except.ok (id, path), h₁) = ended at ends
  cases ends with
  | @found shortest passed _ _ some split extended entered passes =>
    cases outcome
    rcases List.append_eq_append_iff.mp split with ⟨kept, same, rfl⟩ | ⟨between, same, rfl⟩
    · exact ⟨kept, passed, rfl, rfl, same ▸ entered⟩
    · rcases List.eq_nil_or_concat between with rfl | ⟨others, last, rfl⟩
      · rw [List.append_nil] at same
        subst same
        exact ⟨[], inner, rfl, rfl, by rwa [List.append_nil]⟩
      · rw [List.concat_eq_append, ← List.append_assoc] at same
        subst same
        obtain ⟨start, later, -, -, overlooked⟩ := passes (shortest ++ others) last inner
          (by simp) (by simp)
        have new := later.lookup_eq_none overlooked.new
        rw [loaded] at new
        contradiction
  | broken => cases outcome
  | nothing => cases outcome

theorem importModule_present {inner : List String} {name : String} {cause : Failure}
    (undotted : Undotted (Descriptor.parts m ++ inner)) (named : IsModuleName m)
    (whole : IsModuleName (Descriptor.dotted (Descriptor.parts m ++ inner)))
    (present : IsPresent h m) (honest : ¬ Misleads h m name)
    (outer : IsFront (Descriptor.dotted (Descriptor.parts m ++ inner)) name)
    (new : h.plugins.table.lookup m = none)
    (unloaded : ∀ more, more ≠ [] → more <+: inner →
      h.plugins.table.lookup (Descriptor.dotted (Descriptor.parts m ++ more)) = none)
    (failed : importModule (Descriptor.dotted (Descriptor.parts m ++ inner)) h =
      (.error cause, h₁))
    (absence : isAbsence (Descriptor.dotted (Descriptor.parts m ++ inner)) cause.fault = true) :
    inner ≠ [] ∧ (h₁.plugins.table.lookup m).isSome := by
  have filled := Descriptor.parts_ne_nil m
  obtain ⟨depth, imports⟩ := importModule_eq h
  have longer := importParts_longer (fun name => keepsTable_importWithin depth name) filled unloaded
  rw [← imports m named, ← Descriptor.parts_dotted (by simp [filled]) undotted,
    ← imports _ whole, failed] at longer
  rcases imported : importModule m h with ⟨other | known, middle⟩ <;> rw [imported] at longer
  · cases longer
    have present := isAbsence_of_present present honest new imported outer
    rw [absence] at present
    contradiction
  · have entered := ((importModule_enters m h).ok imported).2
    rw [Descriptor.dotted_parts] at entered
    refine ⟨?_, ?_⟩
    · rintro rfl
      rw [List.append_nil, Descriptor.dotted_parts, imported] at failed
      cases failed
    · rw [longer.table entered]
      rfl

/-- Behind the first step of a search the module is loaded that is there, unless the step has ended
the search. -/
theorem findModule_of_present {inner rest path : List String} {name : String}
    (undotted : Undotted (Descriptor.parts m ++ inner)) (named : IsModuleName m)
    (whole : IsModuleName (Descriptor.dotted (Descriptor.parts m ++ inner)))
    (present : IsPresent h m) (honest : ¬ Misleads h m name)
    (outer : IsFront (Descriptor.dotted (Descriptor.parts m ++ inner)) name)
    (unloaded : ∀ more, more ≠ [] → more <+: inner →
      h.plugins.table.lookup (Descriptor.dotted (Descriptor.parts m ++ more)) = none)
    (found : findModule d (Descriptor.parts m ++ inner).reverse rest h = (.ok (id, path), h₁)) :
    ∃ kept passed, inner = kept ++ passed ∧ path = passed ++ rest ∧
      h₁.plugins.table.lookup (Descriptor.dotted (Descriptor.parts m ++ kept)) = some id := by
  have filled := Descriptor.parts_ne_nil m
  have backwards := undotted.of_subset (List.reverse_subset.mpr (List.Subset.refl _))
  cases loaded : h.plugins.table.lookup m with
  | some known =>
    exact findModule_of_known backwards filled (by rwa [Descriptor.dotted_parts]) found
  | none =>
    have new : h.plugins.table.lookup (Descriptor.dotted (Descriptor.parts m ++ inner)) = none := by
      by_cases short : inner = []
      · rwa [short, List.append_nil, Descriptor.dotted_parts]
      · exact unloaded inner short (List.prefix_refl _)
    have outcome :=
      importIfPresent_cases (Descriptor.dotted (Descriptor.parts m ++ inner)) d.text h
    have entry := importModule_enters (Descriptor.dotted (Descriptor.parts m ++ inner)) h
    rw [Descriptor.parts_dotted (by simp [filled]) undotted] at entry
    rcases List.eq_nil_or_concat (Descriptor.parts m ++ inner) with none | ⟨others, last, split⟩
    · simp [filled] at none
    rw [List.concat_eq_append] at split
    rw [split, List.reverse_append, List.reverse_singleton, List.singleton_append,
      findModule_apply, List.reverse_reverse, ← split, new] at found
    dsimp only at found
    rcases ran : importIfPresent (Descriptor.dotted (Descriptor.parts m ++ inner)) d.text h with
      ⟨failure | _ | number, middle⟩ <;> rw [ran] at found outcome <;> dsimp only at found outcome
    · cases found
    · obtain ⟨cause, failed, absence⟩ := outcome
      obtain ⟨some, entered⟩ := importModule_present undotted named whole present honest outer
        loaded unloaded failed absence
      obtain ⟨known, entered⟩ := Option.isSome_iff_exists.mp entered
      rcases List.eq_nil_or_concat inner with none | ⟨shorter, final, rfl⟩
      · exact absurd none some
      · rw [List.concat_eq_append, ← List.append_assoc] at split
        obtain ⟨rfl, same⟩ := List.append_inj' split rfl
        obtain rfl := (List.cons.inj same).1
        have rest : Undotted (Descriptor.parts m ++ shorter).reverse := by
          refine backwards.of_subset fun part member => ?_
          simp only [List.mem_reverse, List.mem_append] at member ⊢
          exact member.imp_right fun inside => by simp [inside]
        obtain ⟨kept, passed, rfl, rfl, stands⟩ :=
          findModule_of_known rest filled (by rwa [Descriptor.dotted_parts]) found
        exact ⟨kept, passed ++ [final], by simp, by simp, stands⟩
    · cases found
      exact ⟨inner, [], by simp, rfl, (entry.ok outcome).2⟩

/-- No module has a longer name on the way to a type: none is loaded, and none is found below. -/
structure IsLongest (h : Host) (m u : String) : Prop where
  unloaded : ∀ more, more ≠ [] → more <+: (Descriptor.parts u).dropLast →
    h.plugins.table.lookup (Descriptor.dotted (Descriptor.parts m ++ more)) = none
  unfound : ∀ id, h.plugins.table.lookup m = some id →
    ∀ next ∈ (Descriptor.parts u).dropLast.head?, IsUnfound h id next

theorem IsLongest.below (longest : IsLongest h m u) (known : h.plugins.table.lookup m = some id) :
    NoneBelow h id (Descriptor.parts m) (Descriptor.parts u).dropLast :=
  ⟨longest.unloaded, longest.unfound id known⟩

theorem undotted_front (m u : String) :
    Undotted (Descriptor.parts m ++ (Descriptor.parts u).dropLast) :=
  Descriptor.undotted_append (Descriptor.undotted_parts m)
    ((Descriptor.undotted_parts u).of_subset (List.dropLast_subset _))

theorem isModuleName_front (module : IsDottedName m) (name : IsDottedName u) :
    IsModuleName (Descriptor.dotted (Descriptor.parts m ++ (Descriptor.parts u).dropLast)) := by
  refine isModuleName_of_isTypeName fun part member => ?_
  rw [Descriptor.parts_dotted (by simp [Descriptor.parts_ne_nil]) (undotted_front m u),
    List.mem_append] at member
  rcases member with member | member
  · exact module.named part member
  · exact name.named part (List.dropLast_subset _ member)

theorem parts_of_written (written : d.typeName = m ++ "." ++ u) :
    ∃ last, (Descriptor.parts u).dropLast ++ [last] = Descriptor.parts u ∧
      Descriptor.parts d.typeName =
        (Descriptor.parts m ++ (Descriptor.parts u).dropLast) ++ [last] := by
  have names := List.dropLast_concat_getLast (Descriptor.parts_ne_nil u)
  exact ⟨_, names, by rw [written, Descriptor.parts_point, List.append_assoc, names]⟩

/-- The search for a dotted name ends with the module that is there, if none has a longer name. -/
theorem findLoadedModule_of_longest {path : List String} (module : IsDottedName m)
    (name : IsDottedName u) (written : d.typeName = m ++ "." ++ u) (present : IsPresent h m)
    (honest : ¬ Misleads h m (m ++ "." ++ u)) (longest : IsLongest h₁ m u)
    (found : findLoadedModule d h = (.ok (id, path), h₁)) :
    h₁.plugins.table.lookup m = some id ∧ path = Descriptor.parts u ∧ Extends h h₁ := by
  obtain ⟨last, names, split⟩ := parts_of_written written
  have whole : m ++ "." ++ u =
      Descriptor.dotted ((Descriptor.parts m ++ (Descriptor.parts u).dropLast) ++ [last]) := by
    rw [← split, written, Descriptor.dotted_parts]
  rw [findLoadedModule_eq split] at found
  have filled := Descriptor.parts_ne_nil m
  have undotted := undotted_front m u
  have extended := findModule_extends
    (undotted.of_subset (List.reverse_subset.mpr (List.Subset.refl _))) found
  have named := isModuleName_of_isTypeName module.named
  have longer := isModuleName_front module name
  have outer : IsFront
      (Descriptor.dotted (Descriptor.parts m ++ (Descriptor.parts u).dropLast)) (m ++ "." ++ u) := by
    rw [whole]
    exact Descriptor.isFront_append (by simp [filled]) (by simp)
  obtain ⟨kept, passed, inner, rest, entered⟩ := findModule_of_present undotted named longer present
    honest outer (fun more some within => extended.lookup_eq_none (longest.unloaded more some within))
    found
  have short : kept = [] := by
    by_contra some
    have new := longest.unloaded kept some ⟨passed, inner.symm⟩
    rw [new] at entered
    contradiction
  subst short
  rw [List.append_nil, Descriptor.dotted_parts] at entered
  rw [List.nil_append] at inner
  exact ⟨entered, by rw [rest, ← inner, names], extended⟩

theorem resolveType_of_ofText {s : String} (parsed : Descriptor.ofText s = .ok d) (h : Host) :
    resolveType (.text s) h = typeOf d h := by
  have described : descriptorOf (.text s) h = (.ok d, h) := Run.check_eq_ok.mpr ⟨parsed, rfl⟩
  rw [resolveType, Run.bind_apply, described]

theorem typeOf_of_placeOf {path : List String} {cls : ClassId}
    (placed : placeOf d h = (.ok (id, path), h₁))
    (walked : walkAttributes h₁.plugins (.module id) path = .ok (some (.cls cls))) :
    typeOf d h = (.ok cls, h₁) := by
  rw [typeOf, Run.bind_apply, placed]
  dsimp only
  rw [registry_bind]
  rw [walked]
  rfl

/-- Whether a module has an attribute under a name. -/
def Registry.gives (r : Registry) (id : ModuleId) (name : String) : Bool :=
  match r.moduleAttribute id name with
  | .ok found => found.isSome
  | .error _ => false

theorem Registry.gives_iff {r : Registry} {name : String} :
    r.gives id name = true ↔ ∃ t, r.moduleAttribute id name = .ok (some t) := by
  rw [gives]
  rcases r.moduleAttribute id name with fault | _ | t <;> simp

theorem relativePath_of_attribute {r : Registry}
    (shown : ∀ first ∈ (Descriptor.parts u).head?, r.gives id first = true) :
    relativePath r id u = .ok (Descriptor.parts u) := by
  rw [relativePath]
  rcases split : Descriptor.parts u with _ | ⟨first, _ | ⟨second, rest⟩⟩
  · rfl
  · rfl
  · obtain ⟨t, found⟩ := Registry.gives_iff.mp (shown first (by rw [split]; rfl))
    simp only [found, bind, Except.bind, pure, Except.pure]

theorem gives_of_walk {r : Registry} {path : List String} {t : Thing}
    (walked : walkAttributes r (.module id) path = .ok (some t)) :
    ∀ first ∈ path.head?, r.gives id first = true := by
  intro first leads
  cases path with
  | nil => contradiction
  | cons name rest =>
    obtain rfl : name = first := Option.some.inj leads
    rw [Registry.gives_iff]
    change (r.moduleAttribute id name >>= _) = _ at walked
    rcases found : r.moduleAttribute id name with fault | _ | next
    · rw [found] at walked
      cases walked
    · rw [found] at walked
      cases walked
    · exact ⟨next, rfl⟩

theorem placeOf_within (given : d.assembly = some m) :
    placeOf d h = (.ok (id, path), h₁) ↔
      loadAssembly m d.text h = (.ok id, h₁) ∧ relativePath h₁.plugins id d.typeName = .ok path := by
  rw [placeOf, given]
  constructor
  · intro placed
    obtain ⟨number, middle, loaded, placed⟩ := Run.bind_eq_ok.mp placed
    obtain ⟨_, _, looked, placed⟩ := Run.bind_eq_ok.mp placed
    cases looked
    obtain ⟨found, denoted, returned⟩ := Run.check_bind_eq_ok.mp placed
    cases returned
    exact ⟨loaded, denoted⟩
  · rintro ⟨loaded, denoted⟩
    refine Run.bind_eq_ok.mpr ⟨id, h₁, loaded, ?_⟩
    refine Run.bind_eq_ok.mpr ⟨h₁.plugins, h₁, rfl, ?_⟩
    exact Run.check_bind_eq_ok.mpr ⟨path, denoted, rfl⟩

theorem findLoadedModule_again (module : IsDottedName m) (name : IsDottedName u)
    (written : d.typeName = m ++ "." ++ u) (longest : IsLongest h m u)
    (known : h.plugins.table.lookup m = some id) :
    findLoadedModule d h = (.ok (id, Descriptor.parts u), h) := by
  obtain ⟨last, names, split⟩ := parts_of_written written
  have found := findModule_again (d := d) (Descriptor.parts_ne_nil m) (undotted_front m u)
    (fun _ => isModuleName_front module name) (by rwa [Descriptor.dotted_parts])
    (longest.below known) [last]
  rw [findLoadedModule_eq split, found, names]

theorem looksLikePath_of_extends (extended : Extends h h₁) :
    looksLikePath h₁ m = looksLikePath h m := by
  rw [extended.outside]
  rfl

theorem eq_ok_of_toOption {ε : Type} {outcome : Except ε α} {a : α}
    (same : outcome.toOption = some a) : outcome = .ok a := by
  cases outcome with
  | error _ => contradiction
  | ok b => exact congrArg _ (Option.some.inj same)

theorem eq_ok_of_toBool {outcome : Except Failure α × Host} (returns : outcome.1.toBool = true) :
    ∃ a, outcome = (.ok a, outcome.2) := by
  rcases outcome with ⟨failure | a, h⟩
  · contradiction
  · exact ⟨a, rfl⟩

theorem eq_of_prefix_singleton {part : String} {more : List String} (some : more ≠ [])
    (within : more <+: [part]) : more = [part] := by
  rcases List.prefix_cons_iff.mp within with none | ⟨rest, same, within⟩
  · exact absurd none some
  · rw [same, List.prefix_nil.mp within]

/-- The one longer name on the way to a class in a class is not found where the module searches. -/
theorem isLongest_of_pair {outer inner : String} {places : Option (List String)}
    (split : Descriptor.parts u = [outer, inner])
    (new : h.plugins.table.lookup (Descriptor.dotted (Descriptor.parts m ++ [outer])) = none)
    (known : h.plugins.table.lookup m = some id)
    (searched : (placesBelow id h).1.toOption = some places)
    (nowhere : ∀ directories ∈ places, findSpec? h directories outer = none) : IsLongest h m u := by
  refine ⟨fun more some within => ?_, fun other entered next leads => ?_⟩
  · have within : more <+: [outer] := by simpa [split] using within
    obtain rfl := eq_of_prefix_singleton some within
    exact new
  · rw [split] at leads
    obtain rfl : outer = next := Option.some.inj leads
    obtain rfl : id = other := Option.some.inj (known.symm.trans entered)
    exact ⟨places, eq_ok_of_toOption searched, nowhere⟩

theorem gives_of_pair {outer inner : String} (split : Descriptor.parts u = [outer, inner])
    (known : h.plugins.table.lookup m = some id) (shown : h.plugins.gives id outer = true) :
    ∀ other, h.plugins.table.lookup m = some other →
      ∀ first ∈ (Descriptor.parts u).head?, h.plugins.gives other first = true := by
  intro other entered first leads
  rw [split] at leads
  obtain rfl : outer = first := Option.some.inj leads
  obtain rfl : id = other := Option.some.inj (known.symm.trans entered)
  exact shown

/-- The two forms of a descriptor lead to the same class. If no module has a longer name than the one
that is meant, what the dotted form has led to the form with a colon leads to, and the other way round
if the module has the first part of the type as an attribute. Nothing is executed then, and nothing
else changes. The dotted form only means a module that is there, and whose import does not fail for
another one that is missing and has a front of the name. -/
theorem resolveType_forms (module : IsDottedName m) (name : IsDottedName u)
    (plain : looksLikePath h m = false) {cls : ClassId} (longest : IsLongest h₁ m u) :
    (IsPresent h m → ¬ Misleads h m (m ++ "." ++ u) →
      resolveType (.text (m ++ "." ++ u)) h = (.ok cls, h₁) →
      resolveType (.text (m ++ ":" ++ u)) h₁ = (.ok cls, h₁)) ∧
    (resolveType (.text (m ++ ":" ++ u)) h = (.ok cls, h₁) →
      (∀ id, h₁.plugins.table.lookup m = some id →
        ∀ first ∈ (Descriptor.parts u).head?, h₁.plugins.gives id first) →
      resolveType (.text (m ++ "." ++ u)) h₁ = (.ok cls, h₁)) := by
  rw [resolveType_of_ofText (module.point name).ofText, resolveType_of_ofText (module.point name).ofText,
    resolveType_of_ofText (module.ofText_colon name), resolveType_of_ofText (module.ofText_colon name)]
  constructor
  · intro present honest typed
    obtain ⟨id, path, placed, walked⟩ := typeOf_ok typed
    obtain ⟨entered, rfl, extended⟩ :=
      findLoadedModule_of_longest module name rfl present honest longest placed
    rw [← looksLikePath_of_extends extended] at plain
    have loaded := loadAssembly_of_entered plain entered (m ++ ":" ++ u)
    have denoted := relativePath_of_attribute (gives_of_walk walked)
    exact typeOf_of_placeOf ((placeOf_within rfl).mpr ⟨loaded, denoted⟩) walked
  · intro typed shown
    obtain ⟨id, path, placed, walked⟩ := typeOf_ok typed
    obtain ⟨loaded, denoted⟩ := (placeOf_within rfl).mp placed
    have entered := entered_of_loadAssembly plain loaded
    rw [relativePath_of_attribute (shown id entered)] at denoted
    obtain rfl := Except.ok.inj denoted
    exact typeOf_of_placeOf (findLoadedModule_again module name rfl longest entered) walked

/-- A package with a class in a class. -/
def nestedClasses : Host where
  files.nodes :=
    let inner : Item := .cls "Inner" { slots := [.type], script := some default } []
    [(["site"], .directory), (["site", "pkg"], .directory),
     (["site", "pkg", "__init__.py"], .file (.source (.items [.cls "Outer" {} [inner]])))]
  searchPath := ["/site"]

theorem resolveType_forms_nested :
    let pointed := resolveType (.text "pkg.Outer.Inner") nestedClasses
    let colon := resolveType (.text "pkg:Outer.Inner") nestedClasses
    (pointed.1.toBool = true ∧ resolveType (.text "pkg:Outer.Inner") pointed.2 = pointed) ∧
      (colon.1.toBool = true ∧ resolveType (.text "pkg.Outer.Inner") colon.2 = colon) := by
  intro pointed colon
  have module : IsDottedName "pkg" := ⟨by decide +kernel, by decide, by decide +kernel⟩
  have name : IsDottedName "Outer.Inner" := ⟨by decide +kernel, by decide, by decide +kernel⟩
  have names : Descriptor.parts "Outer.Inner" = ["Outer", "Inner"] := by decide +kernel
  have plain : looksLikePath nestedClasses "pkg" = false := by decide +kernel
  constructor
  · obtain ⟨returns, new, known, searched, nowhere⟩ : pointed.1.toBool = true ∧
        pointed.2.plugins.table.lookup
          (Descriptor.dotted (Descriptor.parts "pkg" ++ ["Outer"])) = none ∧
        pointed.2.plugins.table.lookup "pkg" = some 0 ∧
        (placesBelow 0 pointed.2).1.toOption =
          some (some ["/site/pkg"]) ∧
        findSpec? pointed.2 ["/site/pkg"] "Outer" = none := by decide +kernel
    have longest := isLongest_of_pair (m := "pkg") names new known searched (by simpa using nowhere)
    have present : IsPresent nestedClasses "pkg" :=
      .inr ⟨[], "pkg", _, _, by decide +kernel, .path, by decide +kernel⟩
    have honest : ¬ Misleads nestedClasses "pkg" "pkg.Outer.Inner" := by
      rintro ⟨cause, last, -, -, failed, -⟩
      have imported : (importModule "pkg" nestedClasses).1.toBool = true := by decide +kernel
      rw [failed] at imported
      contradiction
    obtain ⟨cls, typed⟩ := eq_ok_of_toBool returns
    refine ⟨returns, ?_⟩
    rw [typed]
    exact (resolveType_forms module name plain longest).1 present honest typed
  · obtain ⟨returns, new, known, searched, nowhere, outer⟩ : colon.1.toBool = true ∧
        colon.2.plugins.table.lookup
          (Descriptor.dotted (Descriptor.parts "pkg" ++ ["Outer"])) = none ∧
        colon.2.plugins.table.lookup "pkg" = some 0 ∧
        (placesBelow 0 colon.2).1.toOption =
          some (some ["/site/pkg"]) ∧
        findSpec? colon.2 ["/site/pkg"] "Outer" = none ∧
        colon.2.plugins.gives 0 "Outer" = true := by decide +kernel
    have longest := isLongest_of_pair (m := "pkg") names new known searched (by simpa using nowhere)
    obtain ⟨cls, typed⟩ := eq_ok_of_toBool returns
    refine ⟨returns, ?_⟩
    rw [typed]
    exact (resolveType_forms module name plain longest).2 typed (gives_of_pair names known outer)

/-- A package whose first part imports the last one and then is not loaded. -/
def misleadingPackages : Host where
  files.nodes :=
    let file (items : List Item) : Node := .file (.source (.items items))
    let boom : Raised := { name := "ValueError", kind := .ordinary, text := "boom" }
    let generator : Item := .cls "G" { slots := [.type], script := some default } []
    [(["site"], .directory), (["site", "a"], .directory), (["site", "a", "b"], .directory),
     (["site", "a", "b", "c"], .directory),
     (["site", "a", "__init__.py"], file
       [.cls "b" {} [.cls "c" {} []], .load "a.b.c", .const pathName (.value (.list []))]),
     (["site", "a", "b", "__init__.py"], file [.load "a.b.c", .raise boom]),
     (["site", "a", "b", "c", "__init__.py"], file [.cls "d" {} [generator]]),
     (["site", "a", "b", "c", "d.py"], file [.load "a.b", generator])]
  searchPath := ["/site"]

/-- The second part is not loaded, but the third one is, and has the last one in its directory. -/
theorem misleadingPackages_present :
    IsPresent (loadAssembly "a" "" misleadingPackages).2 "a.b.c.d" := by
  let within := importModule "a.b.c" (loadAssembly "a" "" misleadingPackages).2
  obtain ⟨imported, places, found⟩ : within.1.toOption = some 2 ∧
      (placesBelow 2 within.2).1.toOption = some (some ["/site/a/b/c"]) ∧
      (findSpec? within.2 ["/site/a/b/c"] "d").isSome = true := by decide +kernel
  have imported : within = (.ok 2, within.2) := Prod.ext (eq_ok_of_toOption imported) rfl
  exact .inr ⟨["a", "b", "c"], "d", within.2, ["/site/a/b/c"], by decide +kernel,
    .below (by decide) imported (eq_ok_of_toOption places), found⟩

/-- A module that searches for submodules in what is no list. -/
def unsearchableModule : Host where
  files.nodes :=
    let inner : Item := .cls "B" { slots := [.type], script := some default } []
    [(["site"], .directory),
     (["site", "m.py"], .file (.source (.items
       [.const pathName (.value (.int 5)), .cls "A" {} [inner]])))]
  searchPath := ["/site"]

/-- The dotted form leads to a class in a package whose module of that name is missed, and no longer
leads to one where a module cannot search for submodules. -/
theorem resolveType_forms_misled :
    (¬ ∀ (world : Host) (assembly m u : String), world.plugins.history = [] →
      let h := (loadAssembly assembly "" world).2
      ∀ (cls : ClassId) (h₁ : Host), IsDottedName m → IsDottedName u → looksLikePath h m = false →
        IsPresent h m → IsLongest h₁ m u →
        resolveType (.text (m ++ "." ++ u)) h = (.ok cls, h₁) →
        (resolveType (.text (m ++ ":" ++ u)) h₁).1 = .ok cls) ∧
    ¬ ∀ (h : Host) (m u : String) (cls : ClassId) (h₁ : Host), h.plugins.history = [] →
      IsDottedName m → IsDottedName u → looksLikePath h m = false → IsPresent h m →
      (∀ more, more ≠ [] → more <+: (Descriptor.parts u).dropLast →
        h₁.plugins.table.lookup (Descriptor.dotted (Descriptor.parts m ++ more)) = none) →
      (∀ id, h₁.plugins.table.lookup m = some id →
        ∀ next ∈ (Descriptor.parts u).dropLast.head?, ∀ directories,
        (placesBelow id h₁).1 = .ok (some directories) →
        findSpec? h₁ directories next = none) →
      (∀ id, h₁.plugins.table.lookup m = some id →
        ∀ first ∈ (Descriptor.parts u).head?, h₁.plugins.gives id first) →
      resolveType (.text (m ++ ":" ++ u)) h = (.ok cls, h₁) →
      (resolveType (.text (m ++ "." ++ u)) h₁).1 = .ok cls := by
  constructor
  · intro agrees
    let h := (loadAssembly "a" "" misleadingPackages).2
    let pointed := resolveType (.text "a.b.c.d.G") h
    have module : IsDottedName "a.b.c.d" := ⟨by decide +kernel, by decide, by decide +kernel⟩
    have name : IsDottedName "G" := ⟨by decide +kernel, by decide, by decide +kernel⟩
    have short : (Descriptor.parts "G").dropLast = [] := by decide +kernel
    have longest : IsLongest pointed.2 "a.b.c.d" "G" := by
      refine ⟨fun more some within => ?_, fun id entered next leads => ?_⟩
      · rw [short] at within
        exact absurd (List.prefix_nil.mp within) some
      · rw [short] at leads
        contradiction
    obtain ⟨plain, returns, refuses⟩ : looksLikePath h "a.b.c.d" = false ∧
        pointed.1.toBool = true ∧
        (resolveType (.text "a.b.c.d:G") pointed.2).1.toBool = false := by decide +kernel
    obtain ⟨cls, typed⟩ := eq_ok_of_toBool returns
    have agreed : (resolveType (.text "a.b.c.d:G") pointed.2).1 = .ok cls :=
      agrees misleadingPackages "a" "a.b.c.d" "G" rfl cls pointed.2 module name plain
        misleadingPackages_present longest typed
    rw [agreed] at refuses
    contradiction
  · intro agrees
    let colon := resolveType (.text "m:A.B") unsearchableModule
    have module : IsDottedName "m" := ⟨by decide +kernel, by decide, by decide +kernel⟩
    have name : IsDottedName "A.B" := ⟨by decide +kernel, by decide, by decide +kernel⟩
    have names : Descriptor.parts "A.B" = ["A", "B"] := by decide +kernel
    obtain ⟨returns, known, new, unsearched, shown⟩ : colon.1.toBool = true ∧
        colon.2.plugins.table.lookup "m" = some 0 ∧
        colon.2.plugins.table.lookup
          (Descriptor.dotted (Descriptor.parts "m" ++ ["A"])) = none ∧
        (placesBelow 0 colon.2).1.toBool = false ∧
        colon.2.plugins.gives 0 "A" = true := by decide +kernel
    have refuses : (resolveType (.text "m.A.B") colon.2).1.toBool = false := by decide +kernel
    have present : IsPresent unsearchableModule "m" :=
      .inr ⟨[], "m", _, _, by decide +kernel, .path, by decide +kernel⟩
    have unloaded : ∀ more, more ≠ [] → more <+: (Descriptor.parts "A.B").dropLast →
        colon.2.plugins.table.lookup (Descriptor.dotted (Descriptor.parts "m" ++ more)) = none := by
      intro more some within
      obtain rfl : more = ["A"] := eq_of_prefix_singleton some (by simpa [names] using within)
      exact new
    obtain ⟨cls, typed⟩ := eq_ok_of_toBool returns
    have agreed : (resolveType (.text "m.A.B") colon.2).1 = .ok cls := by
      refine agrees unsearchableModule "m" "A.B" cls colon.2 rfl module name (by decide +kernel)
        present unloaded ?_ (gives_of_pair names known shown) typed
      intro id entered next leads directories searched
      obtain rfl : 0 = id := Option.some.inj (known.symm.trans entered)
      rw [searched] at unsearched
      contradiction
    rw [agreed] at refuses
    contradiction

end Plugin

end SchemaNaming
