import Mathlib.Data.List.Induction
import SchemaNaming.Proofs.Plugin.Caching
import SchemaNaming.Proofs.Plugin.Growth
import SchemaNaming.Proofs.Plugin.Lookup
import SchemaNaming.Proofs.Plugin.Surroundings

/-!
Descriptors that are looked up again. A module that a descriptor has led to is found again without
any load, and so is the class in it, as long as what the descriptor goes by is as it was: the name
of the module in the table, the attributes on the way to the class, and the absence of modules with
a longer front of the type name. An assembly given by a path is found by its place in the cache
alone, which it never loses.
-/

namespace SchemaNaming.Plugin
open Descriptor (Undotted IsFront)

variable {r r' : Registry} {h h' : Host} {d : Descriptor} {id : ModuleId} {path : List String}

/-- A class that is there, with the class of the instances that it makes. -/
structure Registry.HasClass (r : Registry) (id : ClassId) : Prop where
  present : id < r.classes.size
  made {product : Product} : (r.cls id).construction = .ok product →
    (product.instance r id).cls < r.classes.size

/-- Every thing on a way of attributes gives the same next one, and a class at the end is one that
was there. -/
def KeepsWay (r r' : Registry) (owner : Thing) : List String → Prop
  | [] => ∀ cls, owner = .cls cls → r.HasClass cls
  | name :: rest =>
    r'.attributeOf owner name = r.attributeOf owner name ∧
      ∀ next, r.attributeOf owner name = .ok (some next) → KeepsWay r r' next rest

theorem KeepsWay.walk {owner : Thing} {cls : ClassId} (kept : KeepsWay r r' owner path)
    (leads : walkAttributes r owner path = .ok (some (.cls cls))) :
    walkAttributes r' owner path = .ok (some (.cls cls)) ∧ r.HasClass cls := by
  induction path generalizing owner with
  | nil =>
    obtain rfl := Option.some.inj (Except.ok.inj leads)
    exact ⟨rfl, kept cls rfl⟩
  | cons name rest ih =>
    obtain ⟨same, later⟩ := kept
    simp only [walkAttributes, bind, Except.bind, same] at leads ⊢
    cases found : r.attributeOf owner name with
    | error fault =>
      rw [found] at leads
      cases leads
    | ok next =>
      rw [found] at leads
      cases next with
      | none => cases leads
      | some next =>
        cases next with
        | null => cases leads
        | _ => exact ih (later _ found) leads

/-- Nothing is found where a module searches for a submodule. -/
def IsUnfound (h : Host) (id : ModuleId) (name : String) : Prop :=
  ∃ places, (placesBelow id h).1 = .ok places ∧
    ∀ directories ∈ places, findSpec? h directories name = none

/-- No module has a name that goes on behind a front with some of the parts: none is in the table,
and the first one is not found below the module of the front. -/
structure NoneBelow (h : Host) (id : ModuleId) (front parts : List String) : Prop where
  unloaded : ∀ inner, inner ≠ [] → inner <+: parts →
    h.plugins.table.lookup (Descriptor.dotted (front ++ inner)) = none
  unfound : ∀ next ∈ parts.head?, IsUnfound h id next

theorem NoneBelow.shorten {front parts more : List String}
    (below : NoneBelow h id front (parts ++ more)) : NoneBelow h id front parts := by
  refine ⟨fun inner some within => below.unloaded inner some (within.trans ⟨more, rfl⟩), ?_⟩
  intro next first
  cases parts with
  | nil => contradiction
  | cons part rest => exact below.unfound next first

theorem importBelow_of_unfound (load : String → Run Host ModuleId) {parents : List String}
    {last name : String} (named : Descriptor.dotted (parents.reverse ++ [last]) = name)
    (unfound : IsUnfound h id last) (new : h.plugins.table.lookup name = none) :
    ∃ parent, importBelow load parents last id h =
      (.error (.of (.moduleNotFound name parent)), h) := by
  subst named
  obtain ⟨places, searched, nowhere⟩ := unfound
  have ran : placesBelow id h = (.ok places, h) :=
    Prod.ext searched (IsImportFrame.placesBelow_host id h)
  rw [importBelow, Run.bind_apply, Run.get_apply]
  dsimp only
  rw [new]
  dsimp only
  rw [Run.bind_apply, ran]
  cases places with
  | none => exact ⟨_, rfl⟩
  | some directories =>
    dsimp only
    rw [nowhere directories rfl]
    exact ⟨_, rfl⟩

/-- An import of such a module misses the first part, and executes nothing. -/
theorem importParts_below (load : String → Run Host ModuleId) {front inner : List String}
    {next : String} (filled : front ≠ [])
    (known : h.plugins.table.lookup (Descriptor.dotted front) = some id)
    (below : NoneBelow h id front (next :: inner)) :
    ∃ parent, importParts load (front ++ next :: inner).reverse h =
      (.error (.of (.moduleNotFound (Descriptor.dotted (front ++ [next])) parent)), h) := by
  -- From the end of the name, because an import asks for the parent of its module first.
  induction inner using List.reverseRecOn with
  | nil =>
    have new := below.unloaded [next] (by simp) (List.prefix_refl _)
    have loaded : importParts load front.reverse h = (.ok id, h) :=
      importParts_of_known (by simpa using filled) (by rwa [List.reverse_reverse])
    have twice : Descriptor.dotted (front.reverse.reverse ++ [next]) =
        Descriptor.dotted (front ++ [next]) := by rw [List.reverse_reverse]
    obtain ⟨parent, missed⟩ := importBelow_of_unfound load twice (below.unfound next rfl) new
    refine ⟨parent, ?_⟩
    rw [List.reverse_append, List.reverse_singleton, List.singleton_append,
      importParts_of_new load (by simpa using filled) (by rwa [twice]), Run.bind_apply, loaded]
    exact missed
  | append_singleton rest last ih =>
    obtain ⟨parent, missed⟩ := ih below.shorten
    have new := below.unloaded _ (by simp) (List.prefix_refl (next :: (rest ++ [last])))
    refine ⟨parent, ?_⟩
    have split : (front ++ next :: (rest ++ [last])).reverse =
        last :: (front ++ next :: rest).reverse := by simp
    rw [split, importParts_of_new load (by simp) (by simpa using new), Run.bind_apply, missed]

/-- A name that can be imported at all: it is not empty and does not begin with a point. -/
structure IsModuleName (name : String) : Prop where
  filled : name.isEmpty = false
  absolute : name.startsWith "." = false

theorem importModule_eq (h : Host) : ∃ depth, ∀ name, IsModuleName name →
    importModule name h =
      importParts (importWithin depth) (Descriptor.parts name).reverse h := by
  refine ⟨h.files.moduleBound + 1, fun name named => ?_⟩
  change importWithin (h.files.moduleBound + 2) name h = _
  rw [importWithin, if_neg (by simp [named.filled]), if_neg (by simp [named.absolute])]

theorem importIfPresent_below {front inner : List String} {next : String} (filled : front ≠ [])
    (undotted : Undotted (front ++ next :: inner))
    (named : IsModuleName (Descriptor.dotted (front ++ next :: inner)))
    (known : h.plugins.table.lookup (Descriptor.dotted front) = some id)
    (below : NoneBelow h id front (next :: inner)) (text : String) :
    importIfPresent (Descriptor.dotted (front ++ next :: inner)) text h = (.ok none, h) := by
  obtain ⟨depth, imports⟩ := importModule_eq h
  obtain ⟨parent, missed⟩ := importParts_below (importWithin depth) filled known below
  have ran : importModule (Descriptor.dotted (front ++ next :: inner)) h =
      (.error (.of (.moduleNotFound (Descriptor.dotted (front ++ [next])) parent)), h) := by
    rw [imports _ named, Descriptor.parts_dotted (by simp [filled]) undotted, missed]
  have absent : isAbsence (Descriptor.dotted (front ++ next :: inner))
      (.moduleNotFound (Descriptor.dotted (front ++ [next])) parent) = true := by
    refine (isAbsence_iff _ _).mpr ⟨_, parent, rfl, ?_⟩
    cases inner with
    | nil => exact .inl rfl
    | cons other others =>
      have outer : IsFront (Descriptor.dotted (front ++ [next]))
          (Descriptor.dotted ((front ++ [next]) ++ other :: others)) :=
        Descriptor.isFront_append (by simp) (by simp)
      rw [List.append_assoc, List.singleton_append] at outer
      exact .inr outer
  have outcome := importIfPresent_cases (Descriptor.dotted (front ++ next :: inner)) text h
  rcases ended : importIfPresent (Descriptor.dotted (front ++ next :: inner)) text h with
    ⟨failure | _ | other, last⟩ <;> rw [ended, ran] at outcome
  · obtain ⟨cause, same, breaks⟩ := outcome
    cases same
    cases breaks with
    | stop stops => contradiction
    | load _ present => exact absurd (absent.symm.trans present) (by decide)
  · obtain ⟨cause, same, _⟩ := outcome
    cases same
    rfl
  · cases outcome

theorem IsModuleName.of_longer {front inner more : List String} (filled : front ≠ [])
    (some : inner ≠ []) (named : IsModuleName (Descriptor.dotted (front ++ inner ++ more))) :
    IsModuleName (Descriptor.dotted (front ++ inner)) := by
  constructor
  · rw [Descriptor.dotted_append filled some, ← Bool.not_eq_true, String.isEmpty_iff]
    intro empty
    have none := congrArg String.toList empty
    rw [Descriptor.toList_point] at none
    simp at none
  · have absolute := named.absolute
    rw [← Bool.not_eq_true, String.startsWith_string_iff] at absolute ⊢
    intro pointed
    cases more with
    | nil => exact absolute (by rwa [List.append_nil])
    | cons next rest =>
      obtain ⟨_, whole⟩ : IsFront (Descriptor.dotted (front ++ inner))
          (Descriptor.dotted (front ++ inner ++ next :: rest)) :=
        Descriptor.isFront_append (by simp [filled]) (by simp)
      rw [← whole, List.append_assoc] at absolute
      exact absolute (pointed.trans (List.prefix_append _ _))

theorem isModuleName_of_absence {failure : Failure}
    (failed : importModule name h = (.error failure, h'))
    (absence : isAbsence name failure.fault = true) : IsModuleName name := by
  change importWithin (h.files.moduleBound + 2) name h = _ at failed
  rw [importWithin] at failed
  split at failed
  · cases failed
    contradiction
  · rename_i filled
    split at failed
    · cases failed
      contradiction
    · rename_i absolute
      exact ⟨Bool.eq_false_of_not_eq_true filled, Bool.eq_false_of_not_eq_true absolute⟩

/-- What a search has found: the module of a front, with the rest of the name. -/
theorem findModule_ok {fronts rest : List String} (undotted : Undotted fronts)
    (found : findModule d fronts rest h = (.ok (id, path), h')) :
    ∃ front inner, front ≠ [] ∧ fronts.reverse = front ++ inner ∧ path = inner ++ rest ∧
      h'.plugins.table.lookup (Descriptor.dotted front) = some id ∧
      (inner ≠ [] → IsModuleName (Descriptor.dotted fronts.reverse)) := by
  induction fronts generalizing rest h with
  | nil => cases found
  | cons last fronts ih =>
    have undottedName : Undotted (fronts.reverse ++ [last]) := by
      refine undotted.of_subset fun part member => ?_
      simpa [or_comm] using member
    rw [findModule_apply] at found
    rw [List.reverse_cons]
    cases known : h.plugins.table.lookup (Descriptor.dotted (fronts.reverse ++ [last])) with
    | some number =>
      rw [known] at found
      cases found
      exact ⟨_, [], by simp, (List.append_nil _).symm, rfl, known, fun some => absurd rfl some⟩
    | none =>
      rw [known] at found
      dsimp only at found
      have outcome := importIfPresent_cases (Descriptor.dotted (fronts.reverse ++ [last])) d.text h
      rcases ended : importIfPresent (Descriptor.dotted (fronts.reverse ++ [last])) d.text h with
        ⟨failure | _ | number, middle⟩ <;> rw [ended] at found outcome
      · cases found
      · obtain ⟨cause, failed, absence⟩ := outcome
        obtain ⟨front, inner, filled, split, rfl, entered, _⟩ :=
          ih (undotted.of_subset (List.subset_cons_self _ _)) found
        refine ⟨front, inner ++ [last], filled, ?_, by simp, entered, fun _ => ?_⟩
        · rw [split, List.append_assoc]
        · exact isModuleName_of_absence failed absence
      · cases found
        have entered := ((importModule_enters _ h).ok outcome).2
        rw [Descriptor.parts_dotted (by simp) undottedName] at entered
        exact ⟨_, [], by simp, (List.append_nil _).symm, rfl, entered, fun some => absurd rfl some⟩

theorem findModule_again {front inner : List String} (filled : front ≠ [])
    (undotted : Undotted (front ++ inner))
    (named : inner ≠ [] → IsModuleName (Descriptor.dotted (front ++ inner)))
    (known : h.plugins.table.lookup (Descriptor.dotted front) = some id)
    (below : NoneBelow h id front inner) (rest : List String) :
    findModule d (front ++ inner).reverse rest h = (.ok (id, inner ++ rest), h) := by
  induction inner using List.reverseRecOn generalizing rest with
  | nil =>
    rcases List.eq_nil_or_concat front with rfl | ⟨parents, last, rfl⟩
    · contradiction
    · rw [List.concat_eq_append] at known ⊢
      rw [List.append_nil, List.reverse_append, List.reverse_singleton, List.singleton_append,
        findModule_apply, List.reverse_reverse, known]
      rfl
  | append_singleton inner last ih =>
    have whole := named (by simp)
    have new := below.unloaded (inner ++ [last]) (by simp) (List.prefix_refl _)
    have absent : importIfPresent (Descriptor.dotted (front ++ (inner ++ [last]))) d.text h =
        (.ok none, h) := by
      cases inner with
      | nil => exact importIfPresent_below filled undotted whole known below d.text
      | cons next others => exact importIfPresent_below filled undotted whole known below d.text
    rw [← List.append_assoc] at undotted whole new absent ⊢
    have shorter : inner ≠ [] → IsModuleName (Descriptor.dotted (front ++ inner)) :=
      fun some => .of_longer filled some whole
    have found := ih (undotted.of_subset (List.subset_append_left _ _)) shorter below.shorten
      (last :: rest)
    rw [List.reverse_append, List.reverse_singleton, List.singleton_append, findModule_apply,
      List.reverse_reverse, new]
    dsimp only
    rw [absent]
    dsimp only
    rw [found, List.append_cons]

theorem findLoadedModule_eq {names : List String} {last : String}
    (split : Descriptor.parts d.typeName = names ++ [last]) :
    findLoadedModule d = findModule d names.reverse [last] := by
  rw [findLoadedModule, split, List.reverse_append, List.reverse_singleton, List.singleton_append]

theorem SameSurroundings.isPathTo {assembly real : String} (same : SameSurroundings h h')
    (leads : IsPathTo h assembly real) : IsPathTo h' assembly real := by
  obtain ⟨isPath, leads⟩ := leads
  rw [same.eq]
  exact ⟨isPath, leads⟩

theorem loadAssembly_named {assembly : String} (named : looksLikePath h assembly = false)
    (text : String) : ∃ shown, loadAssembly assembly text h = loadByName assembly shown h := by
  refine ⟨if text.isEmpty then assembly else text, ?_⟩
  rw [loadAssembly, Run.bind_apply, Run.get_apply]
  simp only [named, Bool.false_eq_true, if_false]

theorem loadAssembly_of_entered {assembly : String} (named : looksLikePath h assembly = false)
    (entered : h.plugins.table.lookup assembly = some id) (text : String) :
    loadAssembly assembly text h = (.ok id, h) := by
  obtain ⟨shown, run⟩ := loadAssembly_named named text
  rw [run, loadByName, registry_bind]
  rw [entered]
  rfl

theorem entered_of_loadAssembly {assembly text : String} (named : looksLikePath h assembly = false)
    (loaded : loadAssembly assembly text h = (.ok id, h')) :
    h'.plugins.table.lookup assembly = some id := by
  obtain ⟨shown, run⟩ := loadAssembly_named named text
  rw [run, loadByName, registry_bind] at loaded
  cases known : h.plugins.table.lookup assembly with
  | some number =>
    rw [known] at loaded
    cases loaded
    exact known
  | none =>
    rw [known] at loaded
    obtain ⟨number, middle, imported, loaded⟩ := Run.bind_eq_ok.mp loaded
    rw [registry_bind] at loaded
    obtain ⟨shown, _, loaded⟩ := Run.check_bind_eq_ok.mp loaded
    obtain ⟨_, _, emitted, loaded⟩ := Run.bind_eq_ok.mp loaded
    cases emitted
    cases loaded
    have entered := ((importModule_enters assembly h).ok (Run.wrapping_eq_ok.mp imported)).2
    rw [Descriptor.dotted_parts] at entered
    let event : Log.Event := .assemblyLoaded assembly shown
    have still : middle.plugins = (middle.record (event.record loaderLogger)).plugins :=
      Leads.emit (event.record loaderLogger) middle
    change (middle.record (event.record loaderLogger)).plugins.table.lookup assembly = some id
    rwa [← still]

theorem isPathTo_of_loadAssembly {assembly text : String} (isPath : looksLikePath h assembly = true)
    (loaded : loadAssembly assembly text h = (.ok id, h')) : ∃ real, IsPathTo h assembly real := by
  refine ⟨realPathOf h assembly, isPath, ?_⟩
  rw [leadsTo?]
  cases null : Host.hasNull assembly with
  | false => rfl
  | true =>
    rw [loadAssembly, Run.bind_apply, Run.get_apply] at loaded
    simp only [isPath, if_true, loadFromPath, Run.bind_apply, Run.get_apply, null] at loaded
    cases loaded

/-- What a descriptor goes by is as it was in a registry, where it led to a module and a path of
attributes in it. -/
structure IsUndisturbed (d : Descriptor) (id : ModuleId) (path : List String) (r : Registry)
    (h : Host) : Prop where
  way : KeepsWay r h.plugins (.module id) path
  /-- Names are not needed for an assembly that is loaded by path. -/
  names : (∀ assembly, d.assembly = some assembly → looksLikePath h assembly = false) →
    ∀ name, r.table.lookup name = some id → h.plugins.table.lookup name = some id
  /-- With an assembly, the type name still denotes the same path. -/
  relative : d.assembly.isSome → relativePath h.plugins id d.typeName = relativePath r id d.typeName
  /-- Without one, there is still no module with a longer front of the type name. -/
  longest : d.assembly = none →
    ∀ front, Descriptor.parts d.typeName = front ++ path → NoneBelow h id front path.dropLast

theorem KeepsWay.instances {owner : Thing} (kept : KeepsWay r r' owner path) (is : Array Instance) :
    KeepsWay r { r' with instances := is } owner path := by
  induction path generalizing owner with
  | nil => exact kept
  | cons name rest ih => exact ⟨kept.1, fun next found => ih (kept.2 next found)⟩

theorem withoutAlias_instances (r : Registry) (is : Array Instance) (parts : List String)
    (names : List Thing) :
    withoutAlias { r with instances := is } parts names = withoutAlias r parts names := by
  induction names with
  | nil => rfl
  | cons name rest ih =>
    rw [withoutAlias, withoutAlias, ih]
    rfl

theorem relativePath_instances (r : Registry) (is : Array Instance) (id : ModuleId)
    (typeName : String) :
    relativePath { r with instances := is } id typeName = relativePath r id typeName := by
  rw [relativePath, relativePath]
  simp only [withoutAlias_instances]
  rfl

theorem spaceFault?_follows (follows : Follows h h') (names : List String) :
    spaceFault? h' names = spaceFault? h names := by
  rw [follows.eq]
  induction names with
  | nil => rfl
  | cons last above ih =>
    simp only [spaceFault?, ih]
    rfl

theorem placesBelow_follows (follows : Follows h h') (id : ModuleId) :
    (placesBelow id h').1 = (placesBelow id h).1 := by
  have same : placesFor h' id = placesFor h id := by
    simp only [placesFor, spaceFault?_follows follows]
    rw [follows.eq]
    rfl
  rw [placesBelow, Run.bind_apply, Run.bind_apply, Run.get_apply, Run.get_apply]
  dsimp only
  rw [same]
  cases placesFor h id <;> rfl

theorem IsUnfound.follows (follows : Follows h h') {name : String} (unfound : IsUnfound h id name) :
    IsUnfound h' id name := by
  obtain ⟨places, searched, nowhere⟩ := unfound
  refine ⟨places, ?_, fun directories listed => ?_⟩
  · rw [placesBelow_follows follows, searched]
  · have still := nowhere directories listed
    rw [follows.eq]
    exact still

theorem IsUndisturbed.follows (kept : IsUndisturbed d id path r h) (follows : Follows h h') :
    IsUndisturbed d id path r h' := by
  obtain ⟨way, names, relative, longest⟩ := kept
  constructor
  · rw [follows.eq]
    exact way.instances _
  · rw [follows.eq]
    exact names
  · intro given
    rw [follows.eq, relativePath_instances, relative given]
  · intro given front split
    have below := longest given front split
    refine ⟨?_, fun next first => (below.unfound next first).follows follows⟩
    rw [follows.eq]
    exact below.unloaded

/-- The test of a class and of the class of its instances. -/
def Registry.hasClass? (r : Registry) (id : ClassId) : Bool :=
  id < r.classes.size && match (r.cls id).construction with
    | .ok product => (product.instance r id).cls < r.classes.size
    | .error _ => true

theorem Registry.HasClass.of_test {cls : ClassId} (there : r.hasClass? cls = true) :
    r.HasClass cls := by
  obtain ⟨present, made⟩ := Bool.and_eq_true_iff.mp there
  refine ⟨of_decide_eq_true present, fun built => ?_⟩
  rw [built] at made
  exact of_decide_eq_true made

/-- The test of a way through modules and classes. -/
def keepsWay? (r r' : Registry) (owner : Thing) : List String → Bool
  | [] => match owner with
    | .cls cls => r.hasClass? cls
    | _ => true
  | name :: rest => match r.attributeOf owner name, r'.attributeOf owner name with
    | .ok (some (.cls cls)), .ok (some (.cls other)) =>
      cls == other && keepsWay? r r' (.cls cls) rest
    | .ok (some (.module id)), .ok (some (.module other)) =>
      id == other && keepsWay? r r' (.module id) rest
    | _, _ => false

theorem KeepsWay.of_test {owner : Thing} (kept : keepsWay? r r' owner path = true) :
    KeepsWay r r' owner path := by
  induction path generalizing owner with
  | nil =>
    rintro cls rfl
    exact .of_test kept
  | cons name rest ih =>
    rw [keepsWay?] at kept
    split at kept
    · rename_i cls other found again
      obtain ⟨same, later⟩ := Bool.and_eq_true_iff.mp kept
      obtain rfl := eq_of_beq same
      refine ⟨again.trans found.symm, fun next leads => ?_⟩
      obtain rfl := Option.some.inj (Except.ok.inj (found.symm.trans leads))
      exact ih later
    · rename_i id other found again
      obtain ⟨same, later⟩ := Bool.and_eq_true_iff.mp kept
      obtain rfl := eq_of_beq same
      refine ⟨again.trans found.symm, fun next leads => ?_⟩
      obtain rfl := Option.some.inj (Except.ok.inj (found.symm.trans leads))
      exact ih later
    · contradiction

/-- The test of a descriptor. Without an assembly it only admits classes at the top of a module. -/
def isUndisturbed? (d : Descriptor) (id : ModuleId) (path : List String) (r : Registry)
    (h : Host) : Bool :=
  keepsWay? r h.plugins (.module id) path &&
    match d.assembly with
    | some assembly =>
      (looksLikePath h assembly || keepsNames) &&
        match relativePath h.plugins id d.typeName, relativePath r id d.typeName with
        | .ok names, .ok before => names == before
        | _, _ => false
    | none => keepsNames && path.length ≤ 1
where
  keepsNames : Bool :=
    r.table.all (fun entry => entry.2 != id || h.plugins.table.lookup entry.1 == some id)

theorem IsUndisturbed.of_test (kept : isUndisturbed? d id path r h = true) :
    IsUndisturbed d id path r h := by
  rw [isUndisturbed?, Bool.and_eq_true] at kept
  obtain ⟨way, kept⟩ := kept
  have names (all : isUndisturbed?.keepsNames id r h = true) (name : String)
      (found : r.table.lookup name = some id) : h.plugins.table.lookup name = some id := by
    obtain ⟨before, after, same, _⟩ := List.lookup_eq_some_iff.mp found
    have entry := List.all_eq_true.mp all (name, id) (by simp [same])
    simpa using entry
  cases given : d.assembly with
  | some assembly =>
    simp only [given, Bool.and_eq_true, Bool.or_eq_true] at kept
    obtain ⟨named, same⟩ := kept
    refine ⟨.of_test way, fun asked => ?_, fun _ => ?_, fun none => ?_⟩
    · rcases named with isPath | all
      · rw [asked assembly given] at isPath
        contradiction
      · exact names all
    · split at same
      · rename_i again before denoted denotedBefore
        rw [denoted, denotedBefore, eq_of_beq same]
      · contradiction
    · rw [given] at none
      contradiction
  | none =>
    simp only [given, Bool.and_eq_true, decide_eq_true_eq] at kept
    obtain ⟨all, short⟩ := kept
    refine ⟨.of_test way, fun _ => names all, fun some => ?_, fun _ front _ => ?_⟩
    · rw [given] at some
      contradiction
    · have top : path.dropLast = [] := List.eq_nil_of_length_eq_zero (by simp; omega)
      rw [top]
      refine ⟨fun inner some within => ?_, fun next first => ?_⟩
      · exact absurd (List.prefix_nil.mp within) some
      · contradiction

theorem loadAssembly_again {assembly text : String}
    (loaded : loadAssembly assembly text h = (.ok id, u)) (same : SameSurroundings h h')
    (cache : KeepsCache u.plugins h'.plugins)
    (names : looksLikePath h' assembly = false →
      ∀ name, u.plugins.table.lookup name = some id → h'.plugins.table.lookup name = some id) :
    loadAssembly assembly text h' = (.ok id, h') := by
  cases isPath : looksLikePath h assembly with
  | true =>
    obtain ⟨real, leads⟩ := isPathTo_of_loadAssembly isPath loaded
    have cached := cache real id (leads.cached_of_loaded loaded)
    exact (same.isPathTo leads).loadAssembly_of_cached cached text
  | false =>
    have named : looksLikePath h' assembly = false := by
      rw [same.eq]
      exact isPath
    have entered := names named _ (entered_of_loadAssembly isPath loaded)
    exact loadAssembly_of_entered named entered text

theorem placeOf_again (placed : placeOf d h = (.ok (id, path), u)) (same : SameSurroundings h h')
    (cache : KeepsCache u.plugins h'.plugins) (kept : IsUndisturbed d id path u.plugins h') :
    placeOf d h' = (.ok (id, path), h') := by
  rw [placeOf] at placed ⊢
  cases given : d.assembly with
  | some assembly =>
    rw [given] at placed
    dsimp only at placed ⊢
    obtain ⟨number, middle, loaded, placed⟩ := Run.bind_eq_ok.mp placed
    obtain ⟨_, _, looked, placed⟩ := Run.bind_eq_ok.mp placed
    cases looked
    obtain ⟨found, last, denoted, returned⟩ := Run.bind_eq_ok.mp placed
    obtain ⟨denoted, rfl⟩ := Run.check_eq_ok.mp denoted
    cases returned
    have again := loadAssembly_again loaded same cache fun named => kept.names fun other asked => by
      rwa [Option.some.inj (asked.symm.trans given)]
    have relative := kept.relative (by simp [given])
    rw [Run.bind_apply, again]
    dsimp only
    rw [registry_bind]
    rw [relative, denoted]
    rfl
  | none =>
    rw [given] at placed
    dsimp only at placed ⊢
    have names := List.dropLast_concat_getLast (Descriptor.parts_ne_nil d.typeName)
    rw [findLoadedModule_eq names.symm] at placed ⊢
    have undotted : Undotted (Descriptor.parts d.typeName).dropLast :=
      (Descriptor.undotted_parts d.typeName).of_subset (List.dropLast_subset _)
    have reversed : Undotted (Descriptor.parts d.typeName).dropLast.reverse :=
      undotted.of_subset fun _ => List.mem_reverse.mp
    obtain ⟨front, inner, filled, split, whole, entered, named⟩ := findModule_ok reversed placed
    rw [List.reverse_reverse] at split named
    -- The fronts that the search passed over are the ones longer than the front it ended at.
    have parts : Descriptor.parts d.typeName = front ++ path := by
      rw [whole, ← List.append_assoc, ← split, names]
    have below : NoneBelow h' id front inner := by
      have longest := kept.longest given front parts
      rwa [whole, List.dropLast_concat] at longest
    rw [split] at undotted named ⊢
    rw [whole]
    have known := kept.names (by simp [given]) _ entered
    exact findModule_again filled undotted named known below _

theorem typeOf_ok {cls : ClassId} (typed : typeOf d h = (.ok cls, u)) :
    ∃ id path, placeOf d h = (.ok (id, path), u) ∧
      walkAttributes u.plugins (.module id) path = .ok (some (.cls cls)) := by
  obtain ⟨⟨id, path⟩, middle, placed, typed⟩ := Run.bind_eq_ok.mp typed
  dsimp only at typed
  rw [registry_bind] at typed
  obtain ⟨found, walked, typed⟩ := Run.check_bind_eq_ok.mp typed
  cases found with
  | none =>
    obtain ⟨_, _, failed⟩ := Run.check_bind_eq_ok.mp typed
    cases failed
  | some t =>
    cases t with
    | cls other =>
      cases typed
      exact ⟨id, path, placed, walked⟩
    | _ => cases typed

/-- The class of a descriptor is found again, without any load. It is one that was there. -/
theorem typeOf_again {cls : ClassId} (typed : typeOf d h = (.ok cls, u))
    (same : SameSurroundings h h') (cache : KeepsCache u.plugins h'.plugins)
    (kept : ∀ id path, placeOf d h = (.ok (id, path), u) → IsUndisturbed d id path u.plugins h') :
    typeOf d h' = (.ok cls, h') ∧ u.plugins.HasClass cls := by
  obtain ⟨id, path, placed, walked⟩ := typeOf_ok typed
  have undisturbed := kept id path placed
  obtain ⟨again, present⟩ := undisturbed.way.walk walked
  refine ⟨?_, present⟩
  have places := placeOf_again placed same cache undisturbed
  rw [typeOf, Run.bind_apply, places]
  dsimp only
  rw [registry_bind, again]
  rfl

theorem Registry.Grows.shared?_mono (grows : r.Grows r') {product : Product} {id : InstanceId}
    (found : r.shared? product = some id) : r'.shared? product = some id := by
  cases product with
  | existing kind =>
    obtain ⟨present, both, first⟩ := Array.findIdx?_eq_some_iff_getElem.mp found
    have same {n : Nat} (inside : n < r.instances.size) :
        ∃ still : n < r'.instances.size, r'.instances[n] = r.instances[n] :=
      Array.getElem?_eq_some_iff.mp (grows.instances (Array.getElem?_eq_getElem inside))
    obtain ⟨still, unchanged⟩ := same present
    refine Array.findIdx?_eq_some_iff_getElem.mpr ⟨still, by rwa [unchanged], fun n less => ?_⟩
    obtain ⟨_, earlier⟩ := same (Nat.lt_trans less present)
    rw [earlier]
    exact first n less
  | _ => contradiction

/-- An instance that is handed out for the first time is found from then on. -/
theorem shared?_addInstance {kind cls : ClassId} (new : r.shared? (.existing kind) = none) :
    (r.addInstance (Product.instance r' cls (.existing kind))).2.shared? (.existing kind) =
      some r.instances.size := by
  have unseen := Array.findIdx?_eq_none_iff.mp new
  refine Array.findIdx?_eq_some_iff_getElem.mpr ⟨by simp [Registry.addInstance], ?_, ?_⟩
  · simp [Registry.addInstance, Product.instance]
  · intro n less
    have before := unseen _ (Array.getElem_mem less)
    simpa [Registry.addInstance, Array.getElem_push_lt less] using before

theorem Product.instance_eq {product : Product} {cls : ClassId} (grows : r.Grows r')
    (present : (product.instance r cls).cls < r.classes.size) :
    product.instance r' cls = product.instance r cls := by
  cases product <;> simp only [Product.instance] at present ⊢ <;> rw [grows.cls_eq present]

/-- Only what was there before it was made is handed out again and again. -/
theorem Product.eq_existing {product : Product} {cls : ClassId}
    (handedOut : (product.instance r cls).isShared = true) : ∃ kind, product = .existing kind := by
  cases product with
  | existing kind => exact ⟨kind, rfl⟩
  | _ => contradiction

theorem Product.shared?_eq_none {product : Product} {cls : ClassId}
    (own : (product.instance r cls).isShared = false) : r'.shared? product = none := by
  cases product with
  | existing kind => contradiction
  | _ => rfl

theorem newInstance_of_shared {cls : ClassId} {product : Product} {id : InstanceId}
    (built : (h.plugins.cls cls).construction = .ok product)
    (found : h.plugins.shared? product = some id) : newInstance cls h = (.ok id, h) :=
  newInstance_eq_ok.mpr ⟨product, built, .inl ⟨found, rfl⟩⟩

/-- What is made for each construction is made once more. -/
theorem newInstance_another {cls : ClassId} {product : Product} {middle : Host}
    (built : (h'.plugins.cls cls).construction = .ok product)
    (own : (product.instance h'.plugins cls).isShared = false)
    (constructed : construct product h = (.ok (), middle)) (same : SameSurroundings h h') :
    ∃ again last, newInstance cls h' = (.ok again, last) ∧
      last.plugins.instances[again]? = some (product.instance h'.plugins cls) ∧
      h'.plugins.instances.size ≤ again := by
  have result := construct_result same product
  rcases ran : construct product h' with ⟨failure | _, last⟩ <;> rw [ran, constructed] at result
  · cases result
  · have grown := grows_loadFrame.construct product h'
    rw [ran] at grown
    have repeated : newInstance cls h' = addInstance (product.instance h'.plugins cls) last :=
      newInstance_eq_ok.mpr ⟨product, built, .inr ⟨Product.shared?_eq_none own, last, ran, rfl⟩⟩
    exact ⟨_, _, repeated, by simp, grown.instances_size_le⟩

/-- A class that has given an instance gives one like it: another one, or the same if it hands it out
again and again. -/
theorem newInstance_again {cls : ClassId} {made : InstanceId}
    (run : newInstance cls h = (.ok made, u)) (same : SameSurroundings h h')
    (grows : u.plugins.Grows h'.plugins) (there : h.plugins.HasClass cls) :
    ∃ again last, newInstance cls h' = (.ok again, last) ∧
      ∃ i, u.plugins.instances[made]? = some i ∧ last.plugins.instances[again]? = some i ∧
        if i.isShared then again = made else h'.plugins.instances.size ≤ again := by
  have first : h.plugins.Grows u.plugins := by
    have grown := grows_loadFrame.newInstance cls h
    rwa [run] at grown
  have whole := Registry.Grows.composes.trans first grows
  obtain ⟨product, built, ended⟩ := newInstance_eq_ok.mp run
  have builtAgain : (h'.plugins.cls cls).construction = .ok product := by
    rwa [whole.cls_eq there.present]
  have alike := Product.instance_eq whole (there.made built)
  rcases ended with ⟨shared, rfl⟩ | ⟨unshared, middle, constructed, added⟩
  · obtain ⟨present, isShared⟩ := isShared_of_shared? shared
    have old := Array.getElem?_eq_getElem present
    refine ⟨made, h', newInstance_of_shared builtAgain (grows.shared?_mono shared), _, old,
      grows.instances old, ?_⟩
    rw [if_pos (by simpa [Registry.isShared, Array.getD, present] using isShared)]
  · cases added
    cases handedOut : (product.instance h.plugins cls).isShared with
    | true =>
      obtain ⟨kind, rfl⟩ := Product.eq_existing handedOut
      cases constructed
      have old : (h.plugins.instances.push (Product.instance h.plugins cls (.existing kind)))[
          h.plugins.instances.size]? = some (Product.instance h.plugins cls (.existing kind)) := by
        simp
      refine ⟨_, h', newInstance_of_shared builtAgain (grows.shared?_mono
        (shared?_addInstance unshared)), _, old, grows.instances old, ?_⟩
      rw [if_pos handedOut]
    | false =>
      obtain ⟨again, last, repeated, new, behind⟩ :=
        newInstance_another builtAgain (alike ▸ handedOut) constructed same
      refine ⟨again, last, repeated, product.instance h.plugins cls, by simp, alike ▸ new, ?_⟩
      simpa [handedOut] using behind

/-- What has been resolved is resolved again to an instance like it. Nothing is loaded. -/
theorem resolve_again {v : Value} {slot : Slot} {made : InstanceId}
    (run : resolve v slot h = (.ok made, u)) (quiet : h.IsQuiet) (same : SameSurroundings h h')
    (grows : u.plugins.Grows h'.plugins) (cache : KeepsCache u.plugins h'.plugins)
    (kept : ∀ d id path u, Descriptor.ofValue v = .ok d → placeOf d h = (.ok (id, path), u) →
      IsUndisturbed d id path u.plugins h') :
    ∃ again last, resolve v slot h' = (.ok again, last) ∧ Follows h' last ∧
      ∃ i, u.plugins.instances[made]? = some i ∧ last.plugins.instances[again]? = some i ∧
        if i.isShared then again = made else h'.plugins.instances.size ≤ again := by
  obtain ⟨d, cls, middle, described, typed, instantiated, implements⟩ := resolve_eq_ok.mp run
  have made₁ : middle.plugins.Grows u.plugins := by
    have grown := grows_loadFrame.instantiate d cls middle
    rwa [instantiated] at grown
  have kept₁ : KeepsCache middle.plugins u.plugins := by
    have keeps := keepsCache_loadFrame.instantiate d cls middle
    rwa [instantiated] at keeps
  have between : SameSurroundings middle h' := by
    have stays := (stays_typeOf quiet d h (.refl h)).keeps
    rw [typed] at stays
    exact stays.symm.trans same
  obtain ⟨typedAgain, present⟩ := typeOf_again typed same
    (keepsCache_loadFrame.trans kept₁ cache) fun id path => kept d id path middle described
  obtain ⟨again, last, renewed, i, old, new, given⟩ :=
    newInstance_again (Run.wrapping_eq_ok.mp instantiated) between grows present
  have instantiatedAgain : instantiate d cls h' = (.ok again, last) :=
    Run.wrapping_eq_ok.mpr renewed
  have follows : Follows h' last := by
    have makes := (makes_instantiate (same.isQuiet quiet) d cls h' (.refl h')).keeps
    rwa [instantiatedAgain] at makes
  have made₂ : h'.plugins.Grows last.plugins := by
    have grown := grows_loadFrame.instantiate d cls h'
    rwa [instantiatedAgain] at grown
  refine ⟨again, last, ?_, follows, i, old, new, given⟩
  have alike : last.plugins.instances.getD again default =
      u.plugins.instances.getD made default := by
    rw [Array.getD_eq_getD_getElem?, Array.getD_eq_getD_getElem?, old, new]
  have later := (Registry.Grows.composes.trans grows made₂).isInstance_of_alike alike
    (Registry.Grows.isGenerator_eq_true.mp implements)
  exact resolve_eq_ok.mpr ⟨d, cls, h', described, typedAgain, instantiatedAgain,
    Registry.Grows.isGenerator_eq_true.mpr later⟩

end SchemaNaming.Plugin
