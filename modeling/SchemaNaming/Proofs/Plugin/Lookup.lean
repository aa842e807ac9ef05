import SchemaNaming.Proofs.Plugin.Imports

/-!
The search for the module of a type name that is given without an assembly. Ever shorter fronts of the
name are tried, the whole name up to its last part first. A front that is passed over is not loaded, nor
is it found where it is searched, unless it lies in a module that is loaded without all that it lies in.
Whatever else keeps a front from being imported ends the search as a failed load.
-/

namespace SchemaNaming.Plugin
open Descriptor (Undotted IsFront)

/-- The host in which a module is searched, and where: on the search path, or in the places of the
module that it lies in, which is imported first. -/
inductive SearchedIn (h : Host) : List String → Host → List String → Prop where
  | path : SearchedIn h [] h h.searchPath
  | below {front : List String} {id : ModuleId} {directories : List String}
    (filled : front ≠ [])
    (imported : importModule (Descriptor.dotted front) h = (.ok id, h'))
    (places : (placesBelow id h').1 = .ok (some directories)) :
    SearchedIn h front h' directories

theorem importModule_eq_ok {front : List String} {id : ModuleId} (filled : front ≠ [])
    (undotted : Undotted front)
    (imported : importModule (Descriptor.dotted front) h = (.ok id, h')) :
    ∃ depth, depthLimit h = depth + 1 ∧
      importParts (importWithin depth) front.reverse h = (.ok id, h') := by
  change importWithin (depthLimit h) (Descriptor.dotted front) h = _ at imported
  cases limit : depthLimit h with
  | zero =>
    rw [limit] at imported
    simp [importWithin] at imported
  | succ depth =>
    rw [limit, importWithin] at imported
    split at imported
    · simp at imported
    · split at imported
      · simp at imported
      · rw [Descriptor.parts_dotted filled undotted] at imported
        exact ⟨depth, rfl, imported⟩

theorem SearchedIn.ancestors {front : List String} {last : String}
    (searched : SearchedIn h front h' directories) (undotted : Undotted (front ++ [last]))
    (rooted : Rooted h (Descriptor.dotted (front ++ [last])))
    (outside : IsFront outer (Descriptor.dotted (front ++ [last]))) :
    (h'.plugins.table.lookup outer).isSome := by
  have uncut : '.' ∉ last.toList := undotted last (by simp)
  cases searched with
  | path => exact absurd outside (Descriptor.not_isFront_of_undotted uncut outer)
  | below filled imported places =>
    have inner : Undotted front := undotted.of_subset (List.subset_append_left _ _)
    obtain ⟨depth, -, ran⟩ := importModule_eq_ok filled inner imported
    rw [Descriptor.dotted_concat filled, Descriptor.isFront_concat uncut] at outside
    rcases outside with rfl | outside
    · have entered := ((importModule_enters (Descriptor.dotted front) h).ok imported).2
      rw [Descriptor.parts_dotted filled inner] at entered
      rw [entered]
      rfl
    · refine importParts_ancestors (fun name => keepsTable_importWithin depth name) ?_ ?_ ran ?_
      · exact inner.of_subset (List.reverse_subset.mpr (List.Subset.refl _))
      · rw [List.reverse_reverse]
        exact rooted.parent uncut filled
      · rwa [List.reverse_reverse]

theorem importBelow_of_found (load : String → Run Host ModuleId) {parents : List String}
    {id : ModuleId} {directories : List String}
    (places : (placesBelow id h).1 = .ok (some directories))
    (found : findSpec? h directories last = some spec) :
    importBelow load parents last id h =
      match h.plugins.table.lookup (Descriptor.dotted (parents.reverse ++ [last])) with
      | some id => (.ok id, h)
      | none =>
        loadSpec load (Descriptor.dotted (parents.reverse ++ [last])) (some (id, last)) spec h := by
  have searched : placesBelow id h = (.ok (some directories), h) :=
    Prod.ext places (IsImportFrame.placesBelow_host _ h)
  rw [importBelow, Run.bind_apply, Run.get_apply]
  dsimp only
  cases h.plugins.table.lookup (Descriptor.dotted (parents.reverse ++ [last])) with
  | some id => rfl
  | none => simp only [Run.bind_apply, searched, found]

/-- The import of a module that is found where it is searched. Its parent may have entered it. -/
theorem importParts_of_found {front : List String} {last : String} (undotted : Undotted front)
    (limit : depthLimit h = depth + 1) (searched : SearchedIn h front h' directories)
    (new : h.plugins.table.lookup (Descriptor.dotted (front ++ [last])) = none)
    (found : findSpec? h' directories last = some spec) :
    ∃ parent, importParts (importWithin depth) (front ++ [last]).reverse h =
      match h'.plugins.table.lookup (Descriptor.dotted (front ++ [last])) with
      | some id => (.ok id, h')
      | none =>
        loadSpec (importWithin depth) (Descriptor.dotted (front ++ [last])) parent spec h' := by
  rw [List.reverse_append, List.reverse_singleton, List.singleton_append]
  cases searched with
  | path =>
    refine ⟨none, ?_⟩
    rw [new]
    have new : h.plugins.table.lookup last = none := new
    simp only [List.reverse_nil, importParts, Run.bind_apply, Run.get_apply, new, found]
    rfl
  | below filled imported places =>
    rename_i id
    obtain ⟨other, same, ran⟩ := importModule_eq_ok filled undotted imported
    obtain rfl : other = depth := by omega
    refine ⟨some (id, last), ?_⟩
    rw [importParts_of_new _ (by simp [filled]) (by rwa [List.reverse_reverse]), Run.bind_apply, ran]
    dsimp only
    rw [importBelow_of_found _ places found, List.reverse_reverse]

theorem importModule_missing {front : List String} {last : String} {failure : Failure}
    (undotted : Undotted (front ++ [last]))
    (new : h.plugins.table.lookup (Descriptor.dotted (front ++ [last])) = none)
    (searched : SearchedIn h front h₁ directories)
    (found : findSpec? h₁ directories last = some spec)
    (failed : (importModule (Descriptor.dotted (front ++ [last])) h).1 = .error failure)
    (same : failure.fault = .moduleNotFound missing parent) :
    missing ≠ Descriptor.dotted (front ++ [last]) ∧ h₁.plugins.table.lookup missing = none := by
  change (importWithin (depthLimit h) (Descriptor.dotted (front ++ [last])) h).1 = _ at failed
  cases limit : depthLimit h with
  | zero =>
    rw [limit] at failed
    obtain rfl := Except.error.inj failed
    contradiction
  | succ depth =>
    rw [limit, importWithin] at failed
    split at failed
    · obtain rfl := Except.error.inj failed
      contradiction
    · split at failed
      · obtain rfl := Except.error.inj failed
        contradiction
      · rw [Descriptor.parts_dotted (by simp) undotted] at failed
        have inner : Undotted front := undotted.of_subset (List.subset_append_left _ _)
        obtain ⟨parent, ran⟩ := importParts_of_found inner limit searched new found
        rw [ran] at failed
        cases still : h₁.plugins.table.lookup (Descriptor.dotted (front ++ [last])) with
        | some id =>
          rw [still] at failed
          contradiction
        | none =>
          rw [still] at failed
          -- While the file executes, the module itself stands in the table.
          have misses := loadSpec_missing (fun name => keepsTable_importWithin depth name) failed
          have absent := misses missing _ same
          refine ⟨?_, (extends_loadingHost still spec).lookup_eq_none absent⟩
          rintro rfl
          rw [loadingHost_lookup] at absent
          contradiction

theorem isAbsence_iff (name : String) (fault : Fault) :
    isAbsence name fault = true ↔ ∃ missing parent, fault = .moduleNotFound missing parent ∧
      (missing = name ∨ IsFront missing name) := by
  cases fault with
  | moduleNotFound missing parent =>
    rw [isAbsence, Bool.or_eq_true, beq_iff_eq, Descriptor.isPrefixOf_iff, eq_comm]
    simp
  | _ => simp [isAbsence]

/-- A module that is passed over is not loaded, nor is it found where it is searched. It may be found
all the same if it lies in a module that is loaded without all that this one lies in. -/
structure IsOverlooked (h : Host) (front : List String) (last : String) : Prop where
  new : h.plugins.table.lookup (Descriptor.dotted (front ++ [last])) = none
  unfound {h' : Host} {directories : List String} :
    Rooted h (Descriptor.dotted (front ++ [last])) → SearchedIn h front h' directories →
      findSpec? h' directories last = none

theorem isOverlooked_of_absence {front : List String} {last : String} {failure : Failure}
    (undotted : Undotted (front ++ [last]))
    (new : h.plugins.table.lookup (Descriptor.dotted (front ++ [last])) = none)
    (failed : (importModule (Descriptor.dotted (front ++ [last])) h).1 = .error failure)
    (absence : isAbsence (Descriptor.dotted (front ++ [last])) failure.fault = true) :
    IsOverlooked h front last := by
  refine ⟨new, fun {h' directories} rooted searched => ?_⟩
  obtain ⟨missing, parent, same, named⟩ := (isAbsence_iff _ _).mp absence
  cases found : findSpec? h' directories last with
  | none => rfl
  | some spec =>
    obtain ⟨other, absent⟩ := importModule_missing undotted new searched found failed same
    rcases named with own | outside
    · exact absurd own other
    · have present := searched.ancestors undotted rooted outside
      rw [absent] at present
      contradiction

/-- How a failed import of a module that is not absent ends the search. -/
inductive Breaks (text name : String) (cause : Failure) : Failure → Prop where
  | stop (stops : cause.isStop = true) : Breaks text name cause cause
  | load (ordinary : cause.isStop = false) (present : isAbsence name cause.fault = false) :
    Breaks text name cause
      (.because (.assemblyLoad text name (.importFailed name cause.message)) cause)

theorem importIfPresent_cases (name text : String) (h : Host) :
    match importIfPresent name text h with
    | (.ok (some id), h') => importModule name h = (.ok id, h')
    | (.ok none, h') => ∃ cause, importModule name h = (.error cause, h') ∧
        isAbsence name cause.fault = true
    | (.error failure, h') => ∃ cause, importModule name h = (.error cause, h') ∧
        Breaks text name cause failure := by
  rw [importIfPresent, Run.bind_apply, Run.attempt]
  rcases ran : importModule name h with ⟨cause | id, h'⟩
  · dsimp only
    cases stops : cause.isStop with
    | true => exact ⟨cause, rfl, .stop stops⟩
    | false =>
      cases absence : isAbsence name cause.fault with
      | true => exact ⟨cause, rfl, absence⟩
      | false => exact ⟨cause, rfl, .load stops absence⟩
  · rfl

/-- The fronts of a name that are longer than a number of parts have been passed over, the whole name
first of all. -/
def PassedOver (h h' : Host) (names : List String) (length : Nat) : Prop :=
  ∀ front last passed, names = front ++ last :: passed → length ≤ front.length →
    ∃ start, Extends h start ∧ Extends start h' ∧ (passed = [] → start = h) ∧
      IsOverlooked start front last

theorem PassedOver.of_length_le (h h' : Host) {names : List String}
    (all : names.length ≤ length) : PassedOver h h' names length := by
  rintro front last passed rfl long
  simp only [List.length_append, List.length_cons] at all
  omega

theorem PassedOver.concat (overlooked : IsOverlooked h front last) (first : Extends h h₁)
    (second : Extends h₁ h') (passes : PassedOver h₁ h' front length) :
    PassedOver h h' (front ++ [last]) length := by
  intro inner next passed split long
  rcases List.eq_nil_or_concat passed with rfl | ⟨between, final, rfl⟩
  · obtain ⟨rfl, same⟩ := List.append_inj' split rfl
    obtain rfl := (List.cons.inj same).1
    exact ⟨h, .refl h, first.trans second, fun _ => rfl, overlooked⟩
  · rw [List.concat_eq_append, ← List.cons_append, ← List.append_assoc] at split
    obtain ⟨shorter, -⟩ := List.append_inj' split rfl
    obtain ⟨start, later, before, _, passedOver⟩ := passes inner next between shorter long
    refine ⟨start, first.trans later, before, fun none => ?_, passedOver⟩
    simp at none

/-- How the search for the longest front of a name that is a module ends. -/
inductive SearchEnds (d : Descriptor) (h : Host) (names rest : List String) :
    Except Failure (ModuleId × List String) × Host → Prop where
  | found {front passed : List String} {id : ModuleId} {h' : Host} (filled : front ≠ [])
    (split : names = front ++ passed) (extended : Extends h h')
    (entered : h'.plugins.table.lookup (Descriptor.dotted front) = some id)
    (passes : PassedOver h h' names front.length) :
    SearchEnds d h names rest (.ok (id, passed ++ rest), h')
  | broken {front passed : List String} {last : String} {cause failure : Failure}
    {start h' : Host} (split : names = front ++ last :: passed) (extended : Extends h start)
    (longest : passed = [] → start = h)
    (new : start.plugins.table.lookup (Descriptor.dotted (front ++ [last])) = none)
    (failed : importModule (Descriptor.dotted (front ++ [last])) start = (.error cause, h'))
    (breaks : Breaks d.text (Descriptor.dotted (front ++ [last])) cause failure)
    (passes : PassedOver h start names (front.length + 1)) :
    SearchEnds d h names rest (.error failure, h')
  | nothing {h' : Host} (extended : Extends h h') (passes : PassedOver h h' names 0) :
    SearchEnds d h names rest (.error (.of (.typeNotFound d.text d.typeName .noModule)), h')

theorem SearchEnds.whole {id : ModuleId} (filled : names ≠ []) (extended : Extends h h')
    (entered : h'.plugins.table.lookup (Descriptor.dotted names) = some id) :
    SearchEnds d h names rest (.ok (id, rest), h') := by
  have split : names = names ++ [] := (List.append_nil names).symm
  exact .found filled split extended entered (.of_length_le h h' (Nat.le_refl _))

theorem SearchEnds.concat (overlooked : IsOverlooked h front last) (first : Extends h h₁)
    (ends : SearchEnds d h₁ front (last :: rest) outcome) :
    SearchEnds d h (front ++ [last]) rest outcome := by
  cases ends with
  | @found _ passed _ _ filled split extended entered passes =>
    rw [List.append_cons passed last rest]
    exact .found filled (by rw [split, List.append_assoc]) (first.trans extended) entered
      (passes.concat overlooked first extended)
  | @broken before passed next _ _ _ _ split extended _ new failed breaks passes =>
    have longer : front ++ [last] = before ++ next :: (passed ++ [last]) := by
      rw [split, List.append_assoc, List.cons_append]
    refine .broken longer (first.trans extended) (fun none => ?_) new failed breaks
      (passes.concat overlooked first extended)
    simp at none
  | nothing extended passes =>
    exact .nothing (first.trans extended) (passes.concat overlooked first extended)

theorem findModule_apply (d : Descriptor) (last : String) (fronts rest : List String) (h : Host) :
    findModule d (last :: fronts) rest h =
      match h.plugins.table.lookup (Descriptor.dotted (fronts.reverse ++ [last])) with
      | some id => (.ok (id, rest), h)
      | none =>
        match importIfPresent (Descriptor.dotted (fronts.reverse ++ [last])) d.text h with
        | (.ok (some id), h') => (.ok (id, rest), h')
        | (.ok none, h') => findModule d fronts (last :: rest) h'
        | (.error failure, h') => (.error failure, h') := by
  rw [findModule, registry_bind]
  cases h.plugins.table.lookup (Descriptor.dotted (fronts.reverse ++ [last])) with
  | some id => rfl
  | none =>
    simp only [Run.bind_apply]
    rcases importIfPresent (Descriptor.dotted (fronts.reverse ++ [last])) d.text h with
      ⟨failure | _ | id, h'⟩ <;> rfl

theorem findModule_ends (d : Descriptor) {fronts : List String} (undotted : Undotted fronts)
    (rest : List String) (h : Host) :
    SearchEnds d h fronts.reverse rest (findModule d fronts rest h) := by
  induction fronts generalizing rest h with
  | nil => exact .nothing (.refl h) (.of_length_le h h (Nat.le_refl _))
  | cons last fronts ih =>
    have ordered : Undotted (fronts.reverse ++ [last]) := by
      rw [← List.reverse_cons]
      exact undotted.of_subset (List.reverse_subset.mpr (List.Subset.refl _))
    have enters := importModule_enters (Descriptor.dotted (fronts.reverse ++ [last])) h
    rw [Descriptor.parts_dotted (by simp) ordered] at enters
    have outcome := importIfPresent_cases (Descriptor.dotted (fronts.reverse ++ [last])) d.text h
    rw [List.reverse_cons, findModule_apply]
    cases known : h.plugins.table.lookup (Descriptor.dotted (fronts.reverse ++ [last])) with
    | some id =>
      exact .whole (by simp) (.refl h) known
    | none =>
      dsimp only
      rcases ran : importIfPresent (Descriptor.dotted (fronts.reverse ++ [last])) d.text h with
        ⟨failure | _ | id, h'⟩ <;> rw [ran] at outcome <;> dsimp only at outcome ⊢
      · obtain ⟨cause, failed, breaks⟩ := outcome
        exact .broken rfl (.refl h) (fun _ => rfl) known failed breaks (.of_length_le h h (by simp))
      · obtain ⟨cause, failed, absence⟩ := outcome
        have overlooked := isOverlooked_of_absence ordered known (by rw [failed]) absence
        have extended := enters.extended
        rw [failed] at extended
        have shorter := ih (undotted.of_subset (List.subset_cons_self _ _)) (last :: rest) h'
        exact shorter.concat overlooked extended
      · obtain ⟨extended, entered⟩ := enters.ok outcome
        exact .whole (by simp) extended entered

theorem PassedOver.whole (passes : PassedOver h h' (front ++ [last]) length)
    (long : length ≤ front.length) : IsOverlooked h front last := by
  obtain ⟨start, _, _, before, overlooked⟩ := passes front last [] rfl long
  obtain rfl := before rfl
  exact overlooked

end SchemaNaming.Plugin
