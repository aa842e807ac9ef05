import SchemaNaming.Proofs.Plugin.DottedName
import SchemaNaming.Proofs.Plugin.Frame

/-!
What an import does to the table of modules. Entries that are there keep the modules that they stand
for, and the module that is asked for has one in the end. An import that fails for a missing module
tells of one that has no entry, so a module that is found itself is never the one that is missing.
-/

namespace SchemaNaming.Plugin

/-- A later host of the same surroundings: what stood in the table of modules still does. -/
structure Extends (h h' : Host) : Prop where
  outside : h' = { h with plugins := h'.plugins }
  table {name : String} {id : ModuleId} : h.plugins.table.lookup name = some id →
    h'.plugins.table.lookup name = some id

namespace Extends

theorem refl (h : Host) : Extends h h := ⟨rfl, id⟩

theorem trans (first : Extends h₁ h₂) (second : Extends h₂ h₃) : Extends h₁ h₃ where
  outside := by
    rw [second.outside, first.outside]
  table := second.table ∘ first.table

theorem of_table_eq (extended : Extends h h') {r : Registry}
    (same : r.table = h'.plugins.table) : Extends h { h' with plugins := r } where
  outside := by
    rw [extended.outside]
  table found := by
    change r.table.lookup _ = _
    rw [same]
    exact extended.table found

theorem enter {r : Registry} {id : ModuleId} (new : h.plugins.table.lookup name = none)
    (entered : r.table = h.plugins.table.bind name id) :
    Extends h { h with plugins := r } where
  outside := rfl
  table {other} _ found := by
    have different : other ≠ name := by
      rintro rfl
      simp [new] at found
    change r.table.lookup other = _
    rwa [entered, Named.lookup_bind_ne different]

theorem leave (extended : Extends h h') (new : h.plugins.table.lookup name = none) :
    Extends h
      { h' with plugins := { h'.plugins with table := h'.plugins.table.unbind name } } where
  outside := by
    rw [extended.outside]
  table {other} _ found := by
    have different : other ≠ name := by
      rintro rfl
      simp [new] at found
    change (h'.plugins.table.unbind name).lookup other = _
    rw [Named.lookup_unbind_ne different]
    exact extended.table found

theorem lookup_eq_none (extended : Extends h h')
    (new : h'.plugins.table.lookup name = none) : h.plugins.table.lookup name = none := by
  cases found : h.plugins.table.lookup name with
  | none => rfl
  | some id =>
    rw [extended.table found] at new
    contradiction

end Extends

/-- What a failure tells of as missing has no entry in the table. -/
def MissesNew (h : Host) (failure : Failure) : Prop :=
  ∀ name parent, failure.fault = .moduleNotFound name parent →
    h.plugins.table.lookup name = none

theorem MissesNew.of_present (h : Host) {failure : Failure}
    (present : failure.fault.isMissing = false) : MissesNew h failure := by
  intro name parent same
  rw [same] at present
  contradiction

theorem MissesNew.before {failure : Failure} (extended : Extends h h')
    (misses : MissesNew h' failure) : MissesNew h failure :=
  fun name parent same => extended.lookup_eq_none (misses name parent same)

/-- A run that keeps the table and fails for missing modules only if these are new. -/
def KeepsTable (x : Run Host α) : Prop :=
  ∀ h, SafeAt (Extends h) (fun failure _ => MissesNew h failure) x h

theorem KeepsTable.safe {x : Run Host α} (keeps : KeepsTable x) (h : Host) :
    Safe (Extends h) (fun failure _ => MissesNew h failure) x := fun start extended =>
  have ran := keeps start
  ⟨extended.trans ran.keeps, fun failure failed => (ran.expected failure failed).before extended⟩

theorem itemSafe (h : Host) : IsItemSafe (Extends h) (fun failure _ => MissesNew h failure) where
  addClass _ _ extended := extended.of_table_eq rfl
  setAttribute _ _ _ _ extended := extended.of_table_eq rfl
  fault _ _ _ present := .of_present h present

/-- How an import of a module ends: with an entry for it, or with a failure that misses only what
is new. -/
structure Enters (name : String) (x : Run Host ModuleId) (h : Host) : Prop where
  extended : Extends h (x h).2
  entered : ∀ id, (x h).1 = .ok id → (x h).2.plugins.table.lookup name = some id
  missing : ∀ failure, (x h).1 = .error failure → MissesNew h failure

namespace Enters

theorem of_ok {x : Run Host ModuleId} {id : ModuleId} (ran : x h = (.ok id, h'))
    (extended : Extends h h') (entered : h'.plugins.table.lookup name = some id) : Enters name x h := by
  refine ⟨by rwa [ran], fun other done => ?_, fun failure failed => ?_⟩
  · rw [ran] at done ⊢
    obtain rfl := Except.ok.inj done
    exact entered
  · rw [ran] at failed
    contradiction

theorem of_error {x : Run Host ModuleId} {failure : Failure} (ran : x h = (.error failure, h'))
    (extended : Extends h h') (missing : MissesNew h failure) : Enters name x h := by
  refine ⟨by rwa [ran], fun id done => ?_, fun other failed => ?_⟩
  · rw [ran] at done
    contradiction
  · rw [ran] at failed
    obtain rfl := Except.error.inj failed
    exact missing

theorem ok {x : Run Host ModuleId} {id : ModuleId} (enters : Enters name x h)
    (ran : x h = (.ok id, h')) : Extends h h' ∧ h'.plugins.table.lookup name = some id := by
  obtain ⟨extended, entered, _⟩ := enters
  rw [ran] at extended entered
  exact ⟨extended, entered id rfl⟩

theorem safeAt {x : Run Host ModuleId} (enters : Enters name x h) :
    SafeAt (Extends h) (fun failure _ => MissesNew h failure) x h :=
  ⟨enters.extended, enters.missing⟩

theorem congr {x y : Run Host ModuleId} (same : x h = y h) (enters : Enters name y h) :
    Enters name x h :=
  ⟨same ▸ enters.extended, same ▸ enters.entered, same ▸ enters.missing⟩

/-- An import behind another run. -/
theorem bind {x : Run Host α} {f : α → Run Host ModuleId}
    (first : SafeAt (Extends h) (fun failure _ => MissesNew h failure) x h)
    (second : ∀ a h', x h = (.ok a, h') → Enters name (f a) h') : Enters name (x >>= f) h := by
  obtain ⟨keeps, expected⟩ := first
  rcases ran : x h with ⟨failure | a, h'⟩ <;> rw [ran] at keeps expected
  · exact .of_error (by rw [Run.bind_apply, ran]) keeps (expected failure rfl)
  · have same : (x >>= f) h = f a h' := by rw [Run.bind_apply, ran]
    have enters := second a h' ran
    refine ⟨same ▸ keeps.trans enters.extended, same ▸ enters.entered, fun other failed => ?_⟩
    exact (enters.missing other (same ▸ failed)).before keeps

/-- An import that looks at the host first. -/
theorem get {f : Host → Run Host ModuleId} (enters : Enters name (f h) h) :
    Enters name (Run.get >>= f) h :=
  ⟨enters.extended, enters.entered, enters.missing⟩

/-- An import that looks at the registry first. -/
theorem registry {f : Registry → Run Host ModuleId} (enters : Enters name (f h.plugins) h) :
    Enters name (Plugin.registry >>= f) h :=
  ⟨enters.extended, enters.entered, enters.missing⟩

end Enters

/-- The host in which the file of a module executes. -/
def loadingHost (name : String) (spec : Spec) (h : Host) : Host :=
  let (id, r) := h.plugins.addModule
    { name, file := spec.file?, search := spec.search?, isRunning := spec.file?.isSome }
  { h with plugins := { r with table := r.table.bind name id } }

theorem loadingHost_lookup (name : String) (spec : Spec) (h : Host) :
    (loadingHost name spec h).plugins.table.lookup name = some h.plugins.modules.size :=
  Named.lookup_bind_self _ _ _

theorem extends_loadingHost (new : h.plugins.table.lookup name = none) (spec : Spec) :
    Extends h (loadingHost name spec h) := .enter new rfl

/-- The file of a module that has been entered. -/
theorem executeEntered_cases {load : String → Run Host ModuleId}
    (loads : ∀ name, KeepsTable (load name)) (name : String) (id : ModuleId)
    (file : Option String) (h : Host) :
    match executeEntered load name id file h with
    | (.ok _, h') => Extends h h'
    | (.error failure, h') => MissesNew h failure ∧ ∃ last, Extends h last ∧
        h' = { last with
          plugins := { last.plugins with table := last.plugins.table.unbind name } } := by
  cases file with
  | none => exact .refl h
  | some file =>
    obtain ⟨keeps, expected⟩ := (itemSafe h).execute (fun _ _ kept => kept.of_table_eq rfl)
      (fun other => (loads other).safe h) id (.name name) file h (.refl h)
    rw [executeEntered, Run.bind_apply, Run.attempt]
    rcases ran : execute load id (.name name) file h with ⟨failure | _, last⟩ <;>
      rw [ran] at keeps expected
    · exact ⟨expected failure rfl, { last with plugins := last.plugins.conclude id },
        keeps.of_table_eq rfl, rfl⟩
    · exact keeps.of_table_eq rfl

theorem isMissing_of_libraryFault? (found : libraryFault? h file = some fault) :
    fault.isMissing = false := by
  rw [libraryFault?] at found
  split at found
  · rw [← Option.some.inj found]
    rfl
  · contradiction

theorem missesNone_loadable (h : Host) (parent : Option ModuleId) (spec : Spec) :
    MissesNone (loadable h parent spec) := by
  have unlibraried (fault : Fault) (found : spec.file?.bind (libraryFault? h) = some fault) :
      fault.isMissing = false := by
    obtain ⟨_, _, found⟩ := Option.bind_eq_some_iff.mp found
    exact isMissing_of_libraryFault? found
  simp only [loadable]
  split
  · refine .bind (h.plugins.missesNone_demand _ pendingName) fun _ _ => ?_
    split
    · exact .error (unlibraried _ (by assumption))
    · exact .ok ()
  · split
    · exact .error (unlibraried _ (by assumption))
    · exact .ok ()

/-- A module that is loaded once it has been found. -/
theorem loadSpec_apply (load : String → Run Host ModuleId) (name : String)
    (parent : Option (ModuleId × String)) (spec : Spec) (h : Host) :
    loadSpec load name parent spec h = match loadable h (parent.map (·.1)) spec with
      | .error fault => (.error (.of fault), h)
      | .ok _ => (do
          executeEntered load name h.plugins.modules.size spec.file?
          bindInParent h.plugins.modules.size parent
          return h.plugins.modules.size : Run Host ModuleId) (loadingHost name spec h) := by
  rw [loadSpec, Run.bind_apply, Run.get_apply]
  dsimp only
  cases loadable h (parent.map (·.1)) spec <;> rfl

/-- A failure to load a module misses nothing that stands in the table while it is loaded: not the
module itself. -/
theorem loadSpec_missing {load : String → Run Host ModuleId}
    (loads : ∀ name, KeepsTable (load name)) {failure : Failure}
    (failed : (loadSpec load name parent spec h).1 = .error failure) :
    MissesNew (loadingHost name spec h) failure := by
  have outcome := executeEntered_cases loads name h.plugins.modules.size spec.file?
    (loadingHost name spec h)
  rw [loadSpec_apply] at failed
  cases permitted : loadable h (parent.map (·.1)) spec with
  | error fault =>
    rw [permitted] at failed
    obtain rfl := Except.error.inj failed
    exact .of_present _ (missesNone_loadable _ _ _ fault permitted)
  | ok _ =>
    rw [permitted] at failed
    dsimp only at failed
    rw [Run.bind_apply] at failed
    rcases ran : executeEntered load name h.plugins.modules.size spec.file?
      (loadingHost name spec h) with ⟨other | _, last⟩ <;> rw [ran] at outcome failed
    · obtain rfl := Except.error.inj failed
      exact outcome.1
    · cases parent <;> contradiction

theorem bindInParent_ok (id : ModuleId) (parent : Option (ModuleId × String)) (h : Host) :
    ∃ r : Registry, bindInParent id parent h = (.ok (), { h with plugins := r }) ∧
      r.table = h.plugins.table := by
  cases parent with
  | none => exact ⟨h.plugins, rfl, rfl⟩
  | some place => exact ⟨h.plugins.setAttribute place.1 place.2 (.module id), rfl, rfl⟩

theorem loadSpec_enters {load : String → Run Host ModuleId}
    (loads : ∀ name, KeepsTable (load name)) (new : h.plugins.table.lookup name = none)
    (parent : Option (ModuleId × String)) (spec : Spec) :
    Enters name (loadSpec load name parent spec) h := by
  have run := loadSpec_apply load name parent spec h
  cases permitted : loadable h (parent.map (·.1)) spec with
  | error fault =>
    rw [permitted] at run
    exact .of_error run (.refl h) (.of_present h (missesNone_loadable _ _ _ fault permitted))
  | ok _ =>
    rw [permitted] at run
    have outcome := executeEntered_cases loads name h.plugins.modules.size spec.file?
      (loadingHost name spec h)
    have start := extends_loadingHost new spec
    rcases ran : executeEntered load name h.plugins.modules.size spec.file?
      (loadingHost name spec h) with ⟨failure | _, last⟩ <;> rw [ran] at outcome
    · obtain ⟨misses, middle, kept, rfl⟩ := outcome
      refine .of_error ?_ ((start.trans kept).leave new) (misses.before start)
      rw [run, Run.bind_apply, ran]
    · obtain ⟨r, bound, same⟩ := bindInParent_ok h.plugins.modules.size parent last
      have loaded : loadSpec load name parent spec h =
          (.ok h.plugins.modules.size, { last with plugins := r }) := by
        rw [run, Run.bind_apply, ran]
        dsimp only
        rw [Run.bind_apply, bound]
        rfl
      refine .of_ok loaded ((start.trans outcome).of_table_eq same) ?_
      change r.table.lookup name = _
      rw [same]
      exact outcome.table (loadingHost_lookup name spec h)

/-- A module that may be found below others, or on the search path. -/
theorem searched_enters {load : String → Run Host ModuleId}
    (loads : ∀ name, KeepsTable (load name)) (new : h.plugins.table.lookup name = none)
    (found : Option Spec) (parent : Option (ModuleId × String)) (missed : Option String) :
    Enters name (match found with
      | some spec => loadSpec load name parent spec
      | none => Run.fault (.moduleNotFound name missed)) h := by
  cases found with
  | some spec => exact loadSpec_enters loads new parent spec
  | none =>
    refine .of_error rfl (.refl h) fun other _ same => ?_
    obtain rfl := (Fault.moduleNotFound.inj same).1
    exact new

theorem missesNone_searchedBy (h : Host) (id : ModuleId) : MissesNone (searchedBy h id) := by
  rw [searchedBy]
  dsimp only
  split
  · exact .ok _
  · refine .bind (h.plugins.missesNone_attributeOf _ pathName) fun found _ => ?_
    split
    · exact .ok _
    · exact .ok _
    · split
      · exact .error rfl
      · exact .ok _

theorem isMissing_of_spaceFault? {above : List String} (found : spaceFault? h above = some fault) :
    fault.isMissing = false := by
  induction above with
  | nil => contradiction
  | cons last above ih =>
    simp only [spaceFault?] at found
    split at found
    · rw [← Option.some.inj found]
      rfl
    · split at found
      · rename_i refused
        obtain rfl := Option.some.inj found
        exact missesNone_searchedBy h _ _ refused
      · rw [← Option.some.inj found]
        rfl
      · split at found
        · exact ih found
        · contradiction

theorem missesNone_placesFor (h : Host) (id : ModuleId) : MissesNone (placesFor h id) := by
  simp only [placesFor]
  split
  · rename_i found
    split at found
    · exact .error (isMissing_of_spaceFault? found)
    · contradiction
  · exact missesNone_searchedBy h id

theorem safe_placesBelow (id : ModuleId) (h : Host) :
    Safe (Extends h) (fun failure _ => MissesNew h failure) (placesBelow id) :=
  .get fun start extended =>
    (itemSafe h).check (missesNone_placesFor start id) start extended

theorem importParts_cons (load : String → Run Host ModuleId) {parents : List String}
    (filled : parents ≠ []) (last : String) :
    importParts load (last :: parents) = (do
      match (← registry).table.lookup (Descriptor.dotted (parents.reverse ++ [last])) with
      | some id => return id
      | none =>
        let parentId ← importParts load parents
        importBelow load parents last parentId) := by
  cases parents with
  | nil => contradiction
  | cons parent grand => rfl

theorem importParts_of_known {load : String → Run Host ModuleId} {parts : List String}
    {id : ModuleId} (filled : parts ≠ [])
    (known : h.plugins.table.lookup (Descriptor.dotted parts.reverse) = some id) :
    importParts load parts h = (.ok id, h) := by
  cases parts with
  | nil => contradiction
  | cons last parents =>
    by_cases only : parents = []
    · subst only
      have known : h.plugins.table.lookup last = some id := known
      simp only [importParts, Run.bind_apply, Run.get_apply, known, Run.pure_apply]
    · rw [List.reverse_cons] at known
      rw [importParts_cons load only, registry]
      simp only [Run.bind_apply, Run.get_apply, Run.pure_apply, known]

theorem importParts_of_new (load : String → Run Host ModuleId) {parents : List String}
    (filled : parents ≠ [])
    (new : h.plugins.table.lookup (Descriptor.dotted (parents.reverse ++ [last])) = none) :
    importParts load (last :: parents) h =
      (importParts load parents >>= importBelow load parents last) h := by
  rw [importParts_cons load filled, registry]
  simp only [Run.bind_apply, Run.get_apply, Run.pure_apply, new]

theorem importBelow_enters {load : String → Run Host ModuleId}
    (loads : ∀ name, KeepsTable (load name)) (parents : List String) (last : String)
    (parentId : ModuleId) (h : Host) :
    Enters (Descriptor.dotted (parents.reverse ++ [last]))
      (importBelow load parents last parentId) h := by
  refine .get ?_
  cases known : h.plugins.table.lookup (Descriptor.dotted (parents.reverse ++ [last])) with
  | some id => exact .of_ok rfl (.refl h) known
  | none =>
    refine Enters.bind (safe_placesBelow _ h h (.refl h)) fun places h' ran => ?_
    obtain rfl : h' = h := by
      have same := IsImportFrame.placesBelow_host parentId h
      rwa [ran] at same
    cases places with
    | some directories =>
      exact searched_enters loads known (findSpec? h' directories last) (some (parentId, last)) none
    | none => exact searched_enters loads known none none _

theorem importParts_enters {load : String → Run Host ModuleId}
    (loads : ∀ name, KeepsTable (load name)) {parts : List String} (filled : parts ≠ []) (h : Host) :
    Enters (Descriptor.dotted parts.reverse) (importParts load parts) h := by
  induction parts generalizing h with
  | nil => contradiction
  | cons last parents ih =>
    cases known : h.plugins.table.lookup (Descriptor.dotted (last :: parents).reverse) with
    | some id => exact .of_ok (importParts_of_known filled known) (.refl h) known
    | none =>
      by_cases only : parents = []
      · subst only
        refine .get ?_
        rw [show h.plugins.table.lookup last = none from known]
        exact searched_enters loads known (findSpec? h h.searchPath last) none none
      · rw [List.reverse_cons] at known ⊢
        refine .congr (importParts_of_new load only known) (.bind (ih only h).safeAt ?_)
        exact fun parentId h' _ => importBelow_enters loads parents last parentId h'

theorem importWithin_enters (depth : Nat) (name : String) (h : Host) :
    Enters (Descriptor.dotted (Descriptor.parts name)) (importWithin depth name) h := by
  -- On the depth of nested executions: what a source loads in turn keeps the table as well.
  induction depth generalizing name h with
  | zero => exact .of_error rfl (.refl h) (.of_present h rfl)
  | succ depth ih =>
    rw [importWithin]
    split
    · exact .of_error rfl (.refl h) (.of_present h rfl)
    · split
      · exact .of_error rfl (.refl h) (.of_present h rfl)
      · have filled : (Descriptor.parts name).reverse ≠ [] := by
          simp [Descriptor.parts_ne_nil]
        have enters := importParts_enters (fun other h => (ih other h).safeAt) filled h
        rwa [List.reverse_reverse] at enters

theorem keepsTable_importWithin (depth : Nat) (name : String) :
    KeepsTable (importWithin depth name) := fun h => (importWithin_enters depth name h).safeAt

/-- An import keeps every entry of the table, adds one for its module, and fails for a missing module
only if it has none. -/
theorem importModule_enters (name : String) (h : Host) :
    Enters (Descriptor.dotted (Descriptor.parts name)) (importModule name) h :=
  .get (importWithin_enters (depthLimit h) name h)

/-- A module and those that it lies in are loaded only along with all that they lie in. -/
def Rooted (h : Host) (name : String) : Prop :=
  ∀ inner outer, inner = name ∨ Descriptor.IsFront inner name → Descriptor.IsFront outer inner →
    (h.plugins.table.lookup inner).isSome → (h.plugins.table.lookup outer).isSome

theorem Rooted.parent {parents : List String} {last : String} (undotted : '.' ∉ last.toList)
    (filled : parents ≠ []) (rooted : Rooted h (Descriptor.dotted (parents ++ [last]))) :
    Rooted h (Descriptor.dotted parents) := by
  intro inner outer inside
  refine rooted inner outer (.inr ?_)
  rwa [Descriptor.dotted_concat filled, Descriptor.isFront_concat undotted]

theorem Extends.isSome_lookup (extended : Extends h h')
    (present : (h.plugins.table.lookup name).isSome) : (h'.plugins.table.lookup name).isSome := by
  obtain ⟨id, found⟩ := Option.isSome_iff_exists.mp present
  rw [extended.table found]
  rfl

/-- Behind an import a module is loaded along with all that it lies in, if that was so before. -/
theorem importParts_ancestors {load : String → Run Host ModuleId}
    (loads : ∀ name, KeepsTable (load name)) {parts : List String} {id : ModuleId}
    (undotted : Descriptor.Undotted parts)
    (rooted : Rooted h (Descriptor.dotted parts.reverse))
    (ran : importParts load parts h = (.ok id, h'))
    (front : Descriptor.IsFront outer (Descriptor.dotted parts.reverse)) :
    (h'.plugins.table.lookup outer).isSome := by
  induction parts generalizing id h' outer with
  | nil => simp [importParts] at ran
  | cons last parents ih =>
    have uncut : '.' ∉ last.toList := undotted last List.mem_cons_self
    by_cases only : parents = []
    · subst only
      exact absurd front (Descriptor.not_isFront_of_undotted uncut outer)
    · have filled : parents.reverse ≠ [] := by simp [only]
      cases known : h.plugins.table.lookup (Descriptor.dotted (last :: parents).reverse) with
      | some found =>
        rw [importParts_of_known (by simp) known] at ran
        obtain rfl := (Prod.mk.inj ran).2
        exact rooted _ outer (.inl rfl) front (by rw [known]; rfl)
      | none =>
        rw [List.reverse_cons] at rooted front known
        rw [importParts_of_new load only known] at ran
        obtain ⟨parentId, middle, imported, below⟩ := Run.bind_eq_ok.mp ran
        have entered := ((importParts_enters loads only h).ok imported).2
        have kept := ((importBelow_enters loads parents last parentId middle).ok below).1
        rw [Descriptor.dotted_concat filled, Descriptor.isFront_concat uncut] at front
        refine kept.isSome_lookup ?_
        rcases front with rfl | front
        · rw [entered]
          rfl
        · exact ih (undotted.of_subset (List.subset_cons_self _ _)) (rooted.parent uncut filled)
            imported front

end SchemaNaming.Plugin
