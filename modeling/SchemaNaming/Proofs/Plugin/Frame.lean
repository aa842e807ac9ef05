import SchemaNaming.Proofs.Plugin.Items

/-!
What runs can do to the registry of plugins. A relation between the registry before and after that
holds of single steps and composes holds of every import and every load, because these are made of
such steps: executions nest, and the induction is on their depth.
-/

namespace SchemaNaming.Plugin

variable {R : Registry → Registry → Prop}

/-- However a run ends, the registry it leaves is related to the one before. -/
def Leads (R : Registry → Registry → Prop) (x : Run Host α) : Prop :=
  ∀ h, R h.plugins (x h).2.plugins

/-- A relation that steps compose in. -/
structure Composes (R : Registry → Registry → Prop) : Prop where
  refl : ∀ r, R r r
  trans : R r s → R s t → R r t

theorem composes_eq : Composes (Eq (α := Registry)) := ⟨fun _ => rfl, Eq.trans⟩

namespace Leads

theorem of_plugins_eq (steps : Composes R) {x : Run Host α} (same : Leads Eq x) : Leads R x :=
  fun h => same h ▸ steps.refl h.plugins

theorem pure (steps : Composes R) (a : α) : Leads R (Pure.pure a : Run Host α) :=
  fun h => steps.refl h.plugins

/-- A run that goes on behind another one. -/
theorem andThen (steps : Composes R) {x : Run Host α} {f : α → Run Host β}
    (first : R r (x h).2.plugins) (second : ∀ a, Leads R (f a)) :
    R r ((x >>= f) h).2.plugins := by
  rw [Run.bind_apply]
  rcases ended : x h with ⟨failure | a, h'⟩ <;> rw [ended] at first
  · exact first
  · exact steps.trans first (second a h')

theorem bind (steps : Composes R) {x : Run Host α} {f : α → Run Host β} (first : Leads R x)
    (second : ∀ a, Leads R (f a)) : Leads R (x >>= f) :=
  fun h => andThen steps (first h) second

theorem map (steps : Composes R) {x : Run Host α} (f : α → β) (leads : Leads R x) :
    Leads R (f <$> x) := bind steps leads fun a => pure steps (f a)

/-- A run that looks at the host first. -/
theorem get {f : Host → Run Host α} (leads : ∀ h, R h.plugins (f h h).2.plugins) :
    Leads R (Run.get >>= f) := leads

/-- A run that looks at the registry first. -/
theorem registry {f : Registry → Run Host α} (leads : ∀ h, R h.plugins (f h.plugins h).2.plugins) :
    Leads R (Plugin.registry >>= f) := leads

/-- A run that begins with another one that leaves the host as it is. -/
theorem looking (steps : Composes R) {x : Run Host α} {f : α → Run Host β} (still : (x h).2 = h)
    (leads : ∀ a, R h.plugins (f a h).2.plugins) : R h.plugins ((x >>= f) h).2.plugins := by
  rw [Run.bind_apply]
  rcases ended : x h with ⟨failure | a, h'⟩ <;>
    obtain rfl : h' = h := by rw [← still, ended]
  · exact steps.refl _
  · exact leads a

theorem check_host (x : Except Fault α) (h : Host) : (Run.check x h).2 = h := by
  cases x <;> rfl

theorem fail (steps : Composes R) (failure : Failure) : Leads R (Run.fail failure : Run Host α) :=
  fun h => steps.refl h.plugins

theorem fault (steps : Composes R) (f : Fault) : Leads R (Run.fault f : Run Host α) :=
  fail steps (.of f)

theorem lift (steps : Composes R) (x : Except Failure α) : Leads R (Run.lift x : Run Host α) := by
  cases x with
  | error failure => exact fail steps failure
  | ok a => exact pure steps a

theorem check (steps : Composes R) (x : Except Fault α) : Leads R (Run.check x : Run Host α) :=
  lift steps _

theorem attempt {x : Run Host α} (leads : Leads R x) : Leads R (Run.attempt x) := leads

theorem wrapping {x : Run Host α} (f : Failure → Fault) (leads : Leads R x) :
    Leads R (Run.wrapping f x) := by
  intro h
  have outcome := leads h
  rw [Run.wrapping]
  rcases ended : x h with ⟨failure | a, h'⟩ <;> rwa [ended] at outcome

theorem change {f : Registry → Registry} (leads : ∀ r, R r (f r)) : Leads R (Plugin.change f) :=
  fun h => leads h.plugins

theorem emit (r : Log.Record) : Leads Eq (Host.emit r) := by
  intro h
  change h.plugins = (h.record r).plugins
  rw [Host.record]
  split <;> rfl

theorem emitAll (records : List Log.Record) : Leads Eq (Host.emitAll records) := by
  induction records with
  | nil => exact fun _ => rfl
  | cons r rest ih => exact bind composes_eq (emit r) fun _ => ih

theorem instanceClass (id : InstanceId) : Leads Eq (Plugin.instanceClass id) := fun _ => rfl

theorem create (occupants : Occupants) (overrides : Overrides) :
    Leads Eq (Pipeline.create occupants overrides) := by
  have steps := composes_eq
  refine .bind steps (instanceClass _) fun _ => .bind steps (instanceClass _) fun _ => ?_
  exact .bind steps (instanceClass _) fun _ => .bind steps (emit _) fun _ => .pure steps _

theorem accepted (test : Value → Bool) (what default : String) (v : Value) :
    Leads Eq (Config.accepted test what default v) := by
  have steps := composes_eq
  rw [Config.accepted]
  split
  · exact .pure steps v
  · split
    · exact .fault steps _
    · exact .bind steps (emit _) fun _ => .pure steps _

theorem readConfig (given : Option String) : Leads Eq (Config.read given) := by
  have steps := composes_eq
  have naming (entries : List (Value × Value)) : Leads Eq (Config.namingOf entries) := by
    refine .bind steps (.check steps _) fun _ => .bind steps (accepted _ _ _ _) fun _ => ?_
    refine .bind steps (.check steps _) fun _ => .bind steps (accepted _ _ _ _) fun _ => ?_
    exact .pure steps _
  refine .get fun h => Leads.bind steps (.check steps _) (fun reading => ?_) h
  refine .bind steps (emit _) fun _ => .bind steps (.check steps _) fun _ => ?_
  refine .bind steps (naming _) fun _ => .bind steps (.check steps _) fun _ => ?_
  exact .pure steps _

end Leads

/-- A relation that the steps of a source compose in. -/
structure IsItemFrame (R : Registry → Registry → Prop) : Prop extends Composes R where
  addClass : ∀ r c, R r (r.addClass c).2
  setAttribute : ∀ r id name t, R r (r.setAttribute id name t)

namespace IsItemFrame

/-- To be related to a fixed registry is an invariant. -/
def FollowsFrom (R : Registry → Registry → Prop) (r : Registry) (h : Host) : Prop := R r h.plugins

theorem safe (frame : IsItemFrame R) (r : Registry) :
    IsItemSafe (FollowsFrom R r) (fun _ => FollowsFrom R r) where
  addClass h c follows := frame.trans follows (frame.addClass h.plugins c)
  setAttribute h id name t follows := frame.trans follows (frame.setAttribute h.plugins id name t)
  fault _ _ follows _ := follows

theorem runModule (frame : IsItemFrame R) (scope : Scope)
    (loads : ∀ name, Leads R (scope.load name))
    (items : List Item) : Leads R (Plugin.runModule scope items) := by
  intro h
  have follows (name : String) :
      Safe (FollowsFrom R h.plugins) (fun _ => FollowsFrom R h.plugins) (scope.load name) :=
    fun start begun =>
      have done := frame.trans begun (loads name start)
      ⟨done, fun _ _ => done⟩
  exact ((frame.safe h.plugins).runModule scope follows items h (frame.refl h.plugins)).keeps

end IsItemFrame

/-- A relation that the steps of an import compose in. A module is only loaded under a name that is
not in the table. -/
structure IsImportFrame (R : Registry → Registry → Prop) : Prop extends IsItemFrame R where
  loadSpec : ∀ {load name parent spec h}, (∀ other, Leads R (load other)) →
    h.plugins.table.lookup name = none →
    R h.plugins (Plugin.loadSpec load name parent spec h).2.plugins

namespace IsImportFrame

/-- The search for submodules only looks at the host. -/
theorem placesBelow_host (id : ModuleId) (h : Host) : (placesBelow id h).2 = h := by
  rw [placesBelow, Run.bind_apply, Run.get_apply]
  exact Leads.check_host _ h

theorem importBelow (frame : IsImportFrame R) {load : String → Run Host ModuleId}
    (loads : ∀ name, Leads R (load name)) (parents : List String) (last : String)
    (parentId : ModuleId) : Leads R (Plugin.importBelow load parents last parentId) := by
  have steps := frame.toComposes
  refine .get fun h => ?_
  cases known : h.plugins.table.lookup (Descriptor.dotted (parents.reverse ++ [last])) with
  | some id => exact steps.refl _
  | none =>
    refine Leads.looking steps (placesBelow_host parentId h) fun places => ?_
    cases places with
    | none => exact steps.refl _
    | some directories =>
      dsimp only
      cases findSpec? h directories last with
      | some spec => exact frame.loadSpec loads known
      | none => exact steps.refl _

theorem importParts (frame : IsImportFrame R) {load : String → Run Host ModuleId}
    (loads : ∀ name, Leads R (load name)) (parts : List String) :
    Leads R (Plugin.importParts load parts) := by
  have steps := frame.toComposes
  induction parts with
  | nil => exact .fault steps _
  | cons last parents ih =>
    cases parents with
    | nil =>
      refine .get fun h => ?_
      cases known : h.plugins.table.lookup last with
      | some id => exact steps.refl _
      | none =>
        cases findSpec? h h.searchPath last with
        | some spec => exact frame.loadSpec loads known
        | none => exact steps.refl _
    | cons parent grand =>
      refine .registry fun h => ?_
      cases h.plugins.table.lookup (Descriptor.dotted ((parent :: grand).reverse ++ [last])) with
      | some id => exact steps.refl _
      | none => exact Leads.bind steps ih (frame.importBelow loads (parent :: grand) last) h

theorem importWithin (frame : IsImportFrame R) (depth : Nat) (name : String) :
    Leads R (Plugin.importWithin depth name) := by
  have steps := frame.toComposes
  induction depth generalizing name with
  | zero => exact .fault steps _
  | succ depth ih =>
    rw [Plugin.importWithin]
    split
    · exact .fault steps _
    · split
      · exact .fault steps _
      · exact frame.importParts ih _

theorem importModule (frame : IsImportFrame R) (name : String) :
    Leads R (Plugin.importModule name) := .get fun h => frame.importWithin (depthLimit h) name h

end IsImportFrame

/-- A relation that the steps of a load compose in. A file is only executed by path while its path
is not among the assemblies. -/
structure IsLoadFrame (R : Registry → Registry → Prop) : Prop extends Composes R where
  addInstance : ∀ r i, R r (r.addInstance i).2
  importModule : ∀ name, Leads R (Plugin.importModule name)
  executeAssembly : ∀ {path assembly descriptor file search h},
    h.plugins.assemblies.lookup path = none →
    R h.plugins (Plugin.executeAssembly path assembly descriptor file search h).2.plugins

namespace IsLoadFrame

theorem loadFromPath (frame : IsLoadFrame R) (assembly descriptor : String) :
    Leads R (Plugin.loadFromPath assembly descriptor) := by
  have steps := frame.toComposes
  refine .get fun h => ?_
  split
  · exact steps.refl _
  · dsimp only
    cases known : h.plugins.assemblies.lookup (realPathOf h assembly) with
    | some id => exact steps.refl _
    | none =>
      dsimp only
      cases locationOf h (realPathOf h assembly) with
      | error reason => exact steps.refl _
      | ok found =>
        dsimp only
        cases libraryFault? h found.1 with
        | some fault => exact steps.refl _
        | none => exact frame.executeAssembly known

theorem emitLoaded (frame : IsLoadFrame R) (assembly module : String) :
    Leads R (Plugin.emitLoaded assembly module) :=
  .of_plugins_eq frame.toComposes (.emit _)

theorem loadByName (frame : IsLoadFrame R) (assembly descriptor : String) :
    Leads R (Plugin.loadByName assembly descriptor) := by
  have steps := frame.toComposes
  refine .registry fun h => ?_
  cases h.plugins.table.lookup assembly with
  | some id => exact steps.refl _
  | none =>
    refine Leads.bind steps (.wrapping _ (frame.importModule assembly)) (fun id => ?_) h
    refine .registry fun h => Leads.bind steps (.check steps _) (fun shown => ?_) h
    exact .bind steps (frame.emitLoaded _ shown) fun _ => .pure steps _

theorem loadAssembly (frame : IsLoadFrame R) (assembly descriptor : String) :
    Leads R (Plugin.loadAssembly assembly descriptor) := by
  refine .get fun h => ?_
  split
  · exact frame.loadFromPath assembly _ h
  · exact frame.loadByName assembly _ h

theorem importIfPresent (frame : IsLoadFrame R) (module descriptor : String) :
    Leads R (Plugin.importIfPresent module descriptor) := by
  have steps := frame.toComposes
  refine .bind steps (.attempt (frame.importModule module)) fun outcome => ?_
  cases outcome with
  | ok id => exact .pure steps _
  | error failure =>
    dsimp only
    split
    · exact .fail steps _
    · split
      · exact .pure steps _
      · exact .fail steps _

theorem findModule (frame : IsLoadFrame R) (d : Descriptor) (front rest : List String) :
    Leads R (Plugin.findModule d front rest) := by
  have steps := frame.toComposes
  induction front generalizing rest with
  | nil => exact .fault steps _
  | cons last front ih =>
    refine .registry fun h => ?_
    cases h.plugins.table.lookup (Descriptor.dotted (front.reverse ++ [last])) with
    | some id => exact steps.refl _
    | none =>
      refine Leads.bind steps (frame.importIfPresent _ d.text) (fun found => ?_) h
      cases found with
      | some id => exact .pure steps _
      | none => exact ih (last :: rest)

theorem placeOf (frame : IsLoadFrame R) (d : Descriptor) : Leads R (Plugin.placeOf d) := by
  have steps := frame.toComposes
  rw [Plugin.placeOf]
  split
  · refine .bind steps (frame.loadAssembly _ d.text) fun id => .registry fun h => ?_
    exact Leads.bind steps (.check steps _) (fun _ => .pure steps _) h
  · rw [findLoadedModule]
    split
    · exact .fault steps _
    · exact frame.findModule d _ _

theorem typeOf (frame : IsLoadFrame R) (d : Descriptor) : Leads R (Plugin.typeOf d) := by
  have steps := frame.toComposes
  refine .bind steps (frame.placeOf d) fun place => .registry fun h => ?_
  refine Leads.bind steps (.check steps _) (fun found => ?_) h
  cases found with
  | none => exact .bind steps (.check steps _) fun _ => .fault steps _
  | some found => cases found <;> exact fun h => steps.refl h.plugins

theorem addInstanceRun (frame : IsLoadFrame R) (i : Instance) : Leads R (Plugin.addInstance i) :=
  fun h => frame.addInstance h.plugins i

theorem fill (frame : IsLoadFrame R) (separator : Value) (digitPrefix : String)
    (given : Slot → Option InstanceId) : Leads R (Pipeline.fill separator digitPrefix given) := by
  have steps := frame.toComposes
  refine .bind steps ?enum fun _ => .bind steps ?type fun _ => .bind steps ?property fun _ =>
    .pure steps _
  all_goals
    dsimp only
    split
    · exact .pure steps _
    · exact frame.addInstanceRun _

theorem construct (frame : IsLoadFrame R) (product : Product) :
    Leads R (Plugin.construct product) := by
  have steps := frame.toComposes
  cases product with
  | pipeline =>
    exact .bind steps (.bind steps (frame.fill _ _ _) fun _ => .of_plugins_eq steps (.create _ _))
      fun _ => .pure steps _
  | configuration =>
    exact .bind steps (.of_plugins_eq steps (.readConfig none)) fun _ => .pure steps _
  | plain | other kind | existing kind | generator g => exact .pure steps _

theorem newInstance (frame : IsLoadFrame R) (cls : ClassId) : Leads R (Plugin.newInstance cls) := by
  have steps := frame.toComposes
  refine .registry fun h => ?_
  cases (h.plugins.cls cls).construction with
  | error fault => exact steps.refl _
  | ok product =>
    dsimp only
    cases h.plugins.shared? product with
    | some id => exact steps.refl _
    | none => exact Leads.bind steps (frame.construct product) (fun _ => frame.addInstanceRun _) h

theorem instantiate (frame : IsLoadFrame R) (d : Descriptor) (cls : ClassId) :
    Leads R (Plugin.instantiate d cls) := .wrapping _ (frame.newInstance cls)

theorem descriptorOf (steps : Composes R) (v : Value) : Leads R (Plugin.descriptorOf v) :=
  .check steps _

theorem resolveType (frame : IsLoadFrame R) (descriptor : Value) :
    Leads R (Plugin.resolveType descriptor) :=
  .bind frame.toComposes (descriptorOf frame.toComposes descriptor) frame.typeOf

theorem createInstance (frame : IsLoadFrame R) (descriptor : Value) :
    Leads R (Plugin.createInstance descriptor) :=
  .bind frame.toComposes (descriptorOf frame.toComposes descriptor) fun d =>
    .bind frame.toComposes (frame.typeOf d) (frame.instantiate d)

theorem resolve (frame : IsLoadFrame R) (descriptor : Value) (slot : Slot) :
    Leads R (Plugin.resolve descriptor slot) := by
  have steps := frame.toComposes
  refine .bind steps (descriptorOf steps descriptor) fun d => ?_
  refine .bind steps (frame.typeOf d) fun cls => .bind steps (frame.instantiate d cls) fun id => ?_
  refine .registry fun h => Leads.bind steps (.check steps _) (fun implements => ?_) h
  split
  · exact .pure steps _
  · exact .fault steps _

end IsLoadFrame

end SchemaNaming.Plugin
