import SchemaNaming.Proofs.Plugin.Imports

/-!
Surroundings of the registry. Resolution reads files, directories and variables and changes none of
them: beside the registry it only adds to the records of the log. That is so as long as the log
writes to no file, which could be one that is read.
-/

namespace SchemaNaming

/-- What is logged is not written to files. -/
def Host.IsQuiet (h : Host) : Prop := ∀ r, (h.record r).files = h.files

theorem Host.record_files (h : Host) (r : Log.Record) :
    (h.record r).files =
      if h.log.enabled r then h.log.handlers.foldl (h.writeLine r) h.files else h.files := by
  rw [record]
  split <;> rfl

namespace Plugin

/-- Hosts that differ in the registry and in what has been logged at most. -/
structure SameSurroundings (h h' : Host) : Prop where
  eq : h' = { h with plugins := h'.plugins, log := { h.log with records := h'.log.records } }

namespace SameSurroundings

variable {h h' h₁ h₂ h₃ : Host}

theorem refl (h : Host) : SameSurroundings h h := ⟨rfl⟩

theorem trans (first : SameSurroundings h₁ h₂) (second : SameSurroundings h₂ h₃) :
    SameSurroundings h₁ h₃ := by
  constructor
  rw [second.eq, first.eq]

theorem symm (same : SameSurroundings h h') : SameSurroundings h' h := by
  constructor
  rw [same.eq]

theorem of_extends (extended : Extends h h') : SameSurroundings h h' := by
  constructor
  rw [extended.outside]

theorem change (same : SameSurroundings h h') (r : Registry) :
    SameSurroundings h { h' with plugins := r } := by
  constructor
  rw [same.eq]

theorem isQuiet (same : SameSurroundings h h') (quiet : h.IsQuiet) : h'.IsQuiet := by
  intro r
  have still := quiet r
  rw [same.eq]
  rw [Host.record_files] at still ⊢
  exact still

end SameSurroundings

/-- Hosts that differ in instances and in what has been logged at most. -/
structure Follows (h h' : Host) : Prop where
  eq : h' =
    { h with
      plugins := { h.plugins with instances := h'.plugins.instances }
      log := { h.log with records := h'.log.records } }

namespace Follows

variable {h h₁ h₂ h₃ : Host}

theorem refl (h : Host) : Follows h h := ⟨rfl⟩

theorem trans (first : Follows h₁ h₂) (second : Follows h₂ h₃) : Follows h₁ h₃ := by
  constructor
  rw [second.eq, first.eq]

theorem surroundings (follows : Follows h₁ h₂) : SameSurroundings h₁ h₂ := by
  constructor
  rw [follows.eq]

theorem addInstance (follows : Follows h₁ h₂) (i : Instance) :
    Follows h₁ { h₂ with plugins := (h₂.plugins.addInstance i).2 } := by
  constructor
  rw [follows.eq]
  rfl

theorem record (quiet : h.IsQuiet) (r : Log.Record) : Follows h (h.record r) := by
  have still := quiet r
  rw [Host.record] at still ⊢
  split at still
  · rename_i enabled
    rw [if_pos enabled]
    constructor
    dsimp only at still ⊢
    rw [still]
  · rename_i disabled
    rw [if_neg disabled]
    exact refl h

end Follows

variable {h₀ : Host}

/-- A run that leaves the surroundings as they are, however it ends. -/
abbrev Stays (h₀ : Host) (x : Run Host α) : Prop :=
  Safe (SameSurroundings h₀) (fun _ _ => True) x

theorem stays_emit (quiet : h₀.IsQuiet) (r : Log.Record) : Stays h₀ (Host.emit r) :=
  .of_ok fun _ same => ⟨(), _, rfl, same.trans (Follows.record (same.isQuiet quiet) r).surroundings⟩

theorem stays_change (f : Registry → Registry) : Stays h₀ (Plugin.change f) :=
  .change fun _ same => same.change _

theorem stays_of_extends {x : Run Host α} (extended : ∀ h, Extends h (x h).2) : Stays h₀ x :=
  fun h same => ⟨same.trans (.of_extends (extended h)), fun _ _ => trivial⟩

theorem stays_importWithin (depth : Nat) (name : String) : Stays h₀ (importWithin depth name) :=
  stays_of_extends fun h => (importWithin_enters depth name h).extended

theorem stays_importModule (name : String) : Stays h₀ (importModule name) :=
  stays_of_extends fun h => (importModule_enters name h).extended

theorem surroundings_itemSafe : IsItemSafe (SameSurroundings h₀) (fun _ _ => True) where
  addClass _ _ same := same.change _
  setAttribute _ _ _ _ same := same.change _
  fault _ _ _ _ := trivial

theorem stays_concludeAssembly (quiet : h₀.IsQuiet) (path assembly descriptor : String)
    (id : ModuleId) (outcome : Except Failure Unit) :
    Stays h₀ (concludeAssembly path assembly descriptor id outcome) := by
  cases outcome with
  | ok _ =>
    exact .bind (stays_change _) fun _ => .bind (stays_emit quiet _) fun _ => .pure id
  | error failure =>
    rw [concludeAssembly]
    split
    · exact .fail fun _ _ => trivial
    · exact .bind (stays_change _) fun _ => .fail fun _ _ => trivial

theorem stays_executeAssembly (quiet : h₀.IsQuiet) (path assembly descriptor file : String)
    (search : Option (List String)) :
    Stays h₀ (executeAssembly path assembly descriptor file search) := by
  refine .bind (.of_ok fun h same => ⟨_, _, rfl, same.change _⟩) fun id => ?_
  refine .bind (stays_change _) fun _ => .get fun h same => ?_
  have executes : Stays h₀ (execute (importWithin (depthLimit h)) id (.path path) file) :=
    surroundings_itemSafe.execute (fun _ _ kept => kept.change _) (stays_importWithin _) id _ file
  refine Safe.attempt executes (stays_concludeAssembly quiet path assembly descriptor id <| .ok ·)
    (fun failure h kept _ => ?_) h same
  exact stays_concludeAssembly quiet path assembly descriptor id (.error failure) h kept

theorem stays_loadAssembly (quiet : h₀.IsQuiet) (assembly descriptor : String) :
    Stays h₀ (loadAssembly assembly descriptor) := by
  refine .get fun h same => ?_
  split
  · refine Safe.get (fun h same => ?_) h same
    split
    · exact .of_error rfl same trivial
    · dsimp only
      cases h.plugins.assemblies.lookup (realPathOf h assembly) with
      | some id => exact .of_ok rfl same
      | none =>
        dsimp only
        cases locationOf h (realPathOf h assembly) with
        | error reason => exact .of_error rfl same trivial
        | ok found =>
          dsimp only
          cases libraryFault? h found.1 with
          | some fault => exact .of_error rfl same trivial
          | none => exact stays_executeAssembly quiet _ _ _ _ _ h same
  · refine Safe.registry (fun h same => ?_) h same
    cases h.plugins.table.lookup assembly with
    | some id => exact .of_ok rfl same
    | none =>
      refine Safe.bind (.wrapping (stays_importModule assembly) (fun _ _ _ _ => trivial)
        fun _ _ _ _ => trivial) (fun id => .registry fun h same => ?_) h same
      refine Safe.bind (.check fun _ _ _ _ => trivial) (fun shown => ?_) h same
      exact .bind (stays_emit quiet _) fun _ => .pure id

theorem stays_findModule (d : Descriptor) (fronts rest : List String) :
    Stays h₀ (findModule d fronts rest) := by
  induction fronts generalizing rest with
  | nil => exact .fault fun _ _ => trivial
  | cons last front ih =>
    have imported (name : String) : Stays h₀ (importIfPresent name d.text) := by
      have found (id : ModuleId) : Stays h₀ (pure (some id)) := .pure _
      refine .attempt (stays_importModule name) found fun failure h same _ => ?_
      dsimp only
      split
      · exact .of_error rfl same trivial
      · split
        · exact .of_ok rfl same
        · exact .of_error rfl same trivial
    refine .registry fun h same => ?_
    cases h.plugins.table.lookup (Descriptor.dotted (front.reverse ++ [last])) with
    | some id => exact .of_ok rfl same
    | none =>
      refine Safe.bind (imported _) (fun found => ?_) h same
      cases found with
      | some id => exact .pure (id, rest)
      | none => exact ih (last :: rest)

theorem stays_typeOf (quiet : h₀.IsQuiet) (d : Descriptor) : Stays h₀ (typeOf d) := by
  have place : Stays h₀ (placeOf d) := by
    rw [placeOf]
    split
    · refine .bind (stays_loadAssembly quiet _ d.text) fun id => .registry fun h same => ?_
      exact Safe.bind (.check fun _ _ _ _ => trivial) (fun path => .pure (id, path)) h same
    · rw [findLoadedModule]
      split
      · exact .fault fun _ _ => trivial
      · exact stays_findModule d _ _
  have check {α : Type} (x : Except Fault α) : Stays h₀ (Run.check x) :=
    .check fun _ _ _ _ => trivial
  refine .bind place fun found => .registry fun h same => ?_
  refine Safe.bind (check _) (fun t => ?_) h same
  cases t with
  | none => exact .bind (check _) fun _ => .fault fun _ _ => trivial
  | some t =>
    cases t with
    | cls cls => exact .pure cls
    | _ => exact .fault fun _ _ => trivial

/-- A run that adds instances and log records at most. -/
abbrev Makes (h₀ : Host) (x : Run Host α) : Prop := Safe (Follows h₀) (fun _ _ => True) x

theorem makes_emit (quiet : h₀.IsQuiet) (r : Log.Record) : Makes h₀ (Host.emit r) :=
  .of_ok fun _ follows =>
    ⟨(), _, rfl, follows.trans (.record (follows.surroundings.isQuiet quiet) r)⟩

theorem makes_addInstance (i : Instance) : Makes h₀ (addInstance i) :=
  .of_ok fun _ follows => ⟨_, _, rfl, follows.addInstance i⟩

theorem makes_check (x : Except Fault α) : Makes h₀ (Run.check x) := .check fun _ _ _ _ => trivial

theorem makes_standard (quiet : h₀.IsQuiet) : Makes h₀ Pipeline.standard := by
  have class? (id : InstanceId) : Makes h₀ (instanceClass id) :=
    .registry fun _ follows => .of_ok rfl follows
  refine .bind ?_ fun occupants => ?_
  · exact .bind (makes_addInstance _) fun _ => .bind (makes_addInstance _) fun _ =>
      .bind (makes_addInstance _) fun _ => .pure _
  · refine .bind (class? _) fun _ => .bind (class? _) fun _ => .bind (class? _) fun _ => ?_
    exact .bind (makes_emit quiet _) fun _ => .pure _

theorem makes_readConfig (quiet : h₀.IsQuiet) (given : Option String) :
    Makes h₀ (Config.read given) := by
  have accepted (test : Value → Bool) (what fallback : String) (v : Value) :
      Makes h₀ (Config.accepted test what fallback v) := by
    rw [Config.accepted]
    split
    · exact .pure v
    · split
      · exact .fault fun _ _ => trivial
      · exact .bind (makes_emit quiet _) fun _ => .pure _
  have naming (entries : List (Value × Value)) : Makes h₀ (Config.namingOf entries) :=
    .bind (makes_check _) fun _ => .bind (accepted _ _ _ _) fun _ =>
      .bind (makes_check _) fun _ => .bind (accepted _ _ _ _) fun _ => .pure _
  refine .get fun h follows => Safe.bind (makes_check _) (fun reading => ?_) h follows
  refine .bind (makes_emit quiet _) fun _ => .bind (makes_check _) fun _ => ?_
  exact .bind (naming _) fun _ => .bind (makes_check _) fun _ => .pure _

theorem makes_construct (quiet : h₀.IsQuiet) (product : Product) :
    Makes h₀ (construct product) := by
  cases product with
  | pipeline => exact .bind (makes_standard quiet) fun _ => .pure ()
  | configuration => exact .bind (makes_readConfig quiet none) fun _ => .pure ()
  | plain | other kind | existing kind | generator g => exact .pure ()

theorem makes_instantiate (quiet : h₀.IsQuiet) (d : Descriptor) (cls : ClassId) :
    Makes h₀ (instantiate d cls) := by
  have made : Makes h₀ (newInstance cls) := by
    refine .registry fun h follows => ?_
    cases (h.plugins.cls cls).construction with
    | error fault => exact .of_error rfl follows trivial
    | ok product =>
      dsimp only
      cases h.plugins.shared? product with
      | some id => exact .of_ok rfl follows
      | none =>
        exact Safe.bind (makes_construct quiet product) (fun _ => makes_addInstance _) h follows
  exact .wrapping made (fun _ _ _ _ => trivial) fun _ _ _ _ => trivial

theorem stays_instantiate (quiet : h₀.IsQuiet) (d : Descriptor) (cls : ClassId) :
    Stays h₀ (instantiate d cls) := fun h same =>
  have made := makes_instantiate (same.isQuiet quiet) d cls h (.refl h)
  ⟨same.trans made.keeps.surroundings, fun _ _ => trivial⟩

theorem stays_resolve (quiet : h₀.IsQuiet) (descriptor : Value) (slot : Slot) :
    Stays h₀ (resolve descriptor slot) := by
  refine .bind (.check fun _ _ _ _ => trivial) fun d => .bind (stays_typeOf quiet d) fun cls => ?_
  refine .bind (stays_instantiate quiet d cls) fun id => .registry fun h same => ?_
  refine Safe.bind (.check fun _ _ _ _ => trivial) (fun implements => ?_) h same
  split
  · exact .pure id
  · exact .fault fun _ _ => trivial

/-- A run whose result does not depend on the host. -/
def IsBlind (x : Run Host α) : Prop := ∀ h h', (x h).1 = (x h').1

namespace IsBlind

theorem pure (a : α) : IsBlind (Pure.pure a : Run Host α) := fun _ _ => rfl

theorem check (x : Except Fault α) : IsBlind (Run.check x : Run Host α) := by
  cases x <;> exact fun _ _ => rfl

theorem emit (r : Log.Record) : IsBlind (Host.emit r) := fun _ _ => rfl

theorem bind {x : Run Host α} {f : α → Run Host β} (first : IsBlind x)
    (second : ∀ a, IsBlind (f a)) : IsBlind (x >>= f) := by
  intro h h'
  have same := first h h'
  rw [Run.bind_apply, Run.bind_apply]
  rcases ran : x h with ⟨failure | a, middle⟩ <;>
    rcases ran' : x h' with ⟨failure' | a', middle'⟩ <;> rw [ran, ran'] at same <;> cases same
  · rfl
  · exact second a middle middle'

end IsBlind

/-- What is read as a configuration, for the surroundings of one host. -/
def readConfigIn (h : Host) (given : Option String) : Run Host Config := do
  let path := Config.pathFor h given
  let reading ← Run.check (Config.readFile h path)
  Host.emit (Config.readingRecord path reading)
  let overrides ← Run.check (Config.overridesOf h reading.entries)
  let naming ← Config.namingOf reading.entries
  let logging ← Run.check (Config.loggingOf h reading.entries)
  return { path, overrides, naming, logging }

theorem isBlind_readConfigIn (h : Host) (given : Option String) :
    IsBlind (readConfigIn h given) := by
  have accepted (test : Value → Bool) (what fallback : String) (v : Value) :
      IsBlind (Config.accepted test what fallback v) := by
    rw [Config.accepted]
    split
    · exact .pure v
    · split
      · exact fun _ _ => rfl
      · exact .bind (.emit _) fun _ => .pure _
  have naming (entries : List (Value × Value)) : IsBlind (Config.namingOf entries) :=
    .bind (.check _) fun _ => .bind (accepted _ _ _ _) fun _ =>
      .bind (.check _) fun _ => .bind (accepted _ _ _ _) fun _ => .pure _
  refine .bind (.check _) fun _ => .bind (.emit _) fun _ => .bind (.check _) fun _ => ?_
  exact .bind (naming _) fun _ => .bind (.check _) fun _ => .pure _

/-- A configuration is read alike wherever the surroundings are the same. -/
theorem readConfig_result {h h' : Host} (same : SameSurroundings h h') (given : Option String) :
    (Config.read given h').1 = (Config.read given h).1 := by
  change (readConfigIn h' given h').1 = (readConfigIn h given h).1
  have alike : readConfigIn h' given = readConfigIn h given := by
    rw [same.eq]
    rfl
  rw [alike]
  exact isBlind_readConfigIn h given h' h

/-- What can be constructed once can be constructed again. -/
theorem construct_result {h h' : Host} (same : SameSurroundings h h') (product : Product) :
    (construct product h').1 = (construct product h).1 := by
  cases product with
  | pipeline => rfl
  | configuration =>
    have read := readConfig_result same none
    rw [construct, Run.bind_apply, Run.bind_apply]
    rcases ran : Config.read none h with ⟨failure | c, middle⟩ <;>
      rcases ran' : Config.read none h' with ⟨failure' | c', middle'⟩ <;>
      rw [ran, ran'] at read <;> cases read <;> rfl
  | plain | other kind | existing kind | generator g => rfl

end Plugin

end SchemaNaming
