import SchemaNaming.Proofs.Plugin.Attributes

/-!
Runs of items. They add classes and attributes, and import modules. Of their own faults none is a
missing module, so only an import can tell of one.
-/

namespace SchemaNaming.Plugin

theorem missesNone_referent (scope : Scope) (r : Registry) (body : Named Thing)
    (reference : String) : MissesNone (scope.referent r body reference) := by
  rw [Scope.referent]
  split
  · exact .error rfl
  · exact .foldlM (fun t name => r.missesNone_demand t name) _ _

theorem missesNone_placeFor (r : Registry) (name : String) (body : Named Thing) (v : Value) :
    MissesNone (placeFor r name body v) := by
  rw [placeFor]
  split
  · exact .error rfl
  · dsimp only
    split
    · exact .error rfl
    · split
      · exact .error rfl
      · exact .ok _

theorem missesNone_placesOf (r : Registry) (name : String) (body : Named Thing) :
    MissesNone (placesOf r name body) := by
  rw [placesOf]
  split
  · exact .ok none
  · split
    · exact .bind (missesNone_placeFor r name body _) fun place _ => .ok _
    · exact .bind (.mapM (missesNone_placeFor r name body) _) fun places _ => .ok _
    · exact .error rfl

theorem missesNone_baseOf (r : Registry) (parent : Option Thing) :
    MissesNone (baseOf r parent) := by
  cases parent with
  | none => exact .ok none
  | some t =>
    cases t with
    | cls id =>
      rw [baseOf]
      split
      · exact .error rfl
      · exact .ok _
    | _ => exact .error rfl

theorem isMissing_of_headFault? {r : Registry} (found : headFault? r slots body = some fault) :
    fault.isMissing = false := by
  simp only [headFault?] at found
  split at found
  · rw [← Option.some.inj found]
    rfl
  · obtain ⟨slot, _, rfl⟩ := Option.map_eq_some_iff.mp found
    rfl

theorem isMissing_of_heirFault? {r : Registry} (found : heirFault? r base = some fault) :
    fault.isMissing = false := by
  rw [heirFault?] at found
  split at found
  · rename_i t _ _
    rw [refusalOf?] at found
    split at found
    · rename_i refused
      obtain rfl := Option.some.inj found
      exact r.missesNone_call t [] _ refused
    · contradiction
  · contradiction

/-- A class that cannot be made is no missing module. -/
theorem missesNone_makeClass (scope : Scope) (r : Registry) (name : String) (d : Declaration)
    (parent : Option Thing) (body : Named Thing) :
    MissesNone (makeClass scope r name d parent body) := by
  refine .bind (missesNone_baseOf r parent) fun base _ => ?_
  refine .bind (missesNone_placesOf r name body) fun places _ => ?_
  dsimp only
  split
  · rename_i found
    rcases Option.or_eq_some_iff.mp found with head | ⟨_, heir⟩
    · exact .error (isMissing_of_headFault? head)
    · obtain ⟨_, _, heir⟩ := Option.bind_eq_some_iff.mp heir
      exact .error (isMissing_of_heirFault? heir)
  · exact .ok _

theorem missesNone_itemsOf (module file : String) (content : Content) :
    MissesNone (itemsOf module file content) := by
  simp only [itemsOf]
  split
  · exact .error rfl
  · split
    · exact .ok _
    · exact .error rfl
    · split
      · exact .ok _
      · exact .error rfl
    · exact .error rfl

variable {I : Host → Prop} {E : Failure → Host → Prop}

/-- An invariant that classes and attributes keep, with failures among which are all faults but missing
modules. -/
structure IsItemSafe (I : Host → Prop) (E : Failure → Host → Prop) : Prop where
  addClass : ∀ h c, I h → I { h with plugins := (h.plugins.addClass c).2 }
  setAttribute : ∀ h id name t, I h →
    I { h with plugins := h.plugins.setAttribute id name t }
  fault : ∀ h f, I h → f.isMissing = false → E (.of f) h

namespace IsItemSafe

theorem check (safe : IsItemSafe I E) {x : Except Fault α} (present : MissesNone x) :
    Safe I E (Run.check x : Run Host α) :=
  .check fun f refused h holds => safe.fault h f holds (present f refused)

theorem addClassRun (safe : IsItemSafe I E) (c : Class) : Safe I E (Plugin.addClass c) :=
  .of_ok fun h holds => ⟨_, _, rfl, safe.addClass h c holds⟩

theorem setAttributes (safe : IsItemSafe I E) (id : ModuleId) (bound : Named Thing) (h : Host)
    (holds : I h) :
    I { h with
      plugins := bound.foldl (fun r entry => r.setAttribute id entry.1 entry.2) h.plugins } := by
  induction bound generalizing h with
  | nil => exact holds
  | cons entry rest ih => exact ih _ (safe.setAttribute h id entry.1 entry.2 holds)

section
variable {load : String → Run Host ModuleId}

theorem importNamed (safe : IsItemSafe I E) (loads : ∀ name, Safe I E (load name))
    (name : String) : Safe I E (Plugin.importNamed load name) := by
  refine .bind (loads name) fun id => ?_
  split
  · exact .pure _
  · exact .pure _
  · refine .bind (loads _) fun first => .registry fun h holds => ?_
    exact safe.check (.foldlM h.plugins.missesNone_importedFrom _ _) h holds

theorem importLacking (safe : IsItemSafe I E) (loads : ∀ name, Safe I E (load name))
    (id : ModuleId) (name : String) : Safe I E (Plugin.importLacking load id name) := by
  refine .registry fun h holds => ?_
  refine Safe.bind (safe.check (h.plugins.missesNone_attributeOf _ _)) (fun path => ?_) h holds
  refine .bind (safe.check (h.plugins.missesNone_attributeOf _ _)) fun found => ?_
  dsimp only
  split
  · refine .attempt (loads _) (fun _ => .pure ()) fun failure h holds expected => ?_
    dsimp only
    split
    · split
      · exact .of_ok rfl holds
      · exact .of_error rfl holds expected
    · exact .of_error rfl holds expected
  · exact .pure ()

theorem takenFrom (safe : IsItemSafe I E) (loads : ∀ name, Safe I E (load name))
    (module name : String) : Safe I E (Plugin.takenFrom load module name) := by
  refine .bind (loads module) fun id => .bind (safe.importLacking loads id name) fun _ => ?_
  exact .registry fun h holds => safe.check (h.plugins.missesNone_importedFrom _ _) h holds

end

mutual

theorem runItem (safe : IsItemSafe I E) (scope : Scope)
    (loads : ∀ name, Safe I E (scope.load name))
    (body : Named Thing) (item : Item) : Safe I E (Plugin.runItem scope body item) := by
  cases item with
  | cls written d members =>
    rw [Plugin.runItem]
    refine .registry fun h holds => ?_
    have finish (parent : Option Thing) : Safe I E (do
        let members ← Plugin.runBody (scope.inside h.plugins (Text.normalForm written)).1
          (scope.inside h.plugins (Text.normalForm written)).2 members
        let r ← registry
        let c ← Run.check (makeClass scope r (Text.normalForm written) d parent members)
        let id ← Plugin.addClass c
        return [(scope.bound (Text.normalForm written), Thing.cls id)]) := by
      refine .bind (runBody safe (scope.inside _ _).1 loads _ members)
        fun body => .registry fun h holds => ?_
      exact Safe.bind (safe.check (missesNone_makeClass _ _ _ _ _ _))
        (fun c => .bind (safe.addClassRun c) fun _ => .pure _) h holds
    cases d.parent with
    | none => exact Safe.bind (.pure none) finish h holds
    | some reference =>
      exact Safe.bind (.map some (safe.check (missesNone_referent _ _ _ _))) finish h holds
  | const name thing => exact .pure _
  | func name => exact .pure _
  | «alias» name reference =>
    rw [Plugin.runItem]
    exact .registry fun h holds =>
      Safe.bind (safe.check (missesNone_referent _ _ _ _)) (fun _ => .pure _) h holds
  | load module =>
    rw [Plugin.runItem]
    exact .bind (safe.importNamed loads _) fun _ => .pure _
  | take module name =>
    rw [Plugin.runItem]
    exact .bind (safe.takenFrom loads _ _) fun _ => .pure _
  | raise raised =>
    rw [Plugin.runItem]
    exact .fault fun h holds => safe.fault h _ holds rfl

theorem runBody (safe : IsItemSafe I E) (scope : Scope)
    (loads : ∀ name, Safe I E (scope.load name))
    (body : Named Thing) (items : List Item) : Safe I E (Plugin.runBody scope body items) := by
  cases items with
  | nil =>
    rw [Plugin.runBody]
    exact .pure _
  | cons item rest =>
    rw [Plugin.runBody]
    exact .bind (runItem safe scope loads body item) fun _ => runBody safe scope loads _ rest

end

theorem runModule (safe : IsItemSafe I E) (scope : Scope)
    (loads : ∀ name, Safe I E (scope.load name)) (items : List Item) :
    Safe I E (Plugin.runModule scope items) := by
  induction items with
  | nil => exact .pure _
  | cons item rest ih =>
    refine .bind (safe.runItem scope loads [] item) fun bound => ?_
    exact .bind (.change (safe.setAttributes scope.module bound)) fun _ => ih

theorem execute (safe : IsItemSafe I E)
    (note : ∀ h event, I h →
      I { h with plugins := { h.plugins with history := h.plugins.history ++ [event] } })
    {load : String → Run Host ModuleId} (loads : ∀ name, Safe I E (load name)) (id : ModuleId)
    (assembly : Assembly) (file : String) : Safe I E (Plugin.execute load id assembly file) := by
  have noted (event : ExecutionEvent) : Safe I E (Plugin.note event) :=
    .change fun h => note h event
  refine .get fun h holds => ?_
  cases h.files.locate h.base file with
  | error reason => exact .of_error rfl holds (safe.fault h _ holds rfl)
  | ok place =>
    dsimp only
    have present := missesNone_itemsOf assembly.moduleName file (h.files.contentAt place)
    cases reads : itemsOf assembly.moduleName file (h.files.contentAt place) with
    | error fault => exact .of_error rfl holds (safe.fault h _ holds (present fault reads))
    | ok items =>
      refine Safe.bind (noted _) (fun _ => ?_) h holds
      exact .bind (safe.runModule _ loads items) fun _ => noted _

end IsItemSafe

end SchemaNaming.Plugin
