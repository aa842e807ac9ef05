import SchemaNaming.Proofs.Plugin.Frame

/-!
The single changes that imports and loads are made of. A relation that each of them keeps holds of
whole imports and loads. Loads by path bind an assembly in the cache only if it is not there:
imports, which they nest, leave the cache alone.
-/

namespace SchemaNaming.Plugin

variable {R : Registry → Registry → Prop}

/-- A relation that every single change of an import composes in. -/
structure IsChangeFrame (R : Registry → Registry → Prop) : Prop extends IsItemFrame R where
  addModule : ∀ r m, R r (r.addModule m).2
  enter : ∀ r name id, R r { r with table := r.table.bind name id }
  leave : ∀ r name, R r { r with table := r.table.unbind name }
  note : ∀ r event, R r { r with history := r.history ++ [event] }
  conclude : ∀ r id, R r (r.conclude id)

namespace IsChangeFrame

theorem execute (frame : IsChangeFrame R) {load : String → Run Host ModuleId}
    (loads : ∀ name, Leads R (load name)) (id : ModuleId) (assembly : Assembly) (file : String) :
    Leads R (Plugin.execute load id assembly file) := by
  have steps := frame.toComposes
  have noted (event : ExecutionEvent) : Leads R (Plugin.note event) :=
    .change fun r => frame.note r event
  refine .get fun h => ?_
  cases h.files.locate h.base file with
  | error reason => exact steps.refl _
  | ok place =>
    dsimp only
    cases itemsOf assembly.moduleName file (h.files.contentAt place) with
    | error fault => exact steps.refl _
    | ok items =>
      refine Leads.bind steps (noted _) (fun _ => ?_) h
      exact .bind steps (frame.runModule _ loads items) fun _ => noted _

theorem leaveRun (frame : IsChangeFrame R) (name : String) : Leads R (Plugin.leave name) :=
  .change fun r => frame.leave r name

theorem executeEntered (frame : IsChangeFrame R) {load : String → Run Host ModuleId}
    (loads : ∀ name, Leads R (load name)) (name : String) (id : ModuleId) (file : Option String) :
    Leads R (Plugin.executeEntered load name id file) := by
  have steps := frame.toComposes
  cases file with
  | none => exact .pure steps _
  | some file =>
    refine .bind steps (.attempt (frame.execute loads id (.name name) file)) fun outcome => ?_
    refine .bind steps (.change fun r => frame.conclude r id) fun _ => ?_
    cases outcome with
    | ok _ => exact .pure steps _
    | error failure => exact .bind steps (frame.leaveRun name) fun _ => .fail steps failure

theorem bindInParent (frame : IsChangeFrame R) (id : ModuleId)
    (parent : Option (ModuleId × String)) : Leads R (Plugin.bindInParent id parent) := by
  cases parent with
  | none => exact .pure frame.toComposes _
  | some parent => exact .change fun r => frame.setAttribute r _ _ _

theorem addModuleRun (frame : IsChangeFrame R) (m : Module) : Leads R (Plugin.addModule m) :=
  fun h => frame.addModule h.plugins m

theorem enterRun (frame : IsChangeFrame R) (name : String) (id : ModuleId) :
    Leads R (Plugin.enter name id) := .change fun r => frame.enter r name id

theorem importFrame (frame : IsChangeFrame R) : IsImportFrame R where
  toIsItemFrame := frame.toIsItemFrame
  loadSpec {load name parent spec h} loads _ := by
    have steps := frame.toComposes
    refine Leads.get (fun h => Leads.bind steps (.check steps _) (fun _ => ?_) h) h
    refine .bind steps (frame.addModuleRun _) fun id => ?_
    refine .bind steps (frame.enterRun name id) fun _ => ?_
    refine .bind steps (frame.executeEntered loads name id spec.file?) fun _ => ?_
    exact .bind steps (frame.bindInParent id parent) fun _ => .pure steps id

end IsChangeFrame

/-- The cache stays as it is. -/
def SameCache (r r' : Registry) : Prop := r'.assemblies = r.assemblies

theorem sameCache_frame : IsChangeFrame SameCache where
  refl _ := rfl
  trans first second := Eq.trans second first
  addClass _ _ := rfl
  setAttribute _ _ _ _ := rfl
  addModule _ _ := rfl
  enter _ _ _ := rfl
  leave _ _ := rfl
  note _ _ := rfl
  conclude _ _ := rfl

namespace IsChangeFrame

/-- The cache takes up a path that it does not hold. -/
theorem concludeAssembly (frame : IsChangeFrame R)
    (remember : ∀ r path id, r.assemblies.lookup path = none →
      R r { r with assemblies := r.assemblies.bind path id })
    (new : h.plugins.assemblies.lookup path = none) (assembly descriptor : String) (id : ModuleId)
    (outcome : Except Failure Unit) :
    R h.plugins (Plugin.concludeAssembly path assembly descriptor id outcome h).2.plugins := by
  have steps := frame.toComposes
  cases outcome with
  | ok _ =>
    refine Leads.andThen steps (remember h.plugins path id new) fun _ => ?_
    exact .bind steps (.of_plugins_eq steps (.emit _)) fun _ => .pure steps id
  | error failure =>
    have failing : Leads R
        (Plugin.concludeAssembly path assembly descriptor id (.error failure)) := by
      rw [Plugin.concludeAssembly]
      split
      · exact .fail steps failure
      · exact .bind steps (frame.leaveRun _) fun _ => .fail steps _
    exact failing h

theorem loadFrame (frame : IsChangeFrame R) (addInstance : ∀ r i, R r (r.addInstance i).2)
    (remember : ∀ r path id, r.assemblies.lookup path = none →
      R r { r with assemblies := r.assemblies.bind path id }) : IsLoadFrame R where
  toComposes := frame.toComposes
  addInstance := addInstance
  importModule := frame.importFrame.importModule
  executeAssembly {path assembly descriptor file search h} new := by
    have steps := frame.toComposes
    let id := h.plugins.modules.size
    let start : Host := { h with plugins :=
      { h.plugins with
        modules := h.plugins.modules.push
          { name := (Assembly.path path).moduleName, file := some file, search, isNamed := false }
        table := h.plugins.table.bind (Assembly.path path).moduleName id } }
    let run := Plugin.execute (importWithin (depthLimit start)) id (.path path) file
    have started : R h.plugins start.plugins :=
      steps.trans (frame.addModule h.plugins _) (frame.enter _ _ id)
    have executed : R start.plugins (run start).2.plugins :=
      frame.execute (frame.importFrame.importWithin _) id (.path path) file start
    have uncached : SameCache start.plugins (run start).2.plugins :=
      sameCache_frame.execute (sameCache_frame.importFrame.importWithin _) id (.path path) file
        start
    have still : (run start).2.plugins.assemblies.lookup path = none := by
      rw [uncached]
      exact new
    change R h.plugins
      (Plugin.concludeAssembly path assembly descriptor id (run start).1 (run start).2).2.plugins
    exact steps.trans (steps.trans started executed)
      (frame.concludeAssembly remember still assembly descriptor id _)

end IsChangeFrame

end SchemaNaming.Plugin
