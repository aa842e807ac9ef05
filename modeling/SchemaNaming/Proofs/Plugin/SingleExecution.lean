import SchemaNaming.Proofs.Plugin.Frame

/-!
What has been executed to its end is not executed again. A completed assembly is known: its real
path stands in the cache, or its dotted name in the table. Imports take nothing out of the table that
was there when they began. Loads by path do so, but only under the names that they make for files.
-/

namespace SchemaNaming.Plugin

/-- A dotted name that is also the name of a module for a file given by its path. The load of such a
file takes the name over, whatever it has stood for. -/
def Assembly.IsTakenOver : Assembly → Prop
  | .path _ => False
  | .name dotted => ∃ path, dotted = moduleNameForPath path

/-- No assembly begins again that has been completed, but for names that are taken over. -/
def ExecutedOnce (history : List ExecutionEvent) : Prop :=
  history.Pairwise fun earlier later => ∀ done again, earlier = .completed done →
    later = .begun again → again.assembly = done.assembly → done.assembly.IsTakenOver

theorem ExecutedOnce.complete (once : ExecutedOnce history) (execution : Execution) :
    ExecutedOnce (history ++ [.completed execution]) := by
  refine List.pairwise_append.mpr ⟨once, List.pairwise_singleton _ _, ?_⟩
  rintro _ _ later member _ again _ begun _
  obtain rfl := List.mem_singleton.mp member
  contradiction

theorem ExecutedOnce.begin (once : ExecutedOnce history) {execution : Execution}
    (new : ∀ done, .completed done ∈ history → done.assembly = execution.assembly →
      done.assembly.IsTakenOver) : ExecutedOnce (history ++ [.begun execution]) := by
  refine List.pairwise_append.mpr ⟨once, List.pairwise_singleton _ _, ?_⟩
  rintro _ earlier _ member done again rfl begun same
  obtain rfl := List.mem_singleton.mp member
  obtain rfl := ExecutionEvent.begun.inj begun
  exact new done earlier same.symm

namespace Registry

/-- Where a completed assembly is remembered. -/
def Knows (r : Registry) : Assembly → Prop
  | .path path => (r.assemblies.lookup path).isSome
  | .name dotted => (r.table.lookup dotted).isSome

/-- What may still be executed without being executed again. -/
def IsNew (r : Registry) (assembly : Assembly) : Prop :=
  ∀ done, .completed done ∈ r.history → done.assembly = assembly → assembly.IsTakenOver

structure IsSound (r : Registry) : Prop where
  known : ∀ done, .completed done ∈ r.history → done.assembly.IsTakenOver ∨ r.Knows done.assembly
  once : ExecutedOnce r.history

/-- What an import leaves as it was: the entries of the table, the cache, and what is complete but
for names that were not in the table. -/
structure Keeps (r r' : Registry) : Prop where
  table : ∀ dotted, (r.table.lookup dotted).isSome → (r'.table.lookup dotted).isSome
  assemblies : r'.assemblies = r.assemblies
  completed : ∀ done, .completed done ∈ r'.history →
    .completed done ∈ r.history ∨
      ∃ dotted, done.assembly = .name dotted ∧ r.table.lookup dotted = none

/-- An import that begins with a sound registry. -/
def Imports (r r' : Registry) : Prop := r.IsSound → r'.IsSound ∧ r.Keeps r'

variable {r r' s : Registry}

theorem Keeps.trans (first : r.Keeps s) (second : s.Keeps t) : r.Keeps t := by
  refine ⟨fun dotted => second.table dotted ∘ first.table dotted,
    second.assemblies.trans first.assemblies, fun done member => ?_⟩
  rcases second.completed done member with earlier | ⟨dotted, same, absent⟩
  · exact first.completed done earlier
  · refine .inr ⟨dotted, same, ?_⟩
    cases present : r.table.lookup dotted with
    | none => rfl
    | some id =>
      have still := first.table dotted (by simp [present])
      simp [absent] at still

theorem Keeps.refl (r : Registry) : r.Keeps r := ⟨fun _ => id, rfl, fun _ => .inl⟩

theorem imports_composes : Composes Imports where
  refl r sound := ⟨sound, .refl r⟩
  trans first second sound := by
    obtain ⟨middle, kept⟩ := first sound
    obtain ⟨last, keptToo⟩ := second middle
    exact ⟨last, kept.trans keptToo⟩

theorem IsSound.of_more (sound : r.IsSound) (history : r'.history = r.history)
    (table : ∀ dotted, (r.table.lookup dotted).isSome → (r'.table.lookup dotted).isSome)
    (assemblies : ∀ path, (r.assemblies.lookup path).isSome → (r'.assemblies.lookup path).isSome) :
    r'.IsSound := by
  refine ⟨fun done member => ?_, history ▸ sound.once⟩
  rw [history] at member
  refine (sound.known done member).imp_right fun known => ?_
  cases same : done.assembly with
  | path path =>
    rw [same] at known
    exact assemblies path known
  | name dotted =>
    rw [same] at known
    exact table dotted known

theorem imports_of_same (table : r'.table = r.table) (assemblies : r'.assemblies = r.assemblies)
    (history : r'.history = r.history) : Imports r r' := by
  intro sound
  refine ⟨sound.of_more history ?_ ?_, ?_, assemblies, ?_⟩
  · exact fun dotted => by simp [table]
  · exact fun path => by simp [assemblies]
  · exact fun dotted => by simp [table]
  · exact fun done member => .inl (history ▸ member)

theorem imports_itemFrame : IsItemFrame Imports :=
  { imports_composes with
    addClass := fun _ _ => imports_of_same rfl rfl rfl
    setAttribute := fun _ _ _ _ => imports_of_same rfl rfl rfl }

theorem IsSound.complete (sound : r.IsSound) {execution : Execution}
    (known : r.Knows execution.assembly) :
    IsSound { r with history := r.history ++ [.completed execution] } := by
  refine ⟨fun done member => ?_, sound.once.complete execution⟩
  rcases List.mem_append.mp member with member | member
  · exact sound.known done member
  · obtain rfl := ExecutionEvent.completed.inj (List.mem_singleton.mp member)
    exact .inr known

theorem IsSound.isNew (sound : r.IsSound) {assembly : Assembly} (unknown : ¬ r.Knows assembly) :
    r.IsNew assembly := by
  rintro done member rfl
  exact (sound.known done member).resolve_right unknown

theorem IsSound.begin (sound : r.IsSound) {execution : Execution}
    (new : r.IsNew execution.assembly) :
    IsSound { r with history := r.history ++ [.begun execution] } := by
  refine ⟨fun done member => ?_, sound.once.begin fun done member same => ?_⟩
  · rcases List.mem_append.mp member with member | member
    · exact sound.known done member
    · exact nomatch List.mem_singleton.mp member
  · exact same ▸ new done member same

theorem keeps_begin (r : Registry) (execution : Execution) :
    Keeps r { r with history := r.history ++ [.begun execution] } := by
  refine ⟨fun _ => id, rfl, fun done member => ?_⟩
  rcases List.mem_append.mp member with member | member
  · exact .inl member
  · exact nomatch List.mem_singleton.mp member

theorem Keeps.complete (kept : r.Keeps s) {execution : Execution}
    (named : execution.assembly = .name dotted) (absent : r.table.lookup dotted = none) :
    r.Keeps { s with history := s.history ++ [.completed execution] } := by
  refine ⟨kept.table, kept.assemblies, fun done member => ?_⟩
  rcases List.mem_append.mp member with member | member
  · exact kept.completed done member
  · obtain rfl := ExecutionEvent.completed.inj (List.mem_singleton.mp member)
    exact .inr ⟨dotted, named, absent⟩

theorem Keeps.leave (kept : r.Keeps s) (absent : r.table.lookup dotted = none) :
    r.Keeps { s with table := s.table.unbind dotted } := by
  refine ⟨fun other present => ?_, kept.assemblies, kept.completed⟩
  have different : other ≠ dotted := by
    rintro rfl
    simp [absent] at present
  change ((s.table.unbind dotted).lookup other).isSome
  rw [Named.lookup_unbind_ne different]
  exact kept.table other present

theorem IsSound.leave (sound : s.IsSound) (new : s.IsNew (.name dotted)) :
    IsSound { s with table := s.table.unbind dotted } := by
  refine ⟨fun done member => ?_, sound.once⟩
  rcases sound.known done member with taken | known
  · exact .inl taken
  · cases same : done.assembly with
    | path path =>
      rw [same] at known
      exact .inr known
    | name other =>
      by_cases own : other = dotted
      · exact .inl (own ▸ new done member (own ▸ same))
      · rw [same] at known
        refine .inr ?_
        change ((s.table.unbind dotted).lookup other).isSome
        rwa [Named.lookup_unbind_ne own]

theorem Keeps.isNew (kept : r.Keeps s) (entered : (r.table.lookup dotted).isSome)
    (new : r.IsNew (.name dotted)) : s.IsNew (.name dotted) := by
  intro done member same
  rcases kept.completed done member with earlier | ⟨other, named, absent⟩
  · exact new done earlier same
  · obtain rfl := Assembly.name.inj (same.symm.trans named)
    simp [absent] at entered

end Registry

open Registry

/-- The execution of an assembly that is new. At its very end, and only if it has not failed, the
assembly is noted as complete. -/
theorem execute_keeps {load : String → Run Host ModuleId}
    (loads : ∀ name, Leads Imports (load name)) (sound : h.plugins.IsSound)
    {assembly : Assembly} (new : h.plugins.IsNew assembly)
    (id : ModuleId) (file : String) :
    ∃ last : Registry, last.IsSound ∧ h.plugins.Keeps last ∧
      match execute load id assembly file h with
      | (.error _, h') => h'.plugins = last
      | (.ok (), h') => ∃ execution, execution.assembly = assembly ∧
        h'.plugins = { last with history := last.history ++ [.completed execution] } := by
  rw [execute, Run.bind_apply, Run.get_apply]
  dsimp only
  cases h.files.locate h.base file with
  | error reason => exact ⟨_, sound, .refl _, rfl⟩
  | ok place =>
    dsimp only
    cases itemsOf assembly.moduleName file (h.files.contentAt place) with
    | error fault => exact ⟨_, sound, .refl _, rfl⟩
    | ok items =>
      let execution := Execution.of assembly place (h.files.contentAt place)
      let scope : Scope :=
        { module := id, moduleName := assembly.moduleName, enclosing := [], load }
      let begun : Host := { h with plugins :=
        { h.plugins with history := h.plugins.history ++ [.begun execution] } }
      obtain ⟨middle, kept⟩ :=
        imports_itemFrame.runModule scope loads items begun (sound.begin new)
      refine ⟨_, middle, (keeps_begin h.plugins execution).trans kept, ?_⟩
      change match (do runModule scope items; note (.completed execution)) begun with
        | (.error _, h') => h'.plugins = (runModule scope items begun).2.plugins
        | (.ok (), h') => _
      rw [Run.bind_apply]
      rcases runModule scope items begun with ⟨failure | _, ended⟩
      · rfl
      · exact ⟨execution, rfl, rfl⟩

theorem executeEntered_keeps {load : String → Run Host ModuleId} {before : Registry}
    (loads : ∀ name, Leads Imports (load name)) (absent : before.table.lookup dotted = none)
    (kept : before.Keeps h.plugins) (sound : h.plugins.IsSound)
    (entered : (h.plugins.table.lookup dotted).isSome) (new : h.plugins.IsNew (.name dotted))
    (id : ModuleId) (file : Option String) :
    (executeEntered load dotted id file h).2.plugins.IsSound ∧
      before.Keeps (executeEntered load dotted id file h).2.plugins := by
  cases file with
  | none => exact ⟨sound, kept⟩
  | some file =>
    obtain ⟨last, soundLast, keptLast, outcome⟩ := execute_keeps loads sound new id file
    have concluded (r : Registry) : Imports r (r.conclude id) := imports_of_same rfl rfl rfl
    rw [executeEntered, Run.bind_apply, Run.attempt]
    rcases ran : execute load id (.name dotted) file h with ⟨failure | _, ended⟩ <;>
      rw [ran] at outcome
    · -- Nothing has completed the module: whoever asked for it found it in the table.
      change ended.plugins = last at outcome
      let final := ended.plugins.conclude id
      change IsSound { final with table := final.table.unbind dotted } ∧
        before.Keeps { final with table := final.table.unbind dotted }
      obtain ⟨soundFinal, keptFinal⟩ := concluded last soundLast
      have new := (keptLast.trans keptFinal).isNew entered new
      have kept := (kept.trans keptLast).trans keptFinal
      rw [show final = last.conclude id from congrArg (Registry.conclude · id) outcome]
      exact ⟨soundFinal.leave new, kept.leave absent⟩
    · obtain ⟨execution, named, same⟩ := outcome
      change (ended.plugins.conclude id).IsSound ∧ before.Keeps (ended.plugins.conclude id)
      rw [same]
      have known : last.Knows execution.assembly := by
        rw [named]
        exact keptLast.table dotted entered
      obtain ⟨soundFinal, keptFinal⟩ := concluded _ (soundLast.complete known)
      exact ⟨soundFinal, ((kept.trans keptLast).complete named absent).trans keptFinal⟩

theorem imports_bindInParent (id : ModuleId) (parent : Option (ModuleId × String)) :
    Leads Imports (bindInParent id parent) := by
  cases parent with
  | none => exact .pure imports_composes _
  | some parent => exact .change fun r => imports_itemFrame.setAttribute r _ _ _

theorem imports_importFrame : IsImportFrame Imports where
  toIsItemFrame := imports_itemFrame
  loadSpec {load dotted parent spec h} loads absent := by
    let number := h.plugins.modules.size
    let entered : Host := { h with plugins :=
      { h.plugins with
        modules := h.plugins.modules.push
          { name := dotted, file := spec.file?, search := spec.search?
            isRunning := spec.file?.isSome }
        table := h.plugins.table.bind dotted number } }
    have more : ∀ other, (h.plugins.table.lookup other).isSome →
        (entered.plugins.table.lookup other).isSome := fun other present =>
      Named.isSome_lookup_bind present dotted number
    have found : (entered.plugins.table.lookup dotted).isSome := by
      change ((h.plugins.table.bind dotted number).lookup dotted).isSome
      rw [Named.lookup_bind_self, Option.isSome_some]
    have permitted := Leads.check_host (loadable h (parent.map (·.1)) spec) h
    rw [loadSpec, Run.bind_apply, Run.get_apply]
    refine Leads.looking imports_composes permitted fun _ => ?_
    refine Leads.andThen (x := executeEntered load dotted number spec.file?) (h := entered)
      imports_composes (fun sound => ?_) fun _ =>
        .bind imports_composes (imports_bindInParent number parent) fun _ =>
          .pure imports_composes number
    have new : entered.plugins.IsNew (.name dotted) := sound.isNew (by simp [Knows, absent])
    exact executeEntered_keeps loads absent ⟨more, rfl, fun _ => .inl⟩
      (sound.of_more rfl more fun _ => id) found new number spec.file?

/-- A load keeps the registry sound. -/
def KeepsSound (r r' : Registry) : Prop := r.IsSound → r'.IsSound

theorem keepsSound_composes : Composes KeepsSound :=
  ⟨fun _ => id, fun first second => second ∘ first⟩

theorem keepsSound_leave (path : String) :
    Leads KeepsSound (leave (Assembly.path path).moduleName) :=
  fun _ sound => sound.leave fun _ _ _ => ⟨path, rfl⟩

theorem concludeAssembly_error (path assembly descriptor : String) (id : ModuleId)
    (failure : Failure) :
    Leads KeepsSound (concludeAssembly path assembly descriptor id (.error failure)) := by
  have steps := keepsSound_composes
  rw [concludeAssembly]
  split
  · exact .fail steps failure
  · exact .bind steps (keepsSound_leave path) fun _ => .fail steps _

theorem concludeAssembly_ok {last : Registry} (sound : last.IsSound) {execution : Execution}
    (own : execution.assembly = .path path)
    (same : h.plugins = { last with history := last.history ++ [.completed execution] })
    (assembly descriptor : String) (number : ModuleId) :
    (concludeAssembly path assembly descriptor number (.ok ()) h).2.plugins.IsSound := by
  have steps := keepsSound_composes
  let cached : Registry := { last with assemblies := last.assemblies.bind path number }
  have soundCached : cached.IsSound := sound.of_more rfl (fun _ => id) fun other present =>
    Named.isSome_lookup_bind present path number
  have known : cached.Knows execution.assembly := by
    rw [own]
    change ((last.assemblies.bind path number).lookup path).isSome
    rw [Named.lookup_bind_self, Option.isSome_some]
  have soundLast := soundCached.complete known
  have logged : Leads KeepsSound (do
      emitLoaded assembly (Assembly.path path).moduleName
      return number) := .bind steps (.of_plugins_eq steps (.emit _)) fun _ => .pure steps number
  refine logged { h with plugins := { h.plugins with
    assemblies := h.plugins.assemblies.bind path number } } ?_
  rw [same]
  exact soundLast

theorem keepsSound_loadFrame : IsLoadFrame KeepsSound where
  toComposes := keepsSound_composes
  addInstance r i sound := sound.of_more rfl (fun _ => id) fun _ => id
  importModule name h sound := (imports_importFrame.importModule name h sound).1
  executeAssembly {path assembly descriptor file search h} unknown := by
    intro sound
    -- Whatever the name stands for so far, the entry only replaces it.
    let dotted := (Assembly.path path).moduleName
    let number := h.plugins.modules.size
    let entered : Host := { h with plugins :=
      { h.plugins with
        modules := h.plugins.modules.push
          { name := dotted, file := some file, search, isNamed := false }
        table := h.plugins.table.bind dotted number } }
    have soundEntered : entered.plugins.IsSound :=
      sound.of_more rfl (fun other present => Named.isSome_lookup_bind present dotted number)
        fun _ => id
    have new : entered.plugins.IsNew (.path path) := sound.isNew (by simp [Knows, unknown])
    obtain ⟨last, soundLast, _, outcome⟩ := execute_keeps
      (imports_importFrame.importWithin (depthLimit entered)) soundEntered new number file
    change (((Run.attempt (execute (importWithin (depthLimit entered)) number (.path path) file) :
      Run Host (Except Failure Unit)) >>= concludeAssembly path assembly descriptor number)
        entered).2.plugins.IsSound
    rw [Run.bind_apply, Run.attempt]
    rcases ran : execute (importWithin (depthLimit entered)) number (.path path) file entered with
      ⟨failure | _, ended⟩ <;> rw [ran] at outcome
    · refine concludeAssembly_error path assembly descriptor number failure ended ?_
      rwa [show ended.plugins = last from outcome]
    · obtain ⟨execution, own, same⟩ := outcome
      exact concludeAssembly_ok soundLast own same assembly descriptor number

/-- What a loader can be asked for. -/
inductive LoaderCall where
  | loadAssembly (assembly descriptor : String)
  | resolveType (descriptor : Value)
  | createInstance (descriptor : Value)
  | resolve (descriptor : Value) (slot : Slot)

namespace LoaderCall

/-- The host behind a call, whether it has failed or not. -/
def after (h : Host) : LoaderCall → Host
  | .loadAssembly assembly descriptor => (Plugin.loadAssembly assembly descriptor h).2
  | .resolveType descriptor => (Plugin.resolveType descriptor h).2
  | .createInstance descriptor => (Plugin.createInstance descriptor h).2
  | .resolve descriptor slot => (Plugin.resolve descriptor slot h).2

/-- The host behind calls one after the other. -/
def afterAll (calls : List LoaderCall) (h : Host) : Host := calls.foldl after h

theorem after_isSound (sound : h.plugins.IsSound) (call : LoaderCall) :
    (call.after h).plugins.IsSound := by
  have frame := keepsSound_loadFrame
  cases call with
  | loadAssembly assembly descriptor => exact frame.loadAssembly assembly descriptor h sound
  | resolveType descriptor => exact frame.resolveType descriptor h sound
  | createInstance descriptor => exact frame.createInstance descriptor h sound
  | resolve descriptor slot => exact frame.resolve descriptor slot h sound

theorem afterAll_isSound (sound : h.plugins.IsSound) (calls : List LoaderCall) :
    (afterAll calls h).plugins.IsSound := by
  induction calls generalizing h with
  | nil => exact sound
  | cons call rest ih => exact ih (after_isSound sound call)

theorem isSound_of_history_eq_nil {r : Registry} (unused : r.history = []) : r.IsSound :=
  ⟨by simp [unused], by simp [unused, ExecutedOnce]⟩

/-- Among all calls no assembly is executed again that has been completed. One that is given by a path
is known by its real path, one that is given by a name by that name; names taken over are excepted. -/
theorem afterAll_executedOnce (unused : h.plugins.history = []) (calls : List LoaderCall) :
    ExecutedOnce (afterAll calls h).plugins.history :=
  (afterAll_isSound (isSound_of_history_eq_nil unused) calls).once

/-- A host with plugins in a directory where modules are searched. -/
def hostOf (plugins : List (String × Source)) : Host :=
  { files := { nodes := (["site"], .directory) ::
      plugins.map (fun plugin => (["site", plugin.1], .file (.source plugin.2))) }
    searchPath := ["/site"] }

/-- Two spellings of one path. -/
theorem afterAll_executedOnce_spellings :
    let h := hostOf [("m.py", .items [])]
    let calls : List LoaderCall := [.loadAssembly "site/m.py" "", .loadAssembly "/site/./m.py" ""]
    let execution : Execution := ⟨.path "/site/m.py", "/site/m.py", true⟩
    h.plugins.history = [] ∧
      (afterAll calls h).plugins.history = [.begun execution, .completed execution] ∧
      ExecutedOnce (afterAll calls h).plugins.history :=
  ⟨rfl, by decide +kernel, afterAll_executedOnce rfl _⟩

/-- One file is executed twice when a path and a name lead to it. One assembly is executed twice when
its name is taken over: the load by path fails and takes the name out of the table. -/
theorem file_executed_twice :
    (¬ ∀ (h : Host) (calls : List LoaderCall), h.plugins.history = [] →
      (afterAll calls h).plugins.history.Pairwise fun earlier later => ∀ done again,
        earlier = .completed done → later = .begun again → again.path ≠ done.path) ∧
    ¬ ∀ (h : Host) (calls : List LoaderCall), h.plugins.history = [] →
      (afterAll calls h).plugins.history.Pairwise fun earlier later => ∀ done again,
        earlier = .completed done → later = .begun again → again.assembly ≠ done.assembly := by
  refine ⟨fun once => ?_, fun once => ?_⟩
  · let h := hostOf [("m.py", .items [])]
    let calls : List LoaderCall := [.loadAssembly "site/m.py" "", .loadAssembly "m" ""]
    let first : Execution := ⟨.path "/site/m.py", "/site/m.py", true⟩
    let second : Execution := ⟨.name "m", "/site/m.py", true⟩
    have history : (afterAll calls h).plugins.history =
        [.begun first, .completed first, .begun second, .completed second] := by decide +kernel
    have pairs := once h calls rfl
    rw [history] at pairs
    simp [first, second] at pairs
  · let taken := "namegen_plugin_m_fa60e8d4"
    let h := hostOf [("m.py", .malformed), (taken ++ ".py", .items [])]
    let calls : List LoaderCall :=
      [.loadAssembly taken "", .loadAssembly "site/m.py" "", .loadAssembly taken ""]
    let execution : Execution := ⟨.name taken, "/site/" ++ taken ++ ".py", true⟩
    have history : (afterAll calls h).plugins.history =
        [.begun execution, .completed execution, .begun execution, .completed execution] := by
      decide +kernel
    have pairs := once h calls rfl
    rw [history] at pairs
    simp at pairs

end LoaderCall

end SchemaNaming.Plugin
