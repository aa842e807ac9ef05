import SchemaNaming.Proofs.Plugin.Changes
import SchemaNaming.Proofs.Plugin.SingleExecution

/-!
What the cache of assemblies remembers. A load by path that has returned a module leaves it in the
cache under its real path, and no call takes an entry out or replaces it. So every later path that
leads there gives the same module and changes nothing, whatever has become of the files.
-/

namespace SchemaNaming.Plugin

/-- Where a path leads at the moment; one that no file can have leads nowhere. -/
def leadsTo? (h : Host) (assembly : String) : Option String :=
  if Host.hasNull assembly then none else some (realPathOf h assembly)

/-- An assembly that is loaded by path, and where the path leads at the moment. -/
structure IsPathTo (h : Host) (assembly path : String) : Prop where
  isPath : looksLikePath h assembly = true
  leads : leadsTo? h assembly = some path

theorem IsPathTo.loadAssembly_apply (leads : IsPathTo h assembly path) (descriptor : String) :
    ∃ text, loadAssembly assembly descriptor h =
      match h.plugins.assemblies.lookup path with
      | some id => (.ok id, h)
      | none =>
        match locationOf h path with
        | .error reason => (.error (.of (.assemblyLoad text assembly reason)), h)
        | .ok (file, search) =>
          match libraryFault? h file with
          | some fault => (.error (.of fault), h)
          | none => executeAssembly path assembly text file search h := by
  obtain ⟨isPath, leads⟩ := leads
  rw [leadsTo?] at leads
  split at leads
  · contradiction
  · rename_i plain
    obtain rfl := Option.some.inj leads
    refine ⟨if descriptor.isEmpty then assembly else descriptor, ?_⟩
    rw [loadAssembly, Run.bind_apply, Run.get_apply]
    simp only [isPath, if_true, loadFromPath, Run.bind_apply, Run.get_apply, plain,
      Bool.false_eq_true, if_false]
    cases h.plugins.assemblies.lookup (realPathOf h assembly) with
    | some id => rfl
    | none =>
      dsimp only
      cases locationOf h (realPathOf h assembly) with
      | error reason => rfl
      | ok found =>
        dsimp only
        cases libraryFault? h found.1 <;> rfl

theorem IsPathTo.loadAssembly_of_cached {id : ModuleId} (leads : IsPathTo h assembly path)
    (cached : h.plugins.assemblies.lookup path = some id) (descriptor : String) :
    loadAssembly assembly descriptor h = (.ok id, h) := by
  obtain ⟨_, run⟩ := leads.loadAssembly_apply descriptor
  rw [run, cached]

theorem concludeAssembly_eq_ok {outcome : Except Failure Unit} {number id : ModuleId}
    (concluded : concludeAssembly path assembly descriptor number outcome h = (.ok id, h')) :
    h'.plugins.assemblies.lookup path = some id := by
  cases outcome with
  | error failure =>
    rw [concludeAssembly] at concluded
    split at concluded <;> cases concluded
  | ok _ =>
    let cached : Host := { h with plugins := { h.plugins with
      assemblies := h.plugins.assemblies.bind path number } }
    let record : Log.Record :=
      (Log.Event.assemblyLoaded assembly (Assembly.path path).moduleName).record loaderLogger
    have run : (.ok number, cached.record record) =
        ((.ok id, h') : Except Failure ModuleId × Host) := concluded
    obtain ⟨same, rfl⟩ := Prod.mk.inj run
    obtain rfl := Except.ok.inj same
    have still : cached.plugins = (cached.record record).plugins := Leads.emit record cached
    rw [← still]
    exact Named.lookup_bind_self path number h.plugins.assemblies

theorem IsPathTo.cached_of_loaded {id : ModuleId} (leads : IsPathTo h assembly path)
    (loaded : loadAssembly assembly descriptor h = (.ok id, h')) :
    h'.plugins.assemblies.lookup path = some id := by
  obtain ⟨text, run⟩ := leads.loadAssembly_apply descriptor
  rw [run] at loaded
  cases cached : h.plugins.assemblies.lookup path with
  | some known =>
    rw [cached] at loaded
    cases loaded
    exact cached
  | none =>
    rw [cached] at loaded
    dsimp only at loaded
    cases located : locationOf h path with
    | error reason =>
      rw [located] at loaded
      cases loaded
    | ok found =>
      rw [located] at loaded
      dsimp only at loaded
      split at loaded
      · cases loaded
      obtain ⟨number, _, _, loaded⟩ := Run.bind_eq_ok.mp loaded
      obtain ⟨_, _, _, loaded⟩ := Run.bind_eq_ok.mp loaded
      obtain ⟨_, _, _, loaded⟩ := Run.bind_eq_ok.mp loaded
      obtain ⟨_, _, _, concluded⟩ := Run.bind_eq_ok.mp loaded
      exact concludeAssembly_eq_ok concluded

/-- The entries of the cache stay as they are. -/
def KeepsCache (r r' : Registry) : Prop :=
  ∀ path id, r.assemblies.lookup path = some id → r'.assemblies.lookup path = some id

theorem KeepsCache.of_same {r r' : Registry} (same : r'.assemblies = r.assemblies) :
    KeepsCache r r' := fun _ _ cached => same ▸ cached

theorem keepsCache_changeFrame : IsChangeFrame KeepsCache where
  refl _ _ _ := id
  trans first second path id := second path id ∘ first path id
  addClass _ _ := .of_same rfl
  setAttribute _ _ _ _ := .of_same rfl
  addModule _ _ := .of_same rfl
  enter _ _ _ := .of_same rfl
  leave _ _ := .of_same rfl
  note _ _ := .of_same rfl
  conclude _ _ := .of_same rfl

theorem keepsCache_remember (r : Registry) (path : String) (id : ModuleId)
    (new : r.assemblies.lookup path = none) :
    KeepsCache r { r with assemblies := r.assemblies.bind path id } := by
  intro other known cached
  have different : other ≠ path := by
    rintro rfl
    simp [new] at cached
  change (r.assemblies.bind path id).lookup other = some known
  rwa [Named.lookup_bind_ne different]

theorem keepsCache_loadFrame : IsLoadFrame KeepsCache :=
  keepsCache_changeFrame.loadFrame (fun _ _ => .of_same rfl) keepsCache_remember

theorem placeOf_host (given : d.assembly = some assembly) (h : Host) :
    (placeOf d h).2 = (loadAssembly assembly d.text h).2 := by
  rw [placeOf, given]
  dsimp only
  rw [Run.bind_apply]
  rcases loadAssembly assembly d.text h with ⟨failure | id, h'⟩
  · rfl
  · dsimp only
    rw [registry_bind]
    cases relativePath h'.plugins id d.typeName <;> rfl

theorem typeOf_host (d : Descriptor) (h : Host) : (typeOf d h).2 = (placeOf d h).2 := by
  rw [typeOf, Run.bind_apply]
  rcases placeOf d h with ⟨failure | ⟨id, path⟩, h'⟩
  · rfl
  · dsimp only
    rw [registry_bind, Run.bind_apply]
    rcases walkAttributes h'.plugins (.module id) path with fault | _ | t
    · rfl
    · dsimp only [Run.check_ok]
      rw [Run.bind_apply]
      cases (h'.plugins.module id).title.written <;> rfl
    · cases t <;> rfl

namespace LoaderCall

/-- The assembly that a call loads first, if it names one, and what faults report for it. -/
def assembly? : LoaderCall → Option (String × String)
  | .loadAssembly assembly descriptor => some (assembly, descriptor)
  | .resolveType v | .createInstance v | .resolve v _ =>
    match Descriptor.ofValue v with
    | .ok d => d.assembly.map (·, d.text)
    | .error _ => none

theorem descriptorOf_ok (described : Descriptor.ofValue v = .ok d) (h : Host) :
    descriptorOf v h = (.ok d, h) := by
  rw [descriptorOf, described]
  rfl

theorem assembly?_given (asks : (match Descriptor.ofValue v with
      | .ok d => d.assembly.map (·, d.text)
      | .error _ => none) = some (assembly, text)) :
    ∃ d, (∀ h, descriptorOf v h = (.ok d, h)) ∧ d.assembly = some assembly ∧ d.text = text := by
  cases described : Descriptor.ofValue v with
  | error fault =>
    rw [described] at asks
    contradiction
  | ok d =>
    rw [described] at asks
    obtain ⟨given, named, same⟩ := Option.map_eq_some_iff.mp asks
    obtain ⟨rfl, rfl⟩ := Prod.mk.inj same
    exact ⟨d, descriptorOf_ok described, named, rfl⟩

theorem assembly?_described (asks : (match Descriptor.ofValue v with
      | .ok d => d.assembly.map (·, d.text)
      | .error _ => none) = some (assembly, text)) :
    ∃ d, (∀ h, descriptorOf v h = (.ok d, h)) ∧
      ∀ h, (typeOf d h).2 = (Plugin.loadAssembly assembly text h).2 := by
  obtain ⟨d, described, given, rfl⟩ := assembly?_given asks
  exact ⟨d, described, fun h => (typeOf_host d h).trans (placeOf_host given h)⟩

/-- Whatever a call does behind the load of its assembly composes of the steps of loads. -/
theorem after_of_loaded {R : Registry → Registry → Prop} (frame : IsLoadFrame R)
    {call : LoaderCall} (asks : call.assembly? = some (assembly, text)) (h : Host) :
    R (Plugin.loadAssembly assembly text h).2.plugins (call.after h).plugins := by
  have steps := frame.toComposes
  cases call with
  | loadAssembly other descriptor =>
    obtain ⟨rfl, rfl⟩ := Prod.mk.inj (Option.some.inj asks)
    exact steps.refl _
  | resolveType v =>
    obtain ⟨d, described, loads⟩ := assembly?_described asks
    rw [after, Plugin.resolveType, Run.bind_apply, described]
    dsimp only
    rw [loads]
    exact steps.refl _
  | createInstance v =>
    obtain ⟨d, described, loads⟩ := assembly?_described asks
    rw [after, Plugin.createInstance, Run.bind_apply, described]
    exact Leads.andThen steps (by rw [loads]; exact steps.refl _) (frame.instantiate d)
  | resolve v slot =>
    obtain ⟨d, described, loads⟩ := assembly?_described asks
    rw [after, Plugin.resolve, Run.bind_apply, described]
    refine Leads.andThen steps (by rw [loads]; exact steps.refl _) fun cls => ?_
    refine .bind steps (frame.instantiate d cls) fun id => .registry fun h => ?_
    refine Leads.bind steps (.check steps _) (fun implements => ?_) h
    split
    · exact .pure steps id
    · exact .fault steps _

theorem after_leads {R : Registry → Registry → Prop} (frame : IsLoadFrame R) (call : LoaderCall)
    (h : Host) : R h.plugins (call.after h).plugins := by
  cases call with
  | loadAssembly assembly descriptor => exact frame.loadAssembly assembly descriptor h
  | resolveType descriptor => exact frame.resolveType descriptor h
  | createInstance descriptor => exact frame.createInstance descriptor h
  | resolve descriptor slot => exact frame.resolve descriptor slot h

end LoaderCall

/-- What can happen in the life of a process: a call, whatever becomes of it, or any change outside
the cache, to files and links, directories, variables, the log or the rest of the registry. -/
inductive LoaderEvent where
  | call (call : LoaderCall)
  | outside (surroundings : Host)

namespace LoaderEvent

def after (h : Host) : LoaderEvent → Host
  | .call made => made.after h
  | .outside surroundings =>
    let assemblies := h.plugins.assemblies
    { surroundings with plugins := { surroundings.plugins with assemblies } }

/-- The host behind events one after the other. -/
def afterAll (events : List LoaderEvent) (h : Host) : Host := events.foldl after h

theorem after_keepsCache (event : LoaderEvent) (h : Host) :
    KeepsCache h.plugins (event.after h).plugins := by
  cases event with
  | call made => exact made.after_leads keepsCache_loadFrame h
  | outside surroundings => exact .of_same rfl

theorem afterAll_keepsCache (events : List LoaderEvent) (h : Host) :
    KeepsCache h.plugins (afterAll events h).plugins := by
  induction events generalizing h with
  | nil => exact keepsCache_loadFrame.refl _
  | cons event rest ih => exact keepsCache_loadFrame.trans (after_keepsCache event h) (ih _)

/-- Once a call has loaded a module by path, every later path that leads to the same real path loads
that module, and leaves the host as it is: nothing is executed or logged, and nothing changes in the
cache and the table. -/
theorem afterAll_loadAssembly_eq {call : LoaderCall} {assembly text path : String} {id : ModuleId}
    {h h' : Host} (asks : call.assembly? = some (assembly, text))
    (first : IsPathTo h assembly path) (loaded : loadAssembly assembly text h = (.ok id, h'))
    (events : List LoaderEvent) {other : String}
    (again : IsPathTo (afterAll events (call.after h)) other path) (descriptor : String) :
    loadAssembly other descriptor (afterAll events (call.after h)) =
      (.ok id, afterAll events (call.after h)) := by
  have entered : h'.plugins.assemblies.lookup path = some id := first.cached_of_loaded loaded
  have behind : KeepsCache h'.plugins (call.after h).plugins := by
    have rest := LoaderCall.after_of_loaded keepsCache_loadFrame asks h
    rwa [loaded] at rest
  have kept := keepsCache_loadFrame.trans behind (afterAll_keepsCache events (call.after h))
  exact again.loadAssembly_of_cached (kept path id entered) descriptor

/-- Behind a plugin that stops the program every file is gone, and the path is written with a tilde
that stands for a link to the directory that was. -/
theorem afterAll_loadAssembly_eq_removed :
    let stopping : Raised := ⟨"SystemExit", .stop, ""⟩
    let h := LoaderCall.hostOf [("m.py", .items []), ("stop.py", .items [.raise stopping])]
    let call : LoaderCall := .loadAssembly "site/m.py" ""
    let stop : LoaderCall := .loadAssembly "/site/stop.py" ""
    let emptied : Host :=
      { stop.after (call.after h) with
        files := { nodes := [(["link"], .link "site")] }
        base := ["var"]
        environment := [("HOME", "/link/")] }
    let events := [.call stop, .outside emptied]
    let last := afterAll events (call.after h)
    (loadAssembly "site/m.py" "" h).1.toOption = some 0 ∧
      (loadAssembly "/site/stop.py" "" (call.after h)).1.toBool = false ∧
      last.files.isFile last.base "/site/m.py" = false ∧
      IsPathTo last "~/m.py" "/site/m.py" ∧
      loadAssembly "~/m.py" "" last = (.ok 0, last) := by
  intro stopping h call stop emptied events last
  have returned : (loadAssembly "site/m.py" "" h).1.toOption = some 0 := by decide +kernel
  have stopped : (loadAssembly "/site/stop.py" "" (call.after h)).1.toBool = false := by
    decide +kernel
  have first : IsPathTo h "site/m.py" "/site/m.py" := ⟨by decide +kernel, by decide +kernel⟩
  have again : IsPathTo last "~/m.py" "/site/m.py" := ⟨by decide +kernel, by decide +kernel⟩
  refine ⟨returned, stopped, by decide +kernel, again, ?_⟩
  rcases loaded : loadAssembly "site/m.py" "" h with ⟨failure | id, h'⟩
  · rw [loaded] at returned
    contradiction
  · rw [loaded] at returned
    obtain rfl : id = 0 := Option.some.inj returned
    have asks : call.assembly? = some ("site/m.py", "") := rfl
    exact afterAll_loadAssembly_eq asks first loaded events again ""

end LoaderEvent

end SchemaNaming.Plugin
