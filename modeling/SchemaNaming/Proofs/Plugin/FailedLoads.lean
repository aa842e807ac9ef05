import SchemaNaming.Proofs.Plugin.Caching
import SchemaNaming.Proofs.Plugin.Imports
import SchemaNaming.Proofs.Plugin.Resolution

/-!
What a load by path leaves behind that does not return. Its module is entered in the table before its
file is executed, so a failed execution has to take it out again. That is done for ordinary failures
only: a stop passes, and the module that is half executed stays under its name. What the name has
stood for before is lost either way.
-/

namespace SchemaNaming.Plugin

/-- The table between two moments of a load: other names than the one that is entered keep what they
stand for, and the cache does not change. -/
structure KeepsOthers (name : String) (r r' : Registry) : Prop where
  assemblies : r'.assemblies = r.assemblies
  others : ∀ other id, other ≠ name → r.table.lookup other = some id →
    r'.table.lookup other = some id

theorem KeepsOthers.refl (name : String) (r : Registry) : KeepsOthers name r r :=
  ⟨rfl, fun _ _ _ found => found⟩

theorem enteredHost_lookup (path file : String) (search : Option (List String)) (h : Host) :
    (enteredHost path file search h).plugins.table.lookup (Assembly.path path).moduleName =
      some h.plugins.modules.size := Named.lookup_bind_self _ _ _

theorem keepsOthers_enteredHost (path file : String) (search : Option (List String)) (h : Host) :
    KeepsOthers (Assembly.path path).moduleName h.plugins
      (enteredHost path file search h).plugins where
  assemblies := rfl
  others other id different found := by
    change (h.plugins.table.bind _ _).lookup other = some id
    rwa [Named.lookup_bind_ne different]

theorem execute_extends (path file : String) (id : ModuleId) (depth : Nat) (start : Host) :
    let last := (execute (importWithin depth) id (.path path) file start).2
    Extends start last ∧ last.plugins.assemblies = start.plugins.assemblies := by
  intro last
  have loads (name : String) := (keepsTable_importWithin depth name).safe start
  have ran := (itemSafe start).execute (fun _ _ kept => kept.of_table_eq rfl) loads id (.path path)
    file start (.refl start)
  have cached := sameCache_frame.execute (sameCache_frame.importFrame.importWithin depth) id
    (.path path) file start
  exact ⟨ran.keeps, cached⟩

/-- What the name of an assembly stands for behind its failed execution. -/
def leftBy (failure : Failure) (id : ModuleId) : Option ModuleId :=
  if failure.isStop then some id else none

theorem concludeAssembly_eq_error {path assembly descriptor : String} {id : ModuleId}
    {outcome : Except Failure Unit} {failure : Failure}
    (entered : h.plugins.table.lookup (Assembly.path path).moduleName = some id)
    (concluded : concludeAssembly path assembly descriptor id outcome h = (.error failure, h')) :
    KeepsOthers (Assembly.path path).moduleName h.plugins h'.plugins ∧
      h'.plugins.table.lookup (Assembly.path path).moduleName = leftBy failure id := by
  cases outcome with
  | ok _ =>
    -- The entry in the cache and the log record cannot fail.
    have run : ∃ last, concludeAssembly path assembly descriptor id (.ok ()) h = (.ok id, last) :=
      ⟨_, rfl⟩
    obtain ⟨last, run⟩ := run
    rw [run] at concluded
    cases concluded
  | error cause =>
    rw [concludeAssembly] at concluded
    split at concluded
    · rename_i stops
      obtain ⟨same, rfl⟩ := Prod.mk.inj concluded
      obtain rfl := Except.error.inj same
      refine ⟨.refl _ _, ?_⟩
      rw [entered, leftBy, if_pos stops]
    · obtain ⟨same, rfl⟩ := Prod.mk.inj concluded
      obtain rfl := Except.error.inj same
      refine ⟨⟨rfl, fun other number different found => ?_⟩, Named.lookup_unbind_self _ _⟩
      change (h.plugins.table.unbind _).lookup other = some number
      rwa [Named.lookup_unbind_ne different]

theorem executeAssembly_eq_error {path assembly descriptor file : String}
    {search : Option (List String)} {failure : Failure}
    (failed : executeAssembly path assembly descriptor file search h = (.error failure, h')) :
    KeepsOthers (Assembly.path path).moduleName h.plugins h'.plugins ∧
      h'.plugins.table.lookup (Assembly.path path).moduleName =
        leftBy failure h.plugins.modules.size := by
  let name := (Assembly.path path).moduleName
  let id := h.plugins.modules.size
  let start := enteredHost path file search h
  let ran := execute (importWithin (depthLimit start)) id (.path path) file start
  obtain ⟨extended, cached⟩ := execute_extends path file id (depthLimit start) start
  have entered : ran.2.plugins.table.lookup name = some id :=
    extended.table (enteredHost_lookup path file search h)
  have before := keepsOthers_enteredHost path file search h
  change concludeAssembly path assembly descriptor id ran.1 ran.2 = (.error failure, h') at failed
  obtain ⟨behind, left⟩ := concludeAssembly_eq_error entered failed
  refine ⟨⟨?_, fun other number different found => ?_⟩, left⟩
  · exact behind.assemblies.trans (cached.trans before.assemblies)
  · have found := extended.table (before.others other number different found)
    exact behind.others other number different found

/-- Whether a load by path comes to execute a file: its path can have one, is not in the cache, and
leads to a file that is no library, or to a package. -/
def executesFile (h : Host) (assembly : String) : Bool :=
  match leadsTo? h assembly with
  | none => false
  | some path =>
    (h.plugins.assemblies.lookup path).isNone &&
      match locationOf h path with
      | .ok (file, _) => (libraryFault? h file).isNone
      | .error _ => false

theorem loadAssembly_eq_error {assembly descriptor : String} {failure : Failure}
    (isPath : looksLikePath h assembly = true)
    (failed : loadAssembly assembly descriptor h = (.error failure, h')) :
    let name := (Assembly.path (realPathOf h assembly)).moduleName
    KeepsOthers name h.plugins h'.plugins ∧
      h'.plugins.table.lookup name =
        if executesFile h assembly then leftBy failure h.plugins.modules.size
        else h.plugins.table.lookup name := by
  intro name
  cases leads : leadsTo? h assembly with
  | none =>
    have null : Host.hasNull assembly = true := by
      rw [leadsTo?] at leads
      split at leads
      · assumption
      · contradiction
    rw [loadAssembly, Run.bind_apply, Run.get_apply] at failed
    simp only [isPath, if_true, loadFromPath, Run.bind_apply, Run.get_apply, null] at failed
    obtain ⟨-, rfl⟩ := Prod.mk.inj failed
    exact ⟨.refl _ _, by simp [executesFile, leads]⟩
  | some path =>
    obtain rfl : realPathOf h assembly = path := by
      rw [leadsTo?] at leads
      split at leads
      · contradiction
      · exact Option.some.inj leads
    have toPath : IsPathTo h assembly (realPathOf h assembly) := ⟨isPath, leads⟩
    obtain ⟨text, run⟩ := toPath.loadAssembly_apply descriptor
    rw [run] at failed
    cases cached : h.plugins.assemblies.lookup (realPathOf h assembly) with
    | some id =>
      rw [cached] at failed
      cases failed
    | none =>
      rw [cached] at failed
      dsimp only at failed
      cases located : locationOf h (realPathOf h assembly) with
      | error reason =>
        rw [located] at failed
        obtain ⟨-, rfl⟩ := Prod.mk.inj failed
        exact ⟨.refl _ _, by simp [executesFile, leads, located]⟩
      | ok found =>
        obtain ⟨file, search⟩ := found
        rw [located] at failed
        dsimp only at failed
        cases library : libraryFault? h file with
        | some fault =>
          rw [library] at failed
          obtain ⟨-, rfl⟩ := Prod.mk.inj failed
          exact ⟨.refl _ _, by simp [executesFile, leads, located, library]⟩
        | none =>
          rw [library] at failed
          obtain ⟨kept, left⟩ := executeAssembly_eq_error failed
          have executes : executesFile h assembly = true := by
            simp [executesFile, leads, cached, located, library]
          rw [if_pos executes]
          exact ⟨kept, left⟩

theorem bind_eq_error {x : Run Host α} {f : α → Run Host β} {failure : Failure}
    (failed : x h = (.error failure, h')) : (x >>= f) h = (.error failure, h') := by
  rw [Run.bind_apply, failed]

theorem typeOf_eq_error {assembly : String} {failure : Failure} (given : d.assembly = some assembly)
    (failed : loadAssembly assembly d.text h = (.error failure, h')) :
    typeOf d h = (.error failure, h') := by
  refine bind_eq_error ?_
  rw [placeOf, given]
  exact bind_eq_error failed

namespace LoaderCall

theorem after_of_failed {call : LoaderCall} {failure : Failure}
    (asks : call.assembly? = some (assembly, text))
    (failed : Plugin.loadAssembly assembly text h = (.error failure, h')) : call.after h = h' := by
  cases call with
  | loadAssembly other descriptor =>
    obtain ⟨rfl, rfl⟩ := Prod.mk.inj (Option.some.inj asks)
    rw [after, failed]
  | resolveType v =>
    obtain ⟨d, described, given, rfl⟩ := assembly?_given asks
    rw [after, Plugin.resolveType, Run.bind_apply, described]
    dsimp only
    rw [typeOf_eq_error given failed]
  | createInstance v =>
    obtain ⟨d, described, given, rfl⟩ := assembly?_given asks
    rw [after, Plugin.createInstance, Run.bind_apply, described]
    dsimp only
    rw [bind_eq_error (typeOf_eq_error given failed)]
  | resolve v slot =>
    obtain ⟨d, described, given, rfl⟩ := assembly?_given asks
    rw [after, Plugin.resolve, Run.bind_apply, described]
    dsimp only
    rw [bind_eq_error (typeOf_eq_error given failed)]

/-- Behind a load by path that does not return the cache is what it was, and so is every entry of the
table under another name. The assembly's own name stands for what it stood for if no file has come to
be executed. Otherwise it stands for nothing, or for the module of a file that stops the program. -/
theorem after_failedLoad {call : LoaderCall} {assembly text : String} {failure : Failure} {h : Host}
    (asks : call.assembly? = some (assembly, text)) (isPath : looksLikePath h assembly = true)
    (failed : (Plugin.loadAssembly assembly text h).1 = .error failure) :
    let name := (Assembly.path (realPathOf h assembly)).moduleName
    let last := (call.after h).plugins
    last.assemblies = h.plugins.assemblies ∧
      (∀ other id, other ≠ name → h.plugins.table.lookup other = some id →
        last.table.lookup other = some id) ∧
      last.table.lookup name =
        if executesFile h assembly then
          if failure.isStop then some h.plugins.modules.size else none
        else h.plugins.table.lookup name := by
  intro name last
  rcases ran : Plugin.loadAssembly assembly text h with ⟨outcome, h'⟩
  rw [ran] at failed
  obtain rfl : outcome = .error failure := failed
  obtain ⟨kept, left⟩ := loadAssembly_eq_error isPath ran
  have same : last = h'.plugins := congrArg Host.plugins (after_of_failed asks ran)
  rw [same]
  exact ⟨kept.assemblies, kept.others, left⟩

/-- Whether the failure of a load stops the program, if the load fails. -/
def failsWithStop? (h : Host) (assembly text : String) : Option Bool :=
  match (Plugin.loadAssembly assembly text h).1 with
  | .error failure => some failure.isStop
  | .ok _ => none

theorem failsWithStop?_eq_some {stops : Bool} (fails : failsWithStop? h assembly text = some stops) :
    ∃ failure, (Plugin.loadAssembly assembly text h).1 = .error failure ∧
      failure.isStop = stops := by
  rw [failsWithStop?] at fails
  split at fails
  · rename_i failure failed
    exact ⟨failure, failed, Option.some.inj fails⟩
  · contradiction

/-- An ordinary failure behind an import: the module that the file has imported stays, and the name
is as free as it was. -/
theorem after_failedLoad_raises :
    let raised : Raised := ⟨"ValueError", .ordinary, "boom"⟩
    let h := hostOf [("n.py", .items []), ("m.py", .items [.load "n", .raise raised])]
    let call : LoaderCall := .resolve (.text "site/m.py:G") .type
    let last := (call.after h).plugins
    failsWithStop? h "site/m.py" "site/m.py:G" = some false ∧
      last.assemblies = [] ∧ last.table.lookup "n" = some 1 ∧
      last.table.lookup "namegen_plugin_m_fa60e8d4" = none := by
  intro raised h call last
  have asks : call.assembly? = some ("site/m.py", "site/m.py:G") := by decide +kernel
  have isPath : looksLikePath h "site/m.py" = true := by decide +kernel
  have fails : failsWithStop? h "site/m.py" "site/m.py:G" = some false := by decide +kernel
  have imported : last.table.lookup "n" = some 1 := by decide +kernel
  have named : (Assembly.path (realPathOf h "site/m.py")).moduleName =
      "namegen_plugin_m_fa60e8d4" := by decide +kernel
  obtain ⟨failure, failed, ordinary⟩ := failsWithStop?_eq_some fails
  obtain ⟨cached, -, left⟩ := after_failedLoad asks isPath failed
  rw [named, ordinary] at left
  refine ⟨fails, cached, imported, left.trans ?_⟩
  split <;> rfl

/-- Failed loads by path leave the cache and the name of the assembly as they were, those whose
failures stop the program or those whose failures do not. -/
def UndoesFailures (stops : Bool) : Prop :=
  ∀ (plugins : List (String × Source)) (calls : List LoaderCall) (assembly text : String),
    let start := afterAll calls (hostOf plugins)
    looksLikePath start assembly = true → failsWithStop? start assembly text = some stops →
    let name := (Assembly.path (realPathOf start assembly)).moduleName
    let last := (Plugin.loadAssembly assembly text start).2
    last.plugins.assemblies = start.plugins.assemblies ∧
      last.plugins.table.lookup name = start.plugins.table.lookup name

/-- A module that stops the program stays in the table. An ordinary failure takes the name out of the
table whatever it has stood for: here for a module that has been imported by this very name. -/
theorem failedLoad_not_undone : ¬ UndoesFailures true ∧ ¬ UndoesFailures false := by
  refine ⟨fun undoes => ?_, fun undoes => ?_⟩
  · let stopping : Raised := ⟨"SystemExit", .stop, "bye"⟩
    let h := hostOf [("m.py", .items [.raise stopping])]
    let name := (Assembly.path (realPathOf h "site/m.py")).moduleName
    have fails : failsWithStop? h "site/m.py" "" = some true := by decide +kernel
    have same := (undoes _ [] "site/m.py" "" (by decide +kernel) fails).2
    have before : h.plugins.table.lookup name = none := rfl
    have behind : (Plugin.loadAssembly "site/m.py" "" h).2.plugins.table.lookup name = some 0 := by
      decide +kernel
    exact absurd (behind.symm.trans (same.trans before)) (by decide)
  · let taken := "namegen_plugin_m_fa60e8d4"
    let calls : List LoaderCall := [.loadAssembly taken ""]
    let start := afterAll calls (hostOf [("m.py", .malformed), (taken ++ ".py", .items [])])
    let name := (Assembly.path (realPathOf start "site/m.py")).moduleName
    have fails : failsWithStop? start "site/m.py" "" = some false := by decide +kernel
    have same := (undoes _ calls "site/m.py" "" (by decide +kernel) fails).2
    have before : start.plugins.table.lookup name = some 0 := by decide +kernel
    have behind :
        (Plugin.loadAssembly "site/m.py" "" start).2.plugins.table.lookup name = none := by
      decide +kernel
    exact absurd (behind.symm.trans (same.trans before)) (by decide)

/-- The class of a module that has stopped the program is found by the name that is left. -/
example :
    let stopping : Raised := ⟨"SystemExit", .stop, "bye"⟩
    let h := hostOf [("m.py", .items [.cls "G" {} [], .raise stopping])]
    let left := (Plugin.loadAssembly "site/m.py" "" h).2
    (Plugin.resolveType (.text "namegen_plugin_m_fa60e8d4.G") left).1.toOption = some 0 := by
  decide +kernel

end LoaderCall

end SchemaNaming.Plugin
