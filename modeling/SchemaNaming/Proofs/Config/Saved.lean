import SchemaNaming.Config.Save
import SchemaNaming.Proofs.File.Written

/-!
Configurations that are saved. Their file holds the document afterwards unless it is a log file: the
record of the saving itself goes to every log file, behind what stands there.
-/

namespace SchemaNaming

/-- A handler of records that writes to a file, if at all, and not to the one at a place. -/
def Log.Handler.IsElsewhere (t : FileTree) (place : Location) : Log.Handler → Prop
  | .console _ => True
  | .file _ other => other ≠ place ∧ t.IsFree other

instance (t : FileTree) (place : Location) (handler : Log.Handler) :
    Decidable (handler.IsElsewhere t place) :=
  match handler with
  | .console _ => isTrue trivial
  | .file _ other => inferInstanceAs (Decidable (other ≠ place ∧ t.IsFree other))

theorem Log.Handler.IsElsewhere.put_file {handler : Log.Handler}
    (elsewhere : handler.IsElsewhere t place) (other : Location) (content : Content) :
    handler.IsElsewhere (t.put other (.file content)) place := by
  cases handler with
  | console level => trivial
  | file level log => exact ⟨elsewhere.1, FileTree.isFree_put_file elsewhere.2 other content⟩

namespace Host

theorem record_base (h : Host) (r : Log.Record) : (h.record r).base = h.base := by
  rw [Host.record]
  split <;> rfl

theorem record_environment (h : Host) (r : Log.Record) :
    (h.record r).environment = h.environment := by
  rw [Host.record]
  split <;> rfl

/-- The open log files are files, and none of them is at a place. -/
def LogsElsewhere (h : Host) (place : Location) : Prop :=
  ∀ handler ∈ h.log.handlers, handler.IsElsewhere h.files place

instance (h : Host) (place : Location) : Decidable (h.LogsElsewhere place) :=
  inferInstanceAs (Decidable (∀ handler ∈ h.log.handlers, handler.IsElsewhere h.files place))

theorem writeLine_cases (h : Host) (r : Log.Record) (files : FileTree) (handler : Log.Handler) :
    h.writeLine r files handler = files ∨ ∃ level other content, handler = .file level other ∧
      h.writeLine r files handler = files.put other (.file content) := by
  cases handler with
  | console level => exact .inl rfl
  | file level other =>
    rw [writeLine]
    split
    · rcases files.appendAt_cases other (h.logLine r) with same | ⟨content, put⟩
      · exact .inl same
      · exact .inr ⟨level, other, content, rfl, put⟩
    · exact .inl rfl

theorem foldl_writeLine (h : Host) (r : Log.Record) {place : Location}
    {handlers : List Log.Handler} {files : FileTree}
    (elsewhere : ∀ handler ∈ handlers, handler.IsElsewhere files place) :
    FileTree.Retains files (handlers.foldl (h.writeLine r) files) ∧
      (handlers.foldl (h.writeLine r) files).node? place = files.node? place := by
  induction handlers generalizing files with
  | nil => exact ⟨.refl files, rfl⟩
  | cons handler rest ih =>
    have first := elsewhere handler List.mem_cons_self
    have later (other : Log.Handler) (listed : other ∈ rest) :=
      elsewhere other (List.mem_cons_of_mem handler listed)
    rw [List.foldl_cons]
    rcases h.writeLine_cases r files handler with same | ⟨level, other, content, rfl, put⟩
    · rw [same]
      exact ih later
    · obtain ⟨different, free⟩ := first
      have line := FileTree.retains_put_file free content
      have same := FileTree.node?_put_ne different.symm files (.file content)
      rw [put]
      obtain ⟨retained, still⟩ := ih fun log listed => (later log listed).put_file other content
      exact ⟨line.trans retained, still.trans same⟩

theorem LogsElsewhere.record {h : Host} (logs : LogsElsewhere h place) (r : Log.Record) :
    FileTree.Retains h.files (h.record r).files ∧
      (h.record r).files.node? place = h.files.node? place := by
  rw [Host.record]
  split
  · exact foldl_writeLine h r logs
  · exact ⟨.refl h.files, rfl⟩

theorem record_files_own {h : Host} {place : Location} {r : Log.Record} {s : String}
    (handlers : h.log.handlers = [.console n, .file m place])
    (enabled : h.log.enabled r = true) (loud : m ≤ r.level)
    (stands : h.files.node? place = some (.file (.text s))) :
    (h.record r).files = h.files.put place (.file (.text (s ++ h.logLine r))) := by
  have content : h.files.contentAt place = .text s := by rw [FileTree.contentAt, stands]
  rw [Host.record, if_pos enabled, handlers]
  simp only [List.foldl_cons, List.foldl_nil, Host.writeLine, if_pos loud]
  rw [FileTree.appendAt, content]

end Host

namespace Config

variable {c : Config} {h h' : Host} {place : Location}

/-- The host in which the file of a configuration has been written. -/
def writtenHost (c : Config) (place : Location) (h : Host) : Host :=
  { h with files := h.files.put place (.file (.text c.document.text)) }

theorem save_eq_ok (saved : c.save h = (.ok (), h'))
    (aimed : h.files.target h.base c.path = .ok place) :
    Host.hasNull c.path = false ∧ h' = (c.writtenHost place h).record (c.saveRecord none) := by
  rw [save, Run.bind_apply, Run.get_apply] at saved
  dsimp only at saved
  split at saved
  · cases saved
  · rename_i plain
    refine ⟨eq_false_of_ne_true plain, ?_⟩
    rw [FileTree.write, aimed] at saved
    dsimp only [Except.map] at saved
    rw [Run.bind_apply, Run.modify_apply] at saved
    cases flaw : c.document.mishap with
    | some mishap =>
      rw [flaw] at saved
      cases saved
    | none =>
      rw [flaw] at saved
      exact (Prod.mk.inj saved).2.symm

theorem save_of_target (plain : Host.hasNull c.path = false)
    (aimed : h.files.target h.base c.path = .ok place) (whole : c.document.mishap = none) :
    c.save h = (.ok (), (c.writtenHost place h).record (c.saveRecord none)) := by
  have files : h.files.write h.base c.path (.text c.document.text) =
      .ok (c.writtenHost place h).files := by
    rw [FileTree.write, aimed]
    rfl
  rw [save, Run.bind_apply, Run.get_apply]
  dsimp only
  rw [plain, files, whole]
  rfl

theorem writtenHost_logsElsewhere (logs : h.LogsElsewhere place) (c : Config) :
    (c.writtenHost place h).LogsElsewhere place :=
  fun handler listed => (logs handler listed).put_file place _

theorem readFile_of_located {path s : String} (plain : Host.hasNull path = false)
    (located : h.files.locate h.base path = .ok place)
    (stands : h.files.node? place = some (.file (.text s))) :
    readFile h path = readText path s := by
  have reached : (h.files.holds h.base path).mapError (Fault.file · path) = .ok true := by
    rw [FileTree.holds, located]
    rfl
  have content : h.files.content? h.base path = some (.text s) := by
    rw [FileTree.content?, located]
    dsimp only
    rw [stands]
  rw [readFile, reached, content, plain]
  simp only [Bool.false_eq_true, if_false, bind, Except.bind, Bool.not_true]

/-- The file holds the document, if no log file is there. -/
theorem readFile_of_saved (saved : c.save h = (.ok (), h'))
    (aimed : h.files.target h.base c.path = .ok place) (logs : h.LogsElsewhere place) :
    readFile h' c.path = readText c.path c.document.text := by
  obtain ⟨plain, rfl⟩ := save_eq_ok saved aimed
  obtain ⟨arrival, -, -, other⟩ := FileTree.target_eq_ok aimed
  have below := FileTree.ne_nil_of_not_directory other
  obtain ⟨retained, same⟩ := (writtenHost_logsElsewhere logs c).record (c.saveRecord none)
  have located := retained.locate (FileTree.locate_put aimed (.text c.document.text))
  refine readFile_of_located plain (by rwa [Host.record_base]) ?_
  rw [same]
  exact FileTree.node?_put_self below h.files _

/-- The record of the saving stands behind the document, if the file is a log file. -/
theorem readFile_of_saved_own (saved : c.save h = (.ok (), h'))
    (aimed : h.files.target h.base c.path = .ok place)
    (handlers : h.log.handlers = [.console n, .file m place])
    (enabled : h.log.enabled (c.saveRecord none) = true) (loud : m ≤ Log.info) :
    readFile h' c.path =
      readText c.path (c.document.text ++ h.logLine (c.saveRecord none)) := by
  obtain ⟨plain, rfl⟩ := save_eq_ok saved aimed
  obtain ⟨_, -, -, other⟩ := FileTree.target_eq_ok aimed
  have below := FileTree.ne_nil_of_not_directory other
  have written := FileTree.node?_put_self below h.files (.file (.text c.document.text))
  have line := Host.record_files_own (h := c.writtenHost place h) handlers enabled loud written
  have free : (c.writtenHost place h).files.IsFree place := by
    intro node stands
    exact ⟨_, Option.some.inj (stands.symm.trans written)⟩
  have located := FileTree.locate_put aimed (.text c.document.text)
  refine readFile_of_located plain ?_ (?_ : FileTree.node? _ place = _)
  · rw [line, Host.record_base]
    exact (FileTree.retains_put_file free _).locate located
  · rw [line]
    exact FileTree.node?_put_self below _ _

/-- A configuration is saved: its file is opened for writing, and nothing fails. -/
structure Saves (c : Config) (place : Location) (h h' : Host) : Prop where
  opened : h.files.target h.base c.path = .ok place
  saved : c.save h = (.ok (), h')

end Config

end SchemaNaming
