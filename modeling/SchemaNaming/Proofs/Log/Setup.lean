import SchemaNaming.Host

/-!
What setting up the log does to its level and its handlers. Whatever handlers there are, they give
way to one for the console and, behind it, one for the file if there is one. The file is opened last,
so one that cannot be opened leaves the new level and the console alone; only a level that is refused
leaves everything as it was. So the log always has one handler for the console and at most one for a
file, all of them at its own level.
-/

namespace SchemaNaming

namespace Log.State

/-- One handler for the console, and one for a file behind it or none, at the level of the log. -/
def IsSetUp (s : State) : Prop :=
  s.handlers = [.console s.level] ∨ ∃ place, s.handlers = [.console s.level, .file s.level place]

end Log.State

namespace Host
open Log

variable {h t : Host} {level file : Value} {n : Nat}

/-- The level that a value names, or else the environment. -/
def levelFor (h : Host) : Value → Except Fault Nat
  | .null => levelOf ((h.fromEnvironment? levelVariable).getD "INFO")
  | .text name => levelOf name
  | .bytes _ => .error (.notAttributeName "bytes")
  | level => .error (.noAttribute (.instance level.kindName) "upper")

/-- The place of the log file that a value names. -/
def logPlace (h : Host) (file : Value) : Except Fault Location :=
  match pathOf? file with
  | none => .error (.notPath file.shortKindName)
  | some path =>
    if hasNull path then .error .nullInPath
    else (h.files.target h.base (h.absolute path)).mapError (.file · (h.absolute path))

def withHandlers (h : Host) (level : Nat) (handlers : List Handler) : Host :=
  { h with log := { h.log with level, handlers } }

/-- A log file that is not there yet begins empty. -/
def withLogFile (h : Host) (place : Location) : Host :=
  if (h.files.node? place).isNone then { h with files := h.files.put place (.file (.text "")) }
  else h

/-- How a set-up ends, and what it leaves behind. -/
inductive SetsUp (h : Host) (level file : Value) : Except Failure Unit → Host → Prop where
  | refused {fault : Fault} (refuses : h.levelFor level = .error fault) :
    SetsUp h level file (.error (.of fault)) h
  | console {n : Nat} (levels : h.levelFor level = .ok n) (fileless : file.isTrue = false) :
    SetsUp h level file (.ok ()) (h.withHandlers n [.console n])
  | unopened {n : Nat} {fault : Fault} (levels : h.levelFor level = .ok n)
    (filed : file.isTrue = true) (closed : h.logPlace file = .error fault) :
    SetsUp h level file (.error (.of fault)) (h.withHandlers n [.console n])
  | opened {n : Nat} {place : Location} (levels : h.levelFor level = .ok n)
    (filed : file.isTrue = true) (opens : h.logPlace file = .ok place) :
    SetsUp h level file (.ok ())
      ((h.withLogFile place).withHandlers n [.console n, .file n place])

theorem openLog_ok {path : String} (plain : hasNull path = false)
    (aimed : h.files.target h.base (h.absolute path) = .ok place) :
    openLog path h = (.ok place, h.withLogFile place) := by
  cases vacant : (h.files.node? place).isNone with
  | true => simp only [openLog, Run.bind_apply, Run.get_apply, plain, aimed, withLogFile, vacant,
      Bool.false_eq_true, if_false, if_true, Run.modify_apply, Run.pure_apply]
  | false => simp only [openLog, Run.bind_apply, Run.get_apply, plain, aimed, withLogFile, vacant,
      Bool.false_eq_true, if_false, Run.pure_apply]

theorem openLog_error {path : String} (plain : hasNull path = false)
    (aimed : h.files.target h.base (h.absolute path) = .error reason) :
    openLog path h = (.error (.of (.file reason (h.absolute path))), h) := by
  simp only [openLog, Run.bind_apply, Run.get_apply, plain, aimed, Bool.false_eq_true, if_false,
    Run.fault_apply]

theorem openLog_null {path : String} (null : hasNull path = true) :
    openLog path h = (.error (.of .nullInPath), h) := by
  simp only [openLog, Run.bind_apply, Run.get_apply, null, if_true, Run.fault_apply]

/-- Opens the log file that a value names. -/
def openNamed (file : Value) : Run Host Location :=
  match pathOf? file with
  | some path => openLog path
  | none => Run.fault (.notPath file.shortKindName)

theorem openNamed_apply (file : Value) (h : Host) :
    openNamed file h =
      match h.logPlace file with
      | .ok place => (.ok place, h.withLogFile place)
      | .error fault => (.error (.of fault), h) := by
  cases named : pathOf? file with
  | none => simp only [openNamed, logPlace, named, Run.fault_apply]
  | some path =>
    simp only [openNamed, logPlace, named]
    cases null : hasNull path with
    | true => simp only [openLog_null null, if_true]
    | false =>
      cases aimed : h.files.target h.base (h.absolute path) with
      | error reason => exact openLog_error null aimed
      | ok place => exact openLog_ok null aimed

/-- What is left to do once the level is known. -/
def replaceHandlers (file : Value) (n : Nat) : Run Host Unit := do
  setLog n [.console n]
  if file.isTrue then
    match pathOf? file with
    | some path =>
      let place ← openLog path
      setLog n [.console n, .file n place]
    | none => Run.fault (.notPath file.shortKindName)

theorem setupLogging_eq (level file : Value) (h : Host) :
    setupLogging level file h = (Run.check (h.levelFor level) >>= replaceHandlers file) h := by
  cases level <;> rfl

theorem replaceHandlers_of_fileless (fileless : file.isTrue = false) (n : Nat) (h : Host) :
    replaceHandlers file n h = (.ok (), h.withHandlers n [.console n]) := by
  simp only [replaceHandlers, fileless, Bool.false_eq_true, if_false]
  rfl

theorem replaceHandlers_of_filed (filed : file.isTrue = true) (n : Nat) (h : Host) :
    replaceHandlers file n h =
      (openNamed file >>= fun place => setLog n [.console n, .file n place])
        (h.withHandlers n [.console n]) := by
  simp only [replaceHandlers, openNamed, filed, if_true]
  cases pathOf? file <;> rfl

theorem withHandlers_withLogFile (h : Host) (place : Location) (n m : Nat)
    (first last : List Handler) :
    ((h.withHandlers n first).withLogFile place).withHandlers m last =
      (h.withLogFile place).withHandlers m last := by
  have same : (h.withHandlers n first).files = h.files := rfl
  rw [withLogFile, withLogFile, same]
  split <;> rfl

theorem setupLogging_setsUp (level file : Value) (h : Host) :
    SetsUp h level file (setupLogging level file h).1 (setupLogging level file h).2 := by
  rw [setupLogging_eq, Run.bind_apply]
  cases levels : h.levelFor level with
  | error fault => exact .refused levels
  | ok n =>
    rw [Run.check_ok]
    cases filed : file.isTrue with
    | false =>
      dsimp only
      rw [replaceHandlers_of_fileless filed]
      exact .console levels filed
    | true =>
      -- The place of the file does not depend on the handlers.
      have same : (h.withHandlers n [.console n]).logPlace file = h.logPlace file := rfl
      dsimp only
      rw [replaceHandlers_of_filed filed, Run.bind_apply, openNamed_apply, same]
      cases opens : h.logPlace file with
      | error fault => exact .unopened levels filed opens
      | ok place =>
        have opened := SetsUp.opened levels filed opens
        rw [← withHandlers_withLogFile h place n n [.console n]] at opened
        exact opened

/-- The host behind set-ups in a row, whatever becomes of each. -/
def afterSetups (requests : List (Value × Value)) (h : Host) : Host :=
  requests.foldl (fun h request => (setupLogging request.1 request.2 h).2) h

theorem SetsUp.isSetUp (setUp : SetsUp h level file outcome t) (before : h.log.IsSetUp) :
    t.log.IsSetUp := by
  cases setUp with
  | refused => exact before
  | console => exact .inl rfl
  | unopened => exact .inl rfl
  | opened => exact .inr ⟨_, rfl⟩

theorem afterSetups_isSetUp (requests : List (Value × Value)) (before : h.log.IsSetUp) :
    (afterSetups requests h).log.IsSetUp := by
  induction requests generalizing h with
  | nil => exact before
  | cons request rest ih => exact ih ((setupLogging_setsUp request.1 request.2 h).isSetUp before)

end Host

end SchemaNaming
