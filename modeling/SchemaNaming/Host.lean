import SchemaNaming.Run
import SchemaNaming.Config.Basic
import SchemaNaming.File.Tree
import SchemaNaming.Plugin.Registry

/-!
The host of a generation run: files, environment, plugins, configurations and the log. Records go
to the log when their level is enabled, and from there to every open log file.
-/

namespace SchemaNaming

namespace Log

inductive Handler where
  | console (level : Nat)
  | file (level : Nat) (place : Location)
  deriving DecidableEq, Repr, Inhabited

def Handler.level : Handler → Nat
  | .console level => level
  | .file level _ => level

structure State where
  level : Nat := info
  handlers : List Handler := [.console info]
  /-- What has been logged, oldest first. -/
  records : List Record := []
  deriving Inhabited

namespace State

def threshold (s : State) : Nat := if s.level == 0 then defaultThreshold else s.level

def enabled (s : State) (r : Record) : Bool := s.threshold ≤ r.level

end State

end Log

structure Host where
  files : FileTree := {}
  /-- The current directory. -/
  base : Location := []
  /-- The home directories of the accounts by name; the first one is the account's own. -/
  homes : Plugin.Named String := [("root", "/root")]
  /-- Where modules are searched by name. -/
  searchPath : List String := []
  environment : Plugin.Named String := []
  /-- The time that lines of log files show. -/
  clock : String := ""
  plugins : Plugin.Registry := {}
  log : Log.State := {}
  configs : Array Config := #[]
  globalConfig : Option Nat := none
  deriving Inhabited

namespace Host

def fromEnvironment? (h : Host) (name : String) : Option String := h.environment.lookup name

def levelVariable : String := "NAMEGEN_LOG_LEVEL"

def homeVariable : String := "HOME"

/-- The home directory of an account, or of the user if none is named: the one that the environment
gives comes first. -/
def home? (h : Host) (account : String) : Option String :=
  if account.isEmpty then (h.fromEnvironment? homeVariable).or (h.homes.head?.map (·.2))
  else h.homes.lookup account

def logLine (h : Host) (r : Log.Record) : String :=
  h.clock ++ " - " ++ r.logger ++ " - " ++ Log.levelName r.level ++ " - " ++ r.message ++ "\n"

def writeLine (h : Host) (r : Log.Record) (files : FileTree) (handler : Log.Handler) : FileTree :=
  match handler with
  | .console _ => files
  | .file level place => if level ≤ r.level then files.appendAt place (h.logLine r) else files

def record (h : Host) (r : Log.Record) : Host :=
  if h.log.enabled r then
    { h with
      files := h.log.handlers.foldl (h.writeLine r) h.files
      log := { h.log with records := h.log.records ++ [r] } }
  else h

def emit (r : Log.Record) : Run Host Unit := Run.modify (·.record r)

def emitAll : List Log.Record → Run Host Unit
  | [] => pure ()
  | r :: rest => do emit r; emitAll rest

/-- An absolute path for a path from the current directory, dots resolved as text. Two slashes at
the front are kept. -/
def absolute (h : Host) (path : String) : String :=
  let text := Path.ofLocation (FileTree.lexical (FileTree.startOf h.base path) (Path.names path))
  if Path.slashes path == 2 then "/" ++ text else text

def hasNull (path : String) : Bool := path.toList.contains '\x00'

/-- Opens a file for further lines; a new one begins empty. -/
def openLog (path : String) : Run Host Location := do
  let h ← Run.get
  if hasNull path then Run.fault .nullInPath
  else
    let path := h.absolute path
    match h.files.target h.base path with
    | .error reason => Run.fault (.file reason path)
    | .ok place =>
      if h.files.node? place |>.isNone then
        Run.modify (fun h => { h with files := h.files.put place (.file (.text "")) })
      pure place

/-- The level that a name asks for. -/
def levelOf (name : String) : Except Fault Nat :=
  match Log.meaning name with
  | .level n => .ok n
  | .format text => .error (.unknownLevel text)
  | .styles shown => .error (.badLevel shown)

def setLog (level : Nat) (handlers : List Log.Handler) : Run Host Unit :=
  Run.modify (fun h => { h with log := { h.log with level, handlers } })

/-- A path is a text or the bytes of one. -/
def pathOf? : Value → Option String
  | .text path => some path
  | .bytes data => String.fromUTF8? (ByteArray.mk data.toArray)
  | _ => none

/-- Sets the level of the library's log and replaces its handlers: one for the console and, when a
file is named, one for the file. -/
def setupLogging (level file : Value) : Run Host Unit := do
  let h ← Run.get
  let level : Value := match level with
    | .null => .text ((h.fromEnvironment? levelVariable).getD "INFO")
    | level => level
  match level with
  | .text name =>
    let n ← Run.check (levelOf name)
    setLog n [.console n]
    if file.isTrue then
      match pathOf? file with
      | some path =>
        let place ← openLog path
        setLog n [.console n, .file n place]
      | none => Run.fault (.notPath file.shortKindName)
  | .bytes _ => Run.fault (.notAttributeName "bytes")
  | level => Run.fault (.noAttribute (.instance level.kindName) "upper")

end Host

end SchemaNaming
