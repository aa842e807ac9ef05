import SchemaNaming.Info

/-!
The command line: reports the active configuration of the current directory. Only the configuration
files are read from outside; lines that the run adds to log files are written back.
-/

open SchemaNaming

namespace SchemaNaming.Main

def variableNames : List String :=
  [Config.fileVariable, Host.levelVariable, Host.homeVariable] ++
    Slot.all.map Config.overrideVariable

def readEnvironment : IO (Plugin.Named String) :=
  variableNames.filterMapM (fun name => do
    return (← IO.getEnv name).map (fun value => (name, value)))

/-- The text at a path, put into a tree. -/
def addFile (base : Location) (files : FileTree) (path : String) : IO FileTree := do
  let place := FileTree.lexical (FileTree.startOf base path) (Path.names path)
  try
    let text ← IO.FS.readFile (Path.ofLocation place)
    return (files.makeDirectories place.dropLast).put place (.file (.text text))
  catch _ => return files

def readHost : IO Host := do
  let base := Path.steps (← IO.currentDir).toString
  let environment ← readEnvironment
  let named := environment.lookup Config.fileVariable
  let paths := [Config.defaultYaml, Config.defaultJson] ++ named.toList
  let files ← paths.foldlM (addFile base) (({} : FileTree).makeDirectories base)
  return { files, base, searchPath := [Path.ofLocation base], environment,
           plugins := Plugin.Library.registry }

/-- Writes the texts that differ from those before. -/
def writeBack (old new : FileTree) : IO Unit :=
  new.nodes.forM (fun (place, node) => do
    match node, old.node? place with
    | .file (.text s), some (.file (.text t)) =>
      if s != t then IO.FS.writeFile (Path.ofLocation place) s
    | .file (.text s), none => IO.FS.writeFile (Path.ofLocation place) s
    | _, _ => return ())

def printRecord (r : Log.Record) : IO Unit :=
  IO.eprintln (r.logger ++ " - " ++ Log.levelName r.level ++ " - " ++ r.message)

end SchemaNaming.Main

def main : IO UInt32 := do
  let host ← Main.readHost
  let (result, after) := Info.command host
  after.log.records.forM Main.printRecord
  Main.writeBack host.files after.files
  match result with
  | .ok (status, lines) =>
    lines.forM (fun line => IO.println line)
    match status with
    | .success => return 0
    | .failure => return 1
    | .stopped text =>
      IO.eprintln text
      return 1
  | .error failure =>
    Info.heading.forM (fun line => IO.println line)
    IO.eprintln failure.message
    return 1
