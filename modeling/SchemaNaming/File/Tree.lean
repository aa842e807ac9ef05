import SchemaNaming.File.Path
import SchemaNaming.Plugin.Source

/-!
A tree of directories, files and symbolic links. A walk follows links as it goes and needs every
name on its way to exist; the real path of a text is made without that need, name by name, and is
what assemblies are known by.
-/

namespace SchemaNaming

abbrev Location := List String

inductive Content where
  | text (s : String)
  /-- Bytes that are no text. -/
  | binary (data : List UInt8)
  | source (source : Plugin.Source)
  deriving Inhabited

inductive Node where
  | directory
  | file (content : Content)
  | link (target : String)
  deriving Inhabited

/-- No more modules are named by the source in a file, where a name stands for a module and all that
it lies in. A text has no fewer characters. -/
def Node.moduleBound : Node → Nat
  | .file (.source source) => source.loads.foldl (fun n name => n + name.length + 1) 0
  | .file (.text s) => s.length
  | _ => 0

structure FileTree where
  nodes : List (Location × Node) := []
  deriving Inhabited

/-- Where a walk ends: at a node, or one missing name below an existing directory. -/
inductive Found where
  | node (place : Location)
  | vacant (parent : Location) (name : String)
  deriving DecidableEq, Repr

namespace FileTree

def node? (t : FileTree) : Location → Option Node
  | [] => some .directory
  | place => t.nodes.lookup place

def isDirectoryAt (t : FileTree) (place : Location) : Bool :=
  match t.node? place with
  | some .directory => true
  | _ => false

def startOf (base : Location) (path : String) : Location :=
  if Path.isAbsolute path then [] else base

def linkLimit : Nat := 40

def nameLimit : Nat := 255

def pathLimit : Nat := 4095

/-- A walk along names; from a link on it goes as the second argument says, with the target's names
before the rest. -/
def walkAlong (t : FileTree) (follow : Location → List String → Except FileReason Found)
    (place : Location) : List String → Except FileReason Found
  | [] => .ok (.node place)
  | name :: rest =>
    if !t.isDirectoryAt place then .error .notDirectory
    else if name == "" || name == "." then t.walkAlong follow place rest
    else if name == ".." then t.walkAlong follow place.dropLast rest
    else if nameLimit < name.utf8ByteSize then .error .nameTooLong
    else
      match t.node? (place ++ [name]) with
      | none => if rest.isEmpty then .ok (.vacant place name) else .error .missing
      | some (.link target) => follow (startOf place target) (Path.names target ++ rest)
      | some _ => t.walkAlong follow (place ++ [name]) rest

/-- A walk that follows so many links and no more. -/
def walk (t : FileTree) : Nat → Location → List String → Except FileReason Found
  | 0 => t.walkAlong (fun _ _ => .error .tooManyLinks)
  | links + 1 => t.walkAlong (t.walk links)

def find (t : FileTree) (base : Location) (path : String) : Except FileReason Found :=
  if path.isEmpty then .error .missing
  else if pathLimit < path.utf8ByteSize then .error .nameTooLong
  else t.walk linkLimit (startOf base path) (Path.names path)

def locate (t : FileTree) (base : Location) (path : String) : Except FileReason Location :=
  match t.find base path with
  | .ok (.node place) => .ok place
  | .ok (.vacant _ _) => .error .missing
  | .error reason => .error reason

def isDirectory (t : FileTree) (base : Location) (path : String) : Bool :=
  match t.locate base path with
  | .ok place => t.isDirectoryAt place
  | .error _ => false

def content? (t : FileTree) (base : Location) (path : String) : Option Content :=
  match t.locate base path with
  | .ok place =>
    match t.node? place with
    | some (.file content) => some content
    | _ => none
  | .error _ => none

def isFile (t : FileTree) (base : Location) (path : String) : Bool :=
  (t.content? base path).isSome

/-- Whether there is anything at a path; one that is too long is no question to ask. -/
def holds (t : FileTree) (base : Location) (path : String) : Except FileReason Bool :=
  match t.locate base path with
  | .ok _ => .ok true
  | .error .nameTooLong => .error .nameTooLong
  | .error _ => .ok false

def entries (t : FileTree) (base : Location) (path : String) : List String :=
  match t.locate base path with
  | .ok place =>
    t.nodes.filterMap (fun node =>
      if node.1.dropLast == place && !node.1.isEmpty then node.1.getLast? else none)
  | .error _ => []

/-- Names applied to a place as texts, without a look at what is there. -/
def lexical (place : Location) : List String → Location
  | [] => place
  | name :: rest =>
    if name == "" || name == "." then lexical place rest
    else if name == ".." then lexical place.dropLast rest
    else lexical (place ++ [name]) rest

/-- The links met on a way, each with the place it leads to; none while it is being followed. -/
abbrev Followed := List (Location × Option Location)

/-- Where the names behind a link that leads nowhere continue: the text of the rest may begin at the
root. -/
def unresolved (place : Location) (rest : List String) : Location :=
  lexical (if rest.head? == some "" && 1 < rest.length then [] else place) rest

/-- A place, the links met on the way to it, and whether every one of them came to an end; behind
one that does not, names count as texts. -/
abbrev Reached := Location × Followed × Bool

/-- The real place of names. The second argument finds the end of a link, if links are still
followed. -/
def realAlong (t : FileTree) (follow : Option (Followed → Location → List String → Reached))
    (followed : Followed) (place : Location) : List String → Reached
  | [] => (place, followed, true)
  | name :: rest =>
    if name == "" || name == "." then t.realAlong follow followed place rest
    else if name == ".." then t.realAlong follow followed place.dropLast rest
    else
      let there := place ++ [name]
      match t.node? there with
      | some (.link target) =>
        match followed.lookup there with
        | some (some real) => t.realAlong follow followed real rest
        | some none => (unresolved there rest, followed, false)
        | none =>
          match follow with
          | none => (unresolved there rest, followed, false)
          | some endOf =>
            let (real, followed, ends) :=
              endOf ((there, none) :: followed) (startOf place target) (Path.names target)
            if ends then t.realAlong follow ((there, some real) :: followed) real rest
            else (unresolved real rest, followed, false)
      | _ => t.realAlong follow followed there rest

/-- The real place of names, with links inside links followed to a depth. -/
def realFrom (t : FileTree) : Nat → Followed → Location → List String → Reached
  | 0 => t.realAlong none
  | depth + 1 => t.realAlong (some (t.realFrom depth))

def linkCount (t : FileTree) : Nat :=
  t.nodes.countP (fun node =>
    match node.2 with
    | .link _ => true
    | _ => false)

/-- The real path; links that lead in a circle stay in it as names. -/
def realPath (t : FileTree) (base : Location) (path : String) : Location :=
  (t.realFrom t.linkCount [] (startOf base path) (Path.names path)).1

def put (t : FileTree) (place : Location) (node : Node) : FileTree :=
  if place.isEmpty then t
  else { nodes := t.nodes.filter (fun entry => entry.1 != place) ++ [(place, node)] }

def makeDirectories (t : FileTree) (place : Location) : FileTree :=
  ((List.range (place.length + 1)).map place.take).foldl (fun t place =>
    match t.node? place with
    | some _ => t
    | none => t.put place .directory) t

def target (t : FileTree) (base : Location) (path : String) : Except FileReason Location :=
  match t.find base path with
  | .ok (.node place) => if t.isDirectoryAt place then .error .isDirectory else .ok place
  | .ok (.vacant parent name) => .ok (parent ++ [name])
  | .error reason => .error reason

def write (t : FileTree) (base : Location) (path : String) (content : Content) :
    Except FileReason FileTree :=
  (t.target base path).map (fun place => t.put place (.file content))

def contentAt (t : FileTree) (place : Location) : Content :=
  match t.node? place with
  | some (.file content) => content
  | _ => .text ""

def appendAt (t : FileTree) (place : Location) (more : String) : FileTree :=
  match t.contentAt place with
  | .text s => t.put place (.file (.text (s ++ more)))
  | _ => t

def moduleBound (t : FileTree) : Nat := t.nodes.foldl (fun n node => n + node.2.moduleBound) 0

end FileTree

end SchemaNaming
