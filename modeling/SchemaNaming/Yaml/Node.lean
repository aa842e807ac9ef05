import SchemaNaming.Yaml.Plain
import SchemaNaming.Yaml.Token

/-!
Nodes of YAML documents. A node has a tag and holds a scalar, items or entries; nodes refer to each
other by number, so that an alias is the very node of its anchor, and a node may lie inside itself.
-/

namespace SchemaNaming.Yaml

inductive Shape where
  | scalar (cs : List Char)
  | sequence (items : List Nat)
  | mapping (entries : List (Nat × Nat))
  deriving DecidableEq, Repr, Inhabited

structure Node where
  tag : Tag
  shape : Shape
  deriving DecidableEq, Repr, Inhabited

structure Graph where
  nodes : Array Node := #[]
  /-- Whether any node is referred to by an alias. -/
  hasAlias : Bool := false
  deriving Repr, Inhabited

/-- A graph under construction, and what there is to construct it from. -/
structure Draft where
  tokens : Array Token
  /-- Why there are no more tokens, if there should be. -/
  stop : Option Refusal
  position : Nat := 0
  graph : Graph := {}
  anchors : List (String × Nat) := []
  handles : List (String × String) := standardHandles
  deriving Inhabited

abbrev Build := StateT Draft (Except Refusal)

namespace Build

def refuse : Build α := throw .malformed

def peek : Build Token := do
  let d ← get
  match d.tokens[d.position]? with
  | some t => return t
  | none => throw (d.stop.getD .malformed)

def pass : Build Unit := modify (fun d => { d with position := d.position + 1 })

def passing (t : Token) : Build Bool := do
  if (← peek) == t then
    pass
    return true
  else return false

def expect (t : Token) : Build Unit := do
  if !(← passing t) then refuse

def add (n : Node) (anchor : Option String) : Build Nat := do
  let d ← get
  let id := d.graph.nodes.size
  set { d with
    graph := { d.graph with nodes := d.graph.nodes.push n }
    anchors := match anchor with
      | some name => (name, id) :: d.anchors
      | none => d.anchors }
  return id

def fill (id : Nat) (shape : Shape) : Build Unit :=
  modify (fun d => { d with
    graph := { d.graph with nodes := d.graph.nodes.modify id (fun n => { n with shape }) } })

def absent : Build Nat := add ⟨kindOf [], .scalar []⟩ none

def aliased (name : String) : Build Nat := do
  let d ← get
  match d.anchors.lookup name with
  | some id =>
    set { d with graph := { d.graph with hasAlias := true } }
    return id
  | none => refuse

structure Properties where
  anchor : Option String := none
  /-- The text of its tag, unless it leaves the kind open. -/
  tag : Option String := none
  isOpen : Bool := false

def Properties.isEmpty (p : Properties) : Bool := p.anchor.isNone && p.tag.isNone && !p.isOpen

def withTag (p : Properties) (t : TagName) : Build Properties := do
  let name ← StateT.lift (t.resolve (← get).handles)
  if name == openName then return { p with isOpen := true } else return { p with tag := some name }

/-- An anchor and a tag, in either order. -/
def properties : Build Properties := do
  match ← peek with
  | .anchor name =>
    pass
    match ← peek with
    | .tag t =>
      pass
      withTag { anchor := some name } t
    | _ => return { anchor := some name }
  | .tag t =>
    pass
    match ← peek with
    | .anchor name =>
      pass
      withTag { anchor := some name } t
    | _ => withTag {} t
  | _ => return {}

def checkAnchor (p : Properties) : Build Unit := do
  match p.anchor with
  | some name => if ((← get).anchors.lookup name).isSome then refuse
  | none => return ()

def Properties.tagOr (p : Properties) (other : Tag) : Tag := (p.tag.map Tag.ofText).getD other

/-- The kind of a scalar: an open one is found like that of plain text. -/
def Properties.scalarTag (p : Properties) (cs : List Char) (isPlain : Bool) : Tag :=
  p.tagOr (if isPlain || p.isOpen then kindOf cs else .text)

def depthLimit : Nat := 485

/-- A collection of a kind. Its node stands before those in it, which may refer to it. -/
def collection (depth : Nat) (p : Properties) (tag : Tag) (read : Build Shape) : Build Nat := do
  checkAnchor p
  if depthLimit < depth then
    throw (.mishap (.nestedTooDeep " while calling a Python object"))
  let id ← add ⟨p.tagOr tag, .sequence []⟩ p.anchor
  fill id (← read)
  return id

def nodeUnless (ends : List Token) (read : Build Nat) : Build Nat := do
  if ends.contains (← peek) then absent else read

def valueUnless (ends : List Token) (read : Build Nat) : Build Nat := do
  if ← passing .value then nodeUnless ends read else absent

def itemEnds : List Token := [.comma, .flowSequenceEnd]

def entryEnds : List Token := [.comma, .flowMappingEnd]

def blockEnds : List Token := [.key, .value, .blockEnd]

mutual

/-- A node at a depth. 'blocks' allows a block to begin here, and 'hanging' items without a block of
their own. -/
def node (depth : Nat) (blocks hanging : Bool) : Nat → Build Nat
  | 0 => refuse
  | fuel + 1 => do
    match ← peek with
    | .alias name =>
      pass
      aliased name
    | _ =>
      let p ← properties
      match ← peek, blocks, hanging with
      | .scalar cs isPlain, _, _ =>
        checkAnchor p
        pass
        add ⟨p.scalarTag cs (isPlain && p.tag.isNone), .scalar cs⟩ p.anchor
      | .item, _, true =>
        collection depth p .list (do return .sequence (← hangingItems (depth + 1) fuel))
      | .flowSequence, _, _ =>
        pass
        collection depth p .list (do return .sequence (← flowItems (depth + 1) true fuel))
      | .flowMapping, _, _ =>
        pass
        collection depth p .dict (do return .mapping (← flowEntries (depth + 1) true fuel))
      | .blockSequence, true, _ =>
        pass
        collection depth p .list (do return .sequence (← blockItems (depth + 1) fuel))
      | .blockMapping, true, _ =>
        pass
        collection depth p .dict (do return .mapping (← blockEntries (depth + 1) fuel))
      | _, _, _ =>
        if p.isEmpty then refuse
        else
          checkAnchor p
          add ⟨p.scalarTag [] p.tag.isNone, .scalar []⟩ p.anchor
termination_by structural fuel => fuel

/-- The items of a bracket; an item may be a single entry of a mapping. -/
def flowItems (depth : Nat) (first : Bool) : Nat → Build (List Nat)
  | 0 => refuse
  | fuel + 1 => do
    if ← passing .flowSequenceEnd then return []
    else
      if !first then expect .comma
      if ← passing .flowSequenceEnd then return []
      else
        let id ←
          if ← passing .key then
            collection depth {} .dict do
              let key ← nodeUnless (.value :: itemEnds) (node (depth + 1) false false fuel)
              let value ← valueUnless itemEnds (node (depth + 1) false false fuel)
              return .mapping [(key, value)]
          else node depth false false fuel
        let more ← flowItems depth false fuel
        return id :: more
termination_by structural fuel => fuel

/-- The entries of a brace; a key may stand alone. -/
def flowEntries (depth : Nat) (first : Bool) : Nat → Build (List (Nat × Nat))
  | 0 => refuse
  | fuel + 1 => do
    if ← passing .flowMappingEnd then return []
    else
      if !first then expect .comma
      if ← passing .flowMappingEnd then return []
      else
        let entry ←
          if ← passing .key then do
            let key ← nodeUnless (.value :: entryEnds) (node depth false false fuel)
            let value ← valueUnless entryEnds (node depth false false fuel)
            pure (key, value)
          else do
            let key ← node depth false false fuel
            pure (key, ← absent)
        let more ← flowEntries depth false fuel
        return entry :: more
termination_by structural fuel => fuel

def blockItems (depth : Nat) : Nat → Build (List Nat)
  | 0 => refuse
  | fuel + 1 => do
    if ← passing .item then
      let id ← nodeUnless [.item, .blockEnd] (node depth true false fuel)
      let more ← blockItems depth fuel
      return id :: more
    else
      expect .blockEnd
      return []
termination_by structural fuel => fuel

/-- Items at the column of the key before them. -/
def hangingItems (depth : Nat) : Nat → Build (List Nat)
  | 0 => refuse
  | fuel + 1 => do
    if ← passing .item then
      let id ← nodeUnless (.item :: blockEnds) (node depth true false fuel)
      let more ← hangingItems depth fuel
      return id :: more
    else return []
termination_by structural fuel => fuel

def blockEntries (depth : Nat) : Nat → Build (List (Nat × Nat))
  | 0 => refuse
  | fuel + 1 => do
    if ← passing .key then
      let key ← nodeUnless blockEnds (node depth true true fuel)
      let value ← valueUnless blockEnds (node depth true true fuel)
      let more ← blockEntries depth fuel
      return (key, value) :: more
    else
      expect .blockEnd
      return []
termination_by structural fuel => fuel

end

/-- The directives at the front: at most one version, which is known, and each handle once. -/
def directives : Nat → Bool → List (String × String) → Build (List (String × String))
  | 0, _, handles => return handles
  | fuel + 1, hasVersion, handles => do
    match ← peek with
    | .directive (.version major) =>
      if hasVersion || major != 1 then refuse
      pass
      directives fuel true handles
    | .directive (.lead handle text) =>
      if (handles.lookup handle).isSome then refuse
      pass
      directives fuel hasVersion ((handle, text) :: handles)
    | .directive .other =>
      pass
      directives fuel hasVersion handles
    | _ => return handles

/-- Marks of the end of a document, as many as there are. -/
def passEnds : Nat → Build Unit
  | 0 => return ()
  | fuel + 1 => do
    if ← passing .documentEnd then passEnds fuel

def startTokens : Token → Bool
  | .directive _ | .documentStart | .documentEnd | .streamEnd => true
  | _ => false

def document : Build (Option Nat) := do
  let fuel := 4 * (← get).tokens.size + 8
  match ← peek with
  | .streamEnd => return none
  | .directive _ | .documentStart =>
    let handles ← directives fuel false []
    modify (fun d => { d with handles := handles ++ standardHandles })
    expect .documentStart
    let id ← if startTokens (← peek) then absent else node 0 true false fuel
    passEnds fuel
    expect .streamEnd
    return some id
  | _ =>
    let id ← node 0 true false fuel
    passEnds fuel
    expect .streamEnd
    return some id

end Build

/-- The graph of a document and the node that is the document; none if it is empty. -/
def graphOf (cs : List Char) : Except Refusal (Graph × Option Nat) := do
  let (tokens, stop) := tokens cs
  let (root, draft) ← Build.document.run { tokens, stop }
  return (draft.graph, root)

end SchemaNaming.Yaml
