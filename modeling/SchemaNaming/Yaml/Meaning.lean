import SchemaNaming.Yaml.Node
import SchemaNaming.Yaml.Scalar

/-!
Values of node graphs. First every node that the document needs is settled, collections in the order
in which they are met: scalars get their values, and mappings take in the entries that they merge.
Then the values are put together from the root; a node inside itself becomes a reference to the
value around it.
-/

namespace SchemaNaming.Yaml

namespace Graph

def node (g : Graph) (id : Nat) : Node := g.nodes.getD id default

def tag (g : Graph) (id : Nat) : Tag := (g.node id).tag

def entries (g : Graph) (id : Nat) : List (Nat × Nat) :=
  match (g.node id).shape with
  | .mapping entries => entries
  | _ => []

def modify (g : Graph) (id : Nat) (f : Node → Node) : Graph :=
  { g with nodes := g.nodes.modify id f }

def entryCount (g : Graph) : Nat :=
  g.nodes.foldl (fun n node =>
    match node.shape with
    | .mapping entries => n + entries.length
    | _ => n) 0

end Graph

structure Settling where
  graph : Graph
  /-- The values of the scalars met so far. -/
  scalars : Array (Option Value)
  met : Array Bool
  /-- The collections to be settled, first met first. -/
  waiting : List Nat := []
  deriving Inhabited

abbrev Settle := StateT Settling (Except Refusal)

namespace Settle

def refuse : Settle α := throw .malformed

def graph : Settle Graph := do return (← get).graph

def modifyNode (id : Nat) (f : Node → Node) : Settle Unit :=
  modify (fun s => { s with graph := s.graph.modify id f })

def setEntries (id : Nat) (entries : List (Nat × Nat)) : Settle Unit :=
  modifyNode id (fun n => { n with shape := .mapping entries })

/-- The mark of a default entry is the text of a key where mappings are concerned. -/
def nameDefaults (id : Nat) : Settle Unit := do
  for (key, _) in (← graph).entries id do
    if (← graph).tag key == .default then modifyNode key (fun n => { n with tag := .text })

mutual

/-- Takes the merging entries out of a mapping, one after the other, and gives the entries that they
bring. -/
def gather : Nat → Nat → Settle (List (Nat × Nat))
  | 0, _ => return []
  | fuel + 1, id => do
    let g ← graph
    let entries := g.entries id
    let isPlain (entry : Nat × Nat) : Bool := g.tag entry.1 != .merge
    match entries.dropWhile isPlain with
    | [] => return []
    | (_, value) :: after =>
      setEntries id (entries.takeWhile isPlain ++ after)
      let brought ← match (g.node value).shape with
        | .mapping _ => do
          flatten fuel value
          pure ((← graph).entries value)
        | .sequence items => sources fuel items
        | .scalar _ => refuse
      let more ← gather fuel id
      return brought ++ more
termination_by structural fuel => fuel

/-- Puts the entries that a mapping merges before its own. -/
def flatten : Nat → Nat → Settle Unit
  | 0, _ => return ()
  | fuel + 1, id => do
    let brought ← gather fuel id
    nameDefaults id
    if !brought.isEmpty then setEntries id (brought ++ (← graph).entries id)
termination_by structural fuel => fuel

def sources : Nat → List Nat → Settle (List (Nat × Nat))
  | 0, _ => return []
  | _, [] => return []
  | fuel + 1, id :: rest => do
    match ((← graph).node id).shape with
    | .mapping _ =>
      flatten fuel id
      let own := (← graph).entries id
      let others ← sources fuel rest
      return others ++ own
    | _ => refuse
termination_by structural fuel => fuel

end

/-- The text of a scalar. A mapping stands for its default entry. -/
def scalarText : Nat → Nat → Settle (List Char)
  | 0, _ => throw (.mishap (.nestedTooDeep ""))
  | fuel + 1, id => do
    let g ← graph
    match (g.node id).shape with
    | .scalar cs => return cs
    | .sequence _ => refuse
    | .mapping entries =>
      match entries.find? (fun entry => g.tag entry.1 == .default) with
      | some (_, value) => scalarText fuel value
      | none => refuse

def isScalar : Shape → Bool
  | .scalar _ => true
  | _ => false

/-- Meets a node: a scalar has its value at once, a collection waits. -/
def meet (id : Nat) : Settle Unit := do
  let s ← get
  if !s.met.getD id true then
    set { s with met := s.met.setIfInBounds id true }
    let n := s.graph.node id
    if n.tag.isCollection then modify (fun s => { s with waiting := s.waiting ++ [id] })
    else
      match n.tag with
      | .merge | .default | .unknown => refuse
      | _ => pure ()
      let cs ← scalarText (s.graph.nodes.size + 1) id
      if n.tag == .timestamp && !isScalar n.shape then throw (.mishap (.notMatchable "list"))
      let v ← StateT.lift (scalarValue n.tag cs)
      modify (fun s => { s with scalars := s.scalars.setIfInBounds id (some v) })

def meetEntries : List (Nat × Nat) → Settle Unit
  | [] => return ()
  | (key, value) :: rest => do
    meet key
    if ((← graph).tag key).isCollection then refuse
    meet value
    meetEntries rest

/-- A pair is a mapping of one entry. -/
def meetPairs : List Nat → Settle Unit
  | [] => return ()
  | id :: rest => do
    match ((← graph).node id).shape with
    | .mapping [(key, value)] =>
      meet key
      meet value
      meetPairs rest
    | _ => refuse

def settle (id : Nat) : Settle Unit := do
  let g ← graph
  let n := g.node id
  match n.tag, n.shape with
  | .list, .sequence items => items.forM meet
  | .pairs, .sequence items => meetPairs items
  | .dict, .mapping _ | .set, .mapping _ =>
    flatten (2 * (g.entryCount + g.nodes.size) + 2) id
    meetEntries ((← graph).entries id)
  | _, _ => refuse

/-- Every node waits once at most. -/
def settleAll : Nat → Settle Unit
  | 0 => return ()
  | fuel + 1 => do
    let s ← get
    match s.waiting with
    | [] => return ()
    | id :: rest =>
      set { s with waiting := rest }
      settle id
      settleAll fuel

def document (root : Nat) : Settle Unit := do
  meet root
  settleAll ((← graph).nodes.size + 1)

end Settle

abbrev Assembled := Array (Option Value)

def labelled (g : Graph) (id : Nat) (recurs : Bool) (v : Value) : Value :=
  if g.hasAlias then .labelled id recurs v else v

def compose (g : Graph) (id : Nat) (parts : List Value) : Value :=
  let rec pairUp : List Value → List (Value × Value)
    | key :: value :: rest => (key, value) :: pairUp rest
    | _ => []
  match g.tag id with
  | .dict => Value.dictOf (pairUp parts)
  | .set => .set ((Value.entriesOf (pairUp parts)).map (·.1))
  | .pairs => .list ((pairUp parts).map (fun entry => .tuple [entry.1, entry.2]))
  | _ => .list parts

/-- The nodes whose values a collection is made of. -/
def partsOf (g : Graph) (id : Nat) : List Nat :=
  match (g.node id).shape with
  | .scalar _ => []
  | .mapping entries => entries.flatMap (fun entry => [entry.1, entry.2])
  | .sequence items =>
    if g.tag id == .pairs then
      (items.flatMap g.entries).flatMap (fun entry => [entry.1, entry.2])
    else items

/-- The value of a node inside others, and the nodes around it that the value refers to. The first
argument bounds the depth, the third holds the nodes around. -/
def assemble (s : Settling) : Nat → List Nat → Nat → StateM Assembled (Value × List Nat)
  | 0, _, _ => return (.null, [])
  | fuel + 1, outer, id => do
    let tag := s.graph.tag id
    match (← get).getD id none with
    | some v => return (v, [])
    | none =>
      if !tag.isCollection then
        let v := (s.scalars.getD id none).getD .null
        return (if tag == .timestamp then labelled s.graph id false v else v, [])
      else if outer.contains id then return (.around id (tag != .dict), [id])
      else
        let parts ← (partsOf s.graph id).mapM (assemble s fuel (id :: outer))
        let inner := parts.flatMap (·.2)
        let v := labelled s.graph id (inner.contains id) (compose s.graph id (parts.map (·.1)))
        let outside := (inner.filter (· != id)).eraseDups
        if outside.isEmpty then modify (fun done => done.setIfInBounds id (some v))
        return (v, outside)

def valueOf (cs : List Char) : Except Refusal Value := do
  let (graph, root) ← graphOf cs
  match root with
  | none => return .null
  | some root =>
    let size := graph.nodes.size
    let start : Settling :=
      { graph, scalars := Array.replicate size none, met := Array.replicate size false }
    let (_, settled) ← (Settle.document root).run start
    let ((v, _), _) := (assemble settled (size + 1) [] root).run (Array.replicate size none)
    return v

end SchemaNaming.Yaml
