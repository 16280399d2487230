import TypeLaws.Text.LineEnd
import TypeLaws.Value.Equality
import TypeLaws.Yaml.Graph
import TypeLaws.Yaml.Literal

/-!
The value of a document. Nodes are built level by level: a node that holds others is first empty
and is filled in when all nodes met before it have been, so that a node may lie inside of itself.
Before a mapping is filled in, the mappings under its merge keys are put in front of its entries.

Documents are assumed to be read as the package `PyYAML` reads them with its safe loader, and the
modules from the characters on up to here say what that is: which piece of a text is looked at first,
how its words, its nodes and their kinds are found by the first version of the format, what a value
of each kind is, and by which kind of error, though not with which text, a reading ends. How deep a
document may be nested is left open.
-/

namespace TypeLaws.Yaml

/--
A key. The value that is no number differs from itself, but is the same key in all places of one
node; the value that its word stands for is the same key everywhere.
-/
structure Key where
  value : Value
  origin : Option Nat

def Key.same (a b : Key) : Bool :=
  match a.value, b.value with
  | .float .nan, .float .nan => a.origin == b.origin
  | a, b => a.equal b

inductive Built where
  | plain (value : Value)
  | list (items : List Nat)
  | pairs (items : List (Nat × Nat))
  | dict (entries : List (Key × Nat))
  | set (keys : List Key)

structure Construction where
  nodes : Array Node
  built : List (Nat × Built)
  waiting : List Nat

namespace Construction

def initial (graph : Graph) : Construction := ⟨graph.nodes, [], []⟩

def keep (id : Nat) (result : Built) (making : Construction) : Construction :=
  { making with built := (id, result) :: making.built }

/-! ### Scalars -/

def standIn? (nodes : Array Node) (entries : List (Nat × Nat)) : Option Nat :=
  (entries.find? fun entry => (nodes[entry.1]?.map Node.tag) == some .standIn).map Prod.snd

/-- The scalar that a node is or has as a stand-in. `fuel` bounds the number of steps to it. -/
def scalarOf (nodes : Array Node) : (fuel : Nat) → Nat → Except Fault Scalar
  | 0, _ => .error .value
  | fuel + 1, id =>
      match nodes[id]? with
      | some (.scalar _ scalar) => .ok scalar
      | some (.mapping _ entries) =>
          match standIn? nodes entries with
          | some id => scalarOf nodes fuel id
          | none => .error .value
      | _ => .error .value

/-- The value of a node of a scalar kind. A moment has to be a scalar itself. -/
def valueOf? (nodes : Array Node) (id : Nat) (node : Node) : Option (Except Fault Value) :=
  let scalar := scalarOf nodes (nodes.size + 1) id
  match scalar, Literal.valueOf? node.tag .empty with
  | _, none => none
  | .error fault, some _ => some (.error fault)
  | .ok scalar, some _ =>
      match node, node.tag with
      | .mapping _ _, .timestamp => some (.error (.unreadable .momentNotText))
      | _, tag => Literal.valueOf? tag scalar

def holdsOthers (tag : Tag) : Bool :=
  [Tag.sequence, .mapping, .set, .orderedMapping, .pairs].contains tag

/-- Builds a node, unless it has been built; one that holds others is left to be filled in. -/
def visit (making : Construction) (id : Nat) : Except Fault Construction :=
  if (making.built.lookup id).isSome then .ok making
  else
    match making.nodes[id]? with
    | none => .error .value
    | some node =>
        match valueOf? making.nodes id node with
        | some (.ok value) => .ok (making.keep id (.plain value))
        | some (.error fault) => .error fault
        | none =>
            if holdsOthers node.tag then
              .ok { making.keep id (.list []) with waiting := making.waiting ++ [id] }
            else .error .value

/-! ### Merging -/

def isMerge (nodes : Array Node) (entry : Nat × Nat) : Bool :=
  (nodes[entry.1]?.map Node.tag) == some .merge

def entriesOf (nodes : Array Node) (id : Nat) : List (Nat × Nat) :=
  match nodes[id]? with
  | some (.mapping _ entries) => entries
  | _ => []

def setEntries (entries : List (Nat × Nat)) : Node → Node
  | .mapping tag _ => .mapping tag entries
  | node => node

def asText : Node → Node
  | .scalar .standIn scalar => .scalar .text scalar
  | .sequence .standIn items => .sequence .text items
  | .mapping .standIn entries => .mapping .text entries
  | node => node

def isMapping : Node → Bool
  | .mapping _ _ => true
  | _ => false

/-- The mappings that a merge key asks for, the last one first. -/
def sources (nodes : Array Node) (id : Nat) : Except Fault (List Nat) :=
  match nodes[id]? with
  | some (.mapping _ _) => .ok [id]
  | some (.sequence _ items) => .ok items.reverse
  | _ => .error .value

/--
Puts the entries of merged mappings, after `merged`, in front of those of a mapping. Each step
takes away one merge key, so `fuel` may be the number of all entries.
-/
def flatten : (fuel : Nat) → Nat → (merged : List (Nat × Nat)) → Array Node →
    Except Fault (Array Node)
  | 0, _, _, _ => .error .value
  | fuel + 1, id, merged, nodes =>
      let entries := entriesOf nodes id
      match entries.find? (isMerge nodes) with
      | none =>
          let nodes := entries.foldl (fun nodes entry => nodes.modify entry.1 asText) nodes
          .ok (nodes.modify id (setEntries (merged ++ entries)))
      | some (key, value) => do
          let nodes := nodes.modify id (setEntries (entries.erase (key, value)))
          let ids ← sources nodes value
          let nodes ← ids.reverse.foldlM (fun nodes id => do
            if (nodes[id]?.any isMapping) then flatten fuel id [] nodes else throw .value) nodes
          flatten fuel id (merged ++ ids.flatMap (entriesOf nodes)) nodes

def entryCount (nodes : Array Node) : Nat :=
  nodes.foldl (fun count node =>
    match node with
    | .mapping _ entries => count + entries.length
    | _ => count) 0

/-! ### Filling in -/

def originOf (nodes : Array Node) (id : Nat) : Option Nat :=
  match scalarOf nodes (nodes.size + 1) id with
  | .ok scalar => if Literal.isNaNWord scalar.points then none else some id
  | .error _ => some id

def key? (making : Construction) (id : Nat) : Option Key :=
  match making.built.lookup id with
  | some (.plain value) => some ⟨value, originOf making.nodes id⟩
  | _ => none

def insertEntry (key : Key) (value : Nat) : List (Key × Nat) → List (Key × Nat)
  | [] => [(key, value)]
  | (k, v) :: rest =>
      if key.same k then (k, value) :: rest else (k, v) :: insertEntry key value rest

/-- Builds the entries of a mapping. A key that holds others is none. -/
def fillEntries (making : Construction) (entries : List (Nat × Nat)) :
    Except Fault (Construction × List (Key × Nat)) :=
  entries.foldlM (fun (making, filled) (key, value) => do
    let making ← making.visit key
    match making.key? key with
    | none => throw .value
    | some found =>
        let making ← making.visit value
        return (making, insertEntry found value filled)) (making, [])

def fillPairs (making : Construction) (items : List Nat) :
    Except Fault (Construction × List (Nat × Nat)) :=
  items.foldlM (fun (making, filled) item => do
    match entriesOf making.nodes item with
    | [(key, value)] =>
        let making ← (← making.visit key).visit value
        return (making, filled ++ [(key, value)])
    | _ => throw .value) (making, [])

def fill (making : Construction) (id : Nat) : Except Fault Construction :=
  match making.nodes[id]? with
  | some (.sequence .sequence items) => do
      let making ← items.foldlM visit making
      return making.keep id (.list items)
  | some (.sequence .orderedMapping items) => do
      let (making, filled) ← making.fillPairs items
      return making.keep id (.pairs filled)
  | some (.sequence .pairs items) => do
      let (making, filled) ← making.fillPairs items
      return making.keep id (.pairs filled)
  | some (.mapping .mapping _) => do
      let nodes ← flatten (entryCount making.nodes + 1) id [] making.nodes
      let making := { making with nodes }
      let (making, filled) ← making.fillEntries (entriesOf nodes id)
      return making.keep id (.dict filled)
  | some (.mapping .set _) => do
      let nodes ← flatten (entryCount making.nodes + 1) id [] making.nodes
      let making := { making with nodes }
      let (making, filled) ← making.fillEntries (entriesOf nodes id)
      return making.keep id (.set (filled.map Prod.fst))
  | _ => .error .value

def fillAll : (fuel : Nat) → Construction → Except Fault Construction
  | 0, making => .ok making
  | fuel + 1, making =>
      match making.waiting with
      | [] => .ok making
      | id :: waiting => do
          let making ← { making with waiting }.fill id
          fillAll fuel making

/-! ### Values -/

/-- A set, of which only matters whether it is empty. -/
def setValue (keys : List Key) : Value :=
  .foreign "set" "set()" "set()" (!keys.isEmpty)

/-- The value of a node, down to a depth below which rows and mappings are shown empty. -/
def view (making : Construction) : (depth : Nat) → Nat → Value
  | 0, id =>
      match making.built.lookup id with
      | some (.plain value) => value
      | some (.dict _) => .dict []
      | some (.set keys) => setValue keys
      | _ => .list []
  | depth + 1, id =>
      match making.built.lookup id with
      | some (.plain value) => value
      | some (.list items) => .list (items.map (making.view depth))
      | some (.pairs items) =>
          .list (items.map fun item =>
            .tuple [making.view depth item.1, making.view depth item.2])
      | some (.dict entries) =>
          .dict (entries.map fun entry => (entry.1.value, making.view depth entry.2))
      | some (.set keys) => setValue keys
      | none => .null

end Construction

namespace Document

/-- A text is taken in piece by piece; the first piece has the size of two. -/
def pieceSize : Nat := 4096

def piecesBefore (place : Nat) : Nat :=
  if place < 2 * pieceSize then 0 else place / pieceSize * pieceSize

/-- The words of a text. None is found in a piece with a character that no document may hold. -/
def tokens (text : List Char) : Row Token :=
  let allowed := (text.takeWhile isAllowed).length
  if allowed = text.length then Token.ofText false text
  else Token.ofText true (text.take (piecesBefore allowed))

def graph (text : String) : Except Fault (Option Graph) :=
  Graph.ofEvents (Event.ofTokens (tokens (Text.unifyLineEnds text.toList)))

/-- The value of a document down to a depth. The empty document has the null value. -/
def value (depth : Nat) (text : String) : Except Fault Value := do
  match ← graph text with
  | none => return .null
  | some graph =>
      let making ← (Construction.initial graph).visit graph.root
      let making ← making.fillAll (graph.nodes.size + 1)
      return making.view depth graph.root

end Document

end TypeLaws.Yaml
