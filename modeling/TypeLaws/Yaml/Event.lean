import TypeLaws.Yaml.Layout
import TypeLaws.Yaml.Resolution

/-!
The structure of a document as a row of events: scalars, aliases, and the starts and ends of
sequences, mappings and documents. What is left out in a document, such as the value of a key,
is an empty scalar. The row is made by a machine with a stack of what has to come next.
-/

namespace TypeLaws.Yaml

inductive Event where
  | documentStart
  | documentEnd
  | streamEnd
  | alias (name : String)
  | scalar (anchor : Option String) (tag : Tag) (scalar : Scalar)
  | sequenceStart (anchor : Option String) (tag : Tag)
  | sequenceEnd
  | mappingStart (anchor : Option String) (tag : Tag)
  | mappingEnd

namespace Event

inductive Goal where
  | firstDocument
  | nextDocument
  | documentEnd
  | content
  | blockNode
  | blockEntry
  /-- An entry of a sequence whose lines are not indented. -/
  | plainEntry
  | blockKey
  | blockValue
  | flowEntry (first : Bool)
  /-- The key of a mapping that is an entry of a sequence and has no braces. -/
  | pairKey
  | pairValue
  | pairEnd
  | flowKey (first : Bool)
  | flowValue
  /-- The value of a key that stands without a colon. -/
  | noValue

structure Machine where
  goals : List Goal
  handles : Tag.Handles
  tokens : List Token
  fault : Option Fault

namespace Machine

def peek (machine : Machine) : Except Fault Token :=
  match machine.tokens with
  | token :: _ => .ok token
  | [] => .error (machine.fault.getD .order)

def drop (machine : Machine) : Machine :=
  { machine with tokens := machine.tokens.drop 1 }

def want (goals : List Goal) (machine : Machine) : Machine :=
  { machine with goals := goals ++ machine.goals }

abbrev Step := Except Fault (Event × Machine)

def emit (event : Event) (machine : Machine) : Step :=
  .ok (event, machine)

def emitNothing (machine : Machine) : Step :=
  machine.emit (.scalar none .null .empty)

/-! ### Nodes -/

structure Properties where
  anchor : Option String
  tag : Option Tag.Word

def readProperties (machine : Machine) : Except Fault (Properties × Machine) := do
  match ← machine.peek with
  | .anchor name =>
      let machine := machine.drop
      match ← machine.peek with
      | .tag word => return (⟨some name, some word⟩, machine.drop)
      | _ => return (⟨some name, none⟩, machine)
  | .tag word =>
      let machine := machine.drop
      match ← machine.peek with
      | .anchor name => return (⟨some name, some word⟩, machine.drop)
      | _ => return (⟨none, some word⟩, machine)
  | _ => return (⟨none, none⟩, machine)

/-- The tag that a node has by itself; the single exclamation mark is none. -/
inductive Tagging where
  | none
  | unspecific
  | specific (tag : Tag)

def tagging (machine : Machine) (properties : Properties) : Except Fault Tagging :=
  match properties.tag with
  | none => .ok .none
  | some word =>
      match word.resolve? machine.handles with
      | none => .error .order
      | some address =>
          .ok (if address == "!" then .unspecific else .specific (.ofAddress address))

def Tagging.getD (default : Tag) : Tagging → Tag
  | .specific tag => tag
  | _ => default

def scalarTag (plain : Bool) (chars : List Char) : Tagging → Tag
  | .specific tag => tag
  | .unspecific => Resolution.tagOf chars
  | .none => if plain then Resolution.tagOf chars else .text

/-- Reads a node. A block may start here only if `inBlock`, and a sequence whose lines are not
indented only if `asValue`. -/
def node (inBlock asValue : Bool) (machine : Machine) : Step := do
  match ← machine.peek with
  | .alias name => machine.drop.emit (.alias name)
  | _ =>
      let (properties, machine) ← machine.readProperties
      let tagging ← machine.tagging properties
      let anchor := properties.anchor
      let start := machine.drop
      match ← machine.peek, inBlock, asValue with
      | .blockEntry, _, true =>
          (machine.want [.plainEntry]).emit (.sequenceStart anchor (tagging.getD .sequence))
      | .scalar plain found, _, _ =>
          start.emit (.scalar anchor (scalarTag plain found.chars tagging) found)
      | .flowSequenceStart, _, _ =>
          (start.want [.flowEntry true]).emit (.sequenceStart anchor (tagging.getD .sequence))
      | .flowMappingStart, _, _ =>
          (start.want [.flowKey true]).emit (.mappingStart anchor (tagging.getD .mapping))
      | .blockSequenceStart, true, _ =>
          (start.want [.blockEntry]).emit (.sequenceStart anchor (tagging.getD .sequence))
      | .blockMappingStart, true, _ =>
          (start.want [.blockKey]).emit (.mappingStart anchor (tagging.getD .mapping))
      | _, _, _ =>
          if properties.anchor.isSome || properties.tag.isSome then
            machine.emit (.scalar anchor (tagging.getD .null) .empty)
          else .error .order

def nodeUnless (isLeftOut : Token → Bool) (inBlock asValue : Bool) (machine : Machine) : Step := do
  if isLeftOut (← machine.peek) then machine.emitNothing else machine.node inBlock asValue

/-! ### Documents -/

def directives (versioned : Bool) (handles : Tag.Handles) :
    List Token → Except Fault (Tag.Handles × List Token)
  | .directive (.version major) :: rest =>
      if versioned || major != 1 then .error .order else directives true handles rest
  | .directive (.tag handle address) :: rest =>
      if (handles.lookup handle).isSome then .error .order
      else directives versioned (handles ++ [(handle, address)]) rest
  | .directive .other :: rest => directives versioned handles rest
  | tokens => .ok (handles, tokens)

def nextDocument (machine : Machine) : Step := do
  let machine := { machine with
    tokens := machine.tokens.dropWhile fun token => token matches .documentEnd }
  match ← machine.peek with
  | .streamEnd => ({ machine.drop with goals := [] } : Machine).emit .streamEnd
  | _ =>
      let (handles, tokens) ← directives false [] machine.tokens
      let machine := { machine with handles := handles ++ Tag.defaultHandles, tokens }
      match ← machine.peek with
      | .documentStart => (machine.drop.want [.content, .documentEnd]).emit .documentStart
      | _ => throw .order

def firstDocument (machine : Machine) : Step := do
  match ← machine.peek with
  | .directive _ => machine.nextDocument
  | .documentStart => machine.nextDocument
  | .streamEnd => machine.nextDocument
  | _ =>
      let machine := { machine with handles := Tag.defaultHandles }
      (machine.want [.blockNode, .documentEnd]).emit .documentStart

def documentEnd (machine : Machine) : Step := do
  match ← machine.peek with
  | .documentEnd => (machine.drop.want [.nextDocument]).emit .documentEnd
  | _ => (machine.want [.nextDocument]).emit .documentEnd

def content (machine : Machine) : Step :=
  machine.nodeUnless (fun token => token matches
    .directive _ | .documentStart | .documentEnd | .streamEnd) true false

/-! ### Blocks -/

def blockEntry (machine : Machine) : Step := do
  match ← machine.peek with
  | .blockEntry =>
      (machine.drop.want [.blockEntry]).nodeUnless (fun token => token matches
        .blockEntry | .blockEnd) true false
  | .blockEnd => machine.drop.emit .sequenceEnd
  | _ => throw .order

def plainEntry (machine : Machine) : Step := do
  match ← machine.peek with
  | .blockEntry =>
      (machine.drop.want [.plainEntry]).nodeUnless (fun token => token matches
        .blockEntry | .key | .value | .blockEnd) true false
  | _ => machine.emit .sequenceEnd

def blockKey (machine : Machine) : Step := do
  match ← machine.peek with
  | .key =>
      (machine.drop.want [.blockValue]).nodeUnless (fun token => token matches
        .key | .value | .blockEnd) true true
  | .blockEnd => machine.drop.emit .mappingEnd
  | _ => throw .order

def blockValue (machine : Machine) : Step := do
  let machine := machine.want [.blockKey]
  match ← machine.peek with
  | .value =>
      machine.drop.nodeUnless (fun token => token matches .key | .value | .blockEnd) true true
  | _ => machine.emitNothing

/-! ### Brackets -/

def comma (first : Bool) (machine : Machine) : Except Fault Machine := do
  if first then return machine
  else
    match ← machine.peek with
    | .flowEntry => return machine.drop
    | _ => throw .order

def flowEntry (first : Bool) (machine : Machine) : Step := do
  match ← machine.peek with
  | .flowSequenceEnd => machine.drop.emit .sequenceEnd
  | _ =>
      let machine ← machine.comma first
      match ← machine.peek with
      | .key => (machine.want [.pairKey, .flowEntry false]).emit (.mappingStart none .mapping)
      | .flowSequenceEnd => machine.drop.emit .sequenceEnd
      | _ => (machine.want [.flowEntry false]).node false false

def pairKey (machine : Machine) : Step :=
  (machine.drop.want [.pairValue]).nodeUnless (fun token => token matches
    .value | .flowEntry | .flowSequenceEnd) false false

def pairValue (machine : Machine) : Step := do
  let machine := machine.want [.pairEnd]
  match ← machine.peek with
  | .value =>
      machine.drop.nodeUnless (fun token => token matches
        .flowEntry | .flowSequenceEnd) false false
  | _ => machine.emitNothing

def flowKey (first : Bool) (machine : Machine) : Step := do
  match ← machine.peek with
  | .flowMappingEnd => machine.drop.emit .mappingEnd
  | _ =>
      let machine ← machine.comma first
      match ← machine.peek with
      | .key =>
          (machine.drop.want [.flowValue]).nodeUnless (fun token => token matches
            .value | .flowEntry | .flowMappingEnd) false false
      | .flowMappingEnd => machine.drop.emit .mappingEnd
      | _ => (machine.want [.noValue]).node false false

def flowValue (machine : Machine) : Step := do
  let machine := machine.want [.flowKey false]
  match ← machine.peek with
  | .value =>
      machine.drop.nodeUnless (fun token => token matches
        .flowEntry | .flowMappingEnd) false false
  | _ => machine.emitNothing

/-! ### Runs -/

def reach (machine : Machine) : Goal → Step
  | .firstDocument => machine.firstDocument
  | .nextDocument => machine.nextDocument
  | .documentEnd => machine.documentEnd
  | .content => machine.content
  | .blockNode => machine.node true false
  | .blockEntry => machine.blockEntry
  | .plainEntry => machine.plainEntry
  | .blockKey => machine.blockKey
  | .blockValue => machine.blockValue
  | .flowEntry first => machine.flowEntry first
  | .pairKey => machine.pairKey
  | .pairValue => machine.pairValue
  | .pairEnd => machine.emit .mappingEnd
  | .flowKey first => machine.flowKey first
  | .flowValue => machine.flowValue
  | .noValue => (machine.want [.flowKey false]).emitNothing

/-- The events up to the first fault. `fuel` bounds their number. -/
def run : (fuel : Nat) → Machine → Row Event
  | 0, _ => ⟨[], none⟩
  | fuel + 1, machine =>
      match machine.goals with
      | [] => ⟨[], none⟩
      | goal :: goals =>
          match ({ machine with goals } : Machine).reach goal with
          | .error fault => ⟨[], some fault⟩
          | .ok (event, machine) => (run fuel machine).cons event

end Machine

/-- The events of a row of words. Each word makes a few events at most. -/
def ofTokens (tokens : Row Token) : Row Event :=
  Machine.run (4 * (tokens.items.length + 2))
    ⟨[.firstDocument], Tag.defaultHandles, tokens.items, tokens.fault⟩

end Event

end TypeLaws.Yaml
