import TypeLaws.Yaml.Scalar.Block
import TypeLaws.Yaml.Scalar.Plain
import TypeLaws.Yaml.Scalar.Quoted
import TypeLaws.Yaml.Token

/-!
The words of a document in order. A word is given out only when it is certain that no word has to
be put in front of it: a node may turn out to be the key of a mapping when the colon behind it is
met, which must be on the same line and near. Lines that are indented more than those before
start a block, and lines that are indented less end blocks.
-/

namespace TypeLaws.Yaml

/-- A word that may turn out to be the start of a key. -/
structure Candidate where
  level : Nat
  number : Nat
  /-- It must turn out to be a key, because its line starts where keys of a block stand. -/
  required : Bool
  index : Nat
  line : Nat
  column : Nat

structure Layout where
  cursor : Cursor
  /-- The text does not end where its characters do, but nothing more of it can be had. -/
  isCut : Bool
  level : Nat
  columns : List Nat
  queue : List Token
  given : Nat
  keyAllowed : Bool
  candidates : List Candidate
  finished : Bool

namespace Layout

def initial (isCut : Bool) (text : List Char) : Layout :=
  { cursor := .start text, isCut, level := 0, columns := [], queue := [], given := 0,
    keyAllowed := true, candidates := [], finished := false }

def inFlow (layout : Layout) : Bool := layout.level != 0

/-- The least column of lines below the innermost block. -/
def below (layout : Layout) : Nat :=
  match layout.columns with
  | [] => 0
  | column :: _ => column + 1

def push (token : Token) (layout : Layout) : Layout :=
  { layout with queue := layout.queue ++ [token] }

def moveTo (cursor : Cursor) (layout : Layout) : Layout :=
  { layout with cursor }

def allowKey (allowed : Bool) (layout : Layout) : Layout :=
  { layout with keyAllowed := allowed }

/-! ### Blocks -/

/-- Ends the blocks whose lines start behind a column, but none inside of brackets. -/
def closeBeyond (isBeyond : Nat → Bool) (layout : Layout) : Layout :=
  if layout.inFlow then layout
  else
    let closed := layout.columns.takeWhile isBeyond
    { layout with
      columns := layout.columns.dropWhile isBeyond
      queue := layout.queue ++ closed.map fun _ => .blockEnd }

def closeAll (layout : Layout) : Layout :=
  layout.closeBeyond fun _ => true

def opensAt (column : Nat) (layout : Layout) : Bool :=
  layout.below ≤ column

def openBlock (column : Nat) (layout : Layout) : Layout :=
  { layout with columns := column :: layout.columns }

def openWith (token : Token) (layout : Layout) : Layout :=
  if layout.opensAt layout.cursor.column then
    (layout.openBlock layout.cursor.column).push token
  else layout

/-! ### Candidates for keys -/

def dropStale (layout : Layout) : Except Fault Layout :=
  let isStale := fun (candidate : Candidate) =>
    candidate.line != layout.cursor.line || 1024 < layout.cursor.index - candidate.index
  if layout.candidates.any fun candidate => isStale candidate && candidate.required then
    .error .word
  else
    .ok { layout with candidates := layout.candidates.filter fun candidate => !isStale candidate }

def candidate? (layout : Layout) : Option Candidate :=
  layout.candidates.find? fun candidate => candidate.level == layout.level

def forget (layout : Layout) : Layout :=
  { layout with
    candidates := layout.candidates.filter fun candidate => candidate.level != layout.level }

def dropCandidate (layout : Layout) : Except Fault Layout :=
  if layout.candidate?.any Candidate.required then .error .word else .ok layout.forget

def addCandidate (layout : Layout) : Except Fault Layout :=
  if layout.keyAllowed then do
    let layout ← layout.dropCandidate
    let cursor := layout.cursor
    let candidate : Candidate :=
      { level := layout.level
        number := layout.given + layout.queue.length
        required := !layout.inFlow && layout.columns.head? == some cursor.column
        index := cursor.index
        line := cursor.line
        column := cursor.column }
    return { layout with candidates := layout.candidates ++ [candidate] }
  else .ok layout

def insertBefore (candidate : Candidate) (tokens : List Token) (layout : Layout) : Layout :=
  let place := candidate.number - layout.given
  { layout with queue := layout.queue.take place ++ tokens ++ layout.queue.drop place }

/-! ### Between words -/

/-- Moves past gaps, comments and line ends. Outside of brackets a new line may start a key. -/
def skipGaps (inFlow keyAllowed : Bool) (cursor : Cursor) : Bool × Cursor :=
  match _found : cursor.skipSpaces.skipComment.lineBreak? with
  | none => (keyAllowed, cursor.skipSpaces.skipComment)
  | some (_, after) => skipGaps inFlow (keyAllowed || !inFlow) after
termination_by cursor.rest.length
decreasing_by
  have smaller := Cursor.length_of_lineBreak _found
  have first := cursor.length_skipSpaces_le
  have second := cursor.skipSpaces.length_skipComment_le
  omega

def toWord (layout : Layout) : Layout :=
  let cursor := layout.cursor
  let cursor :=
    if cursor.index == 0 && cursor.peek == some byteOrderMark then cursor.advance else cursor
  let (keyAllowed, cursor) := skipGaps layout.inFlow layout.keyAllowed cursor
  { layout with cursor, keyAllowed }

/-! ### Words -/

def readEnd (layout : Layout) : Except Fault Layout := do
  let layout ← layout.closeAll.dropCandidate
  return { layout.push .streamEnd with keyAllowed := false, candidates := [], finished := true }

def readDirective (layout : Layout) : Except Fault Layout := do
  let layout ← layout.closeAll.dropCandidate
  let (directive, after) ← Token.readDirective layout.cursor
  return ((layout.allowKey false).moveTo after).push (.directive directive)

def readSeparator (token : Token) (layout : Layout) : Except Fault Layout := do
  let layout ← layout.closeAll.dropCandidate
  return ((layout.allowKey false).moveTo (layout.cursor.skip 3)).push token

def readOpening (token : Token) (layout : Layout) : Except Fault Layout := do
  let layout ← layout.addCandidate
  return { (layout.moveTo layout.cursor.advance).push token with
    level := layout.level + 1, keyAllowed := true }

def readClosing (token : Token) (layout : Layout) : Except Fault Layout := do
  let layout ← layout.dropCandidate
  return { (layout.moveTo layout.cursor.advance).push token with
    level := layout.level - 1, keyAllowed := false }

def readSign (token : Token) (keyAllowed : Bool) (layout : Layout) : Except Fault Layout := do
  let layout ← (layout.allowKey keyAllowed).dropCandidate
  return (layout.moveTo layout.cursor.advance).push token

def readBlockSign (opening token : Token) (keyAllowed : Bool) (layout : Layout) :
    Except Fault Layout :=
  if layout.inFlow then layout.readSign token keyAllowed
  else if layout.keyAllowed then (layout.openWith opening).readSign token keyAllowed
  else .error .word

/-- The sign of a value. The candidate, if there is one, is now known to be its key. -/
def readValueSign (layout : Layout) : Except Fault Layout :=
  match layout.candidate? with
  | none => layout.readBlockSign .blockMappingStart .value (!layout.inFlow)
  | some candidate =>
      let layout := layout.forget
      let layout :=
        if !layout.inFlow && layout.opensAt candidate.column then
          (layout.openBlock candidate.column).insertBefore candidate [.blockMappingStart, .key]
        else layout.insertBefore candidate [.key]
      .ok (((layout.allowKey false).moveTo layout.cursor.advance).push .value)

def readNodeWord (read : Cursor → Except Fault (Token × Cursor)) (layout : Layout) :
    Except Fault Layout := do
  let layout ← layout.addCandidate
  let (token, after) ← read layout.cursor
  return ((layout.allowKey false).moveTo after).push token

def readBlockScalar (folded : Bool) (layout : Layout) : Except Fault Layout := do
  let layout ← (layout.allowKey true).dropCandidate
  let (chars, after) ← Block.read folded layout.below layout.cursor
  return (layout.moveTo after).push (.scalar false (.ofChars chars))

/-- A plain scalar. A key may start behind it if its line has ended. -/
def readPlain (layout : Layout) : Except Fault Layout := do
  let layout ← layout.addCandidate
  let reading := Plain.read layout.inFlow layout.below layout.cursor
  return ((layout.allowKey reading.onNewLine).moveTo reading.cursor).push
    (.scalar true (.ofChars reading.chars))

def startsPlain (inFlow : Bool) (c : Char) (next : Option Char) : Bool :=
  !(isGap c || isBreak c || "-?:,[]\x7b\x7d#&*!|>'\"%@`".toList.contains c) ||
    (!endsWord next && (c == '-' || (!inFlow && (c == '?' || c == ':'))))

def readWord (c : Char) (rest : List Char) (layout : Layout) : Except Fault Layout :=
  let next := rest.head?
  let atStart := layout.cursor.column == 0
  let isSign := layout.inFlow || endsWord next
  if c == '%' && atStart then layout.readDirective
  else if c == '-' && atStart && atSeparator (c :: rest) then layout.readSeparator .documentStart
  else if c == '.' && atStart && atSeparator (c :: rest) then layout.readSeparator .documentEnd
  else if c == '[' then layout.readOpening .flowSequenceStart
  else if c == '\x7b' then layout.readOpening .flowMappingStart
  else if c == ']' then layout.readClosing .flowSequenceEnd
  else if c == '\x7d' then layout.readClosing .flowMappingEnd
  else if c == ',' then layout.readSign .flowEntry true
  else if c == '-' && endsWord next then
    layout.readBlockSign .blockSequenceStart .blockEntry true
  else if c == '?' && isSign then
    layout.readBlockSign .blockMappingStart .key (!layout.inFlow)
  else if c == ':' && isSign then layout.readValueSign
  else if c == '*' then layout.readNodeWord fun cursor => do
    let (name, after) ← Token.readName cursor
    return (.alias name, after)
  else if c == '&' then layout.readNodeWord fun cursor => do
    let (name, after) ← Token.readName cursor
    return (.anchor name, after)
  else if c == '!' then layout.readNodeWord fun cursor => do
    let (word, after) ← Tag.read cursor
    return (.tag word, after)
  else if c == '|' && !layout.inFlow then layout.readBlockScalar false
  else if c == '>' && !layout.inFlow then layout.readBlockScalar true
  else if c == '\'' || c == '"' then layout.readNodeWord fun cursor => do
    let (scalar, after) ← Quoted.read (c == '"') cursor
    return (.scalar false scalar, after)
  else if startsPlain layout.inFlow c next then layout.readPlain
  else .error .word

def checkCut (layout : Layout) : Except Fault Layout :=
  if layout.isCut && layout.cursor.rest.isEmpty then .error .character else .ok layout

/-- A word that ends with its text may go on where the text has been cut off. -/
def orCut (layout : Layout) : Except Fault Layout → Except Fault Layout
  | .error .unfinished => .error (if layout.isCut then .character else .unfinished)
  | .error fault => .error fault
  | .ok layout => layout.checkCut

def readNext (layout : Layout) : Except Fault Layout := do
  let layout ← (← layout.toWord.checkCut).dropStale
  let column := layout.cursor.column
  let layout := layout.closeBeyond fun start => column < start
  match layout.cursor.rest with
  | [] => layout.readEnd
  | c :: rest => layout.orCut (layout.readWord c rest)

/-! ### Giving out -/

def isWaiting (layout : Layout) : Bool :=
  layout.queue.isEmpty ||
    layout.candidates.any fun candidate => candidate.number ≤ layout.given

/--
The words from here on, up to the first fault. `fuel` bounds how often a word is read or given
out.
-/
def tokens : (fuel : Nat) → Layout → Row Token
  | 0, _ => ⟨[], none⟩
  | fuel + 1, layout =>
      let ready := if layout.finished || layout.queue.isEmpty then .ok layout else layout.dropStale
      match ready with
      | .error fault => ⟨[], some fault⟩
      | .ok layout =>
          if !layout.finished && layout.isWaiting then
            match layout.readNext with
            | .error fault => ⟨[], some fault⟩
            | .ok layout => tokens fuel layout
          else
            match layout.queue with
            | [] => ⟨[], none⟩
            | token :: queue =>
                (tokens fuel { layout with queue, given := layout.given + 1 }).cons token

end Layout

/-- The words of a document. Each character makes a few words at most. -/
def Token.ofText (isCut : Bool) (text : List Char) : Row Token :=
  Layout.tokens (8 * (text.length + 2)) (.initial isCut text)

end TypeLaws.Yaml
