import TypeLaws.Text.Digits
import TypeLaws.Yaml.Scalar.Basic

/-!
Block scalars: the lines below a bar or an angle bracket, as long as they are indented far enough.
The header may give the indentation and say what becomes of the last line ends.
-/

namespace TypeLaws.Yaml.Block

inductive Chomping where
  | strip
  | clip
  | keep
  deriving DecidableEq

structure Header where
  chomping : Chomping
  /-- The columns that the lines have beyond those of their parent, if the header says so. -/
  increment : Option Nat

def chomping? : Char → Option Chomping
  | '-' => some .strip
  | '+' => some .keep
  | _ => none

def readChomping (cursor : Cursor) : Option Chomping × Cursor :=
  match cursor.peek.bind chomping? with
  | some chomping => (some chomping, cursor.advance)
  | none => (none, cursor)

def readIncrement (cursor : Cursor) : Except Fault (Option Nat × Cursor) :=
  match cursor.peek with
  | some c =>
      if c.isDigit then
        if c == '0' then .error .word else .ok (some (c.toNat - '0'.toNat), cursor.advance)
      else .ok (none, cursor)
  | none => .ok (none, cursor)

def restOfLine (cursor : Cursor) : Except Fault Cursor :=
  let ahead := cursor.skipSpaces.skipComment
  match ahead.lineBreak? with
  | some (_, after) => .ok after
  | none => if ahead.rest.isEmpty then .ok ahead else .error .word

def readHeader (cursor : Cursor) : Except Fault (Header × Cursor) := do
  let (before, cursor) := readChomping cursor
  let (increment, cursor) ← readIncrement cursor
  let (behind, cursor) :=
    if before.isNone && increment.isSome then readChomping cursor else (none, cursor)
  if !endsItem cursor.peek then throw .word
  let cursor ← restOfLine cursor
  return (⟨((before.or behind).getD .clip), increment⟩, cursor)

def skipTo (indent : Nat) (cursor : Cursor) : Cursor :=
  cursor.skip (min (cursor.rest.takeWhile isSpace).length (indent - cursor.column))

theorem length_skipTo_le (indent : Nat) (cursor : Cursor) :
    (skipTo indent cursor).rest.length ≤ cursor.rest.length :=
  Cursor.length_skip_le _ _

/-- Moves past empty lines and up to `indent` columns of the next one, and gives the line ends. -/
def breaks (indent : Nat) (cursor : Cursor) : List Char × Cursor :=
  match _found : (skipTo indent cursor).lineBreak? with
  | none => ([], skipTo indent cursor)
  | some (c, after) => (c :: (breaks indent after).1, (breaks indent after).2)
termination_by cursor.rest.length
decreasing_by
  all_goals
    have smaller := Cursor.length_of_lineBreak _found
    have within := length_skipTo_le indent cursor
    omega

theorem length_breaks_le (indent : Nat) (cursor : Cursor) :
    (breaks indent cursor).2.rest.length ≤ cursor.rest.length := by
  fun_induction breaks indent cursor with
  | case1 cursor found => exact length_skipTo_le indent cursor
  | case2 cursor c after found ih =>
      have smaller := Cursor.length_of_lineBreak found
      have within := length_skipTo_le indent cursor
      simp only
      omega

/--
Moves past empty lines and all spaces in front of the first line, and gives the line ends and the
greatest number of columns found on the way.
-/
def findIndent (cursor : Cursor) : List Char × Nat × Cursor :=
  let column :=
    if (cursor.span isSpace).1.isEmpty then 0 else (cursor.span isSpace).2.column
  match _found : (cursor.span isSpace).2.lineBreak? with
  | none => ([], column, (cursor.span isSpace).2)
  | some (c, after) =>
      let (others, greatest, final) := findIndent after
      (c :: others, max column greatest, final)
termination_by cursor.rest.length
decreasing_by
  have smaller := Cursor.length_of_lineBreak _found
  have within := cursor.length_span_le isSpace
  omega

def atLine (indent : Nat) (cursor : Cursor) : Bool :=
  cursor.column == indent && !cursor.rest.isEmpty

/-- What the end of a line leaves between two lines, of which `others` are empty ones between. -/
def joint (folded : Bool) (c : Char) (others : List Char) (before behind : Option Char) :
    List Char :=
  if folded && c == '\n' && !before.any isGap && !behind.any isGap then
    if others.isEmpty then [' '] else []
  else [c]

structure Reading where
  chars : List Char
  last : Option Char
  others : List Char
  cursor : Cursor

def lines (folded : Bool) (indent : Nat) (before : List Char) (cursor : Cursor) : Reading :=
  let line := (cursor.span fun c => !isBreak c).1
  match _found : cursor.skipLine.lineBreak? with
  | none => ⟨before ++ line, none, [], cursor.skipLine⟩
  | some (c, after) =>
      let next := breaks indent after
      if atLine indent next.2 then
        let between := joint folded c next.1 cursor.peek next.2.peek
        let others := lines folded indent next.1 next.2
        { others with chars := before ++ line ++ between ++ others.chars }
      else ⟨before ++ line, some c, next.1, next.2⟩
termination_by cursor.rest.length
decreasing_by
  have smaller := Cursor.length_of_lineBreak _found
  have within : cursor.skipLine.rest.length ≤ cursor.rest.length := cursor.length_span_le _
  have behind := length_breaks_le indent after
  omega

def chomp (chomping : Chomping) (reading : Reading) : List Char :=
  reading.chars ++
    match chomping with
    | .strip => []
    | .clip => reading.last.toList
    | .keep => reading.last.toList ++ reading.others

/-- Reads a block scalar that begins with its bar or angle bracket. Its lines have one column at
least, and `least` of them if that is more. -/
def read (folded : Bool) (least : Nat) (cursor : Cursor) :
    Except Fault (List Char × Cursor) := do
  let (header, cursor) ← readHeader cursor.advance
  let least := max least 1
  let (before, indent, cursor) := match header.increment with
    | some increment =>
        let indent := least + increment - 1
        let (before, cursor) := breaks indent cursor
        (before, indent, cursor)
    | none =>
        let (before, greatest, cursor) := findIndent cursor
        (before, max least greatest, cursor)
  let reading :=
    if atLine indent cursor then lines folded indent before cursor
    else ⟨[], none, before, cursor⟩
  return (chomp header.chomping reading, reading.cursor)

end TypeLaws.Yaml.Block
