import TypeLaws.Yaml.Scalar.Basic

/-!
Plain scalars, which have no quotation marks. They end at a comment, at a colon that stands for
the value of a key, at a line that is indented too little and, inside of brackets, at a character
that has a meaning there.
-/

namespace TypeLaws.Yaml.Plain

/-- A colon before this character stands for the value of a key. -/
def endsKey (inFlow : Bool) (next : Option Char) : Bool :=
  endsWord next || (inFlow && next.any fun c => ",[]\x7b\x7d".toList.contains c)

def run (inFlow : Bool) : List Char → List Char
  | [] => []
  | c :: rest =>
      if isGap c || isBreak c then []
      else if c == ':' && endsKey inFlow rest.head? then []
      else if inFlow && ",?[]\x7b\x7d".toList.contains c then []
      else c :: run inFlow rest

def breaks (cursor : Cursor) : Option (List Char) × Cursor :=
  match _found : cursor.skipSpaces.lineBreak? with
  | none => (some [], cursor.skipSpaces)
  | some (c, after) =>
      if atSeparator after.rest then (none, after)
      else
        let (others, final) := breaks after
        (others.map (c :: ·), final)
termination_by cursor.rest.length
decreasing_by
  have smaller := Cursor.length_of_lineBreak _found
  have within := cursor.length_skipSpaces_le
  omega

structure Gap where
  text : Option (List Char)
  onNewLine : Bool
  cursor : Cursor

def gap (cursor : Cursor) : Gap :=
  let (spaces, ahead) := cursor.span isSpace
  match ahead.lineBreak? with
  | none => ⟨if spaces.isEmpty then none else some spaces, false, ahead⟩
  | some (c, after) =>
      if atSeparator after.rest then ⟨none, true, after⟩
      else
        let (others, final) := breaks after
        ⟨others.map (foldBreaks c), true, final⟩

structure Reading where
  chars : List Char
  onNewLine : Bool
  cursor : Cursor

/--
Reads the runs of a scalar that belongs to lines of at least `indent` columns, the first run
behind `between`. `fuel` bounds the number of runs.
-/
def runs (inFlow : Bool) (indent : Nat) :
    (fuel : Nat) → (between : List Char) → (onNewLine : Bool) →
    Cursor → Reading
  | 0, _, onNewLine, cursor => ⟨[], onNewLine, cursor⟩
  | fuel + 1, between, onNewLine, cursor =>
      let chars := run inFlow cursor.rest
      if cursor.peek == some '#' || chars.isEmpty then ⟨[], onNewLine, cursor⟩
      else
        let gap := gap (cursor.skip chars.length)
        match gap.text with
        | none => ⟨between ++ chars, gap.onNewLine, gap.cursor⟩
        | some text =>
            if gap.cursor.peek == some '#' || (!inFlow && gap.cursor.column < indent) then
              ⟨between ++ chars, gap.onNewLine, gap.cursor⟩
            else
              let others := runs inFlow indent fuel text gap.onNewLine gap.cursor
              ⟨between ++ chars ++ others.chars, others.onNewLine, others.cursor⟩

/-- Reads a plain scalar. Every run takes a character at least. -/
def read (inFlow : Bool) (indent : Nat) (cursor : Cursor) : Reading :=
  runs inFlow indent cursor.rest.length [] false cursor

end TypeLaws.Yaml.Plain
