import TypeLaws.Yaml.Scalar.Basic

/-!
Quoted scalars. Between apostrophes only the apostrophe is special, and is written twice. Between
double quotation marks a backslash begins an escape. In both, the lines are folded into one.
-/

namespace TypeLaws.Yaml.Quoted

def breaks (cursor : Cursor) : Except Fault (List Char × Cursor) :=
  if atSeparator cursor.rest then .error .word
  else
    match _found : (cursor.span isGap).2.lineBreak? with
    | none => .ok ([], (cursor.span isGap).2)
    | some (c, after) => do
        let (others, final) ← breaks after
        return (c :: others, final)
termination_by cursor.rest.length
decreasing_by
  have smaller := Cursor.length_of_lineBreak _found
  have within := cursor.length_span_le isGap
  omega

def named? : Char → Option Char
  | '0' => some '\x00'
  | 'a' => some '\x07'
  | 'b' => some '\x08'
  | 't' => some '\t'
  | '\t' => some '\t'
  | 'n' => some '\n'
  | 'v' => some '\x0b'
  | 'f' => some '\x0c'
  | 'r' => some '\r'
  | 'e' => some '\x1b'
  | ' ' => some ' '
  | '"' => some '"'
  | '\\' => some '\\'
  | '/' => some '/'
  | 'N' => some '\u0085'
  | '_' => some '\u00a0'
  | 'L' => some '\u2028'
  | 'P' => some '\u2029'
  | _ => none

def codeWidth? : Char → Option Nat
  | 'x' => some 2
  | 'u' => some 4
  | 'U' => some 8
  | _ => none

def ofCode (code : Nat) : Except Fault Scalar :=
  if 0x80000000 ≤ code then .error (.unreadable .codeTooLarge)
  else
    match CodePoint.ofNat? code with
    | some point => .ok ⟨[point]⟩
    | none => .error (.unreadable .codeOutOfRange)

def code (width : Nat) (text : List Char) : Except Fault Scalar :=
  match (text.take width).mapM Text.hexDigit? with
  | some digits =>
      if digits.length = width then ofCode (Text.positional 16 0 digits) else .error .unfinished
  | none => .error .word

def escape (cursor : Cursor) : Except Fault (Scalar × Cursor) :=
  match cursor.rest with
  | [] => .error .unfinished
  | c :: rest =>
      match named? c, codeWidth? c with
      | some named, _ => .ok (.ofChars [named], cursor.advance)
      | none, some width => do
          let scalar ← code width rest
          return (scalar, cursor.skip (width + 1))
      | none, none =>
          if isBreak c then do
            let (chars, after) ← breaks cursor.advance
            return (.ofChars chars, after)
          else .error .word

def gap (cursor : Cursor) : Except Fault (List Char × Cursor) :=
  let (blanks, ahead) := cursor.span isGap
  match ahead.lineBreak? with
  | some (first, after) => do
      let (others, final) ← breaks after
      return (foldBreaks first others, final)
  | none => if ahead.rest.isEmpty then .error .unfinished else .ok (blanks, ahead)

/--
Reads up to the closing quotation mark, and past it. `fuel` bounds the number of characters,
escapes and gaps.
-/
def body (double : Bool) : (fuel : Nat) → Cursor → Except Fault (Scalar × Cursor)
  | 0, _ => .error .word
  | fuel + 1, cursor =>
      match cursor.rest with
      | [] => .error .unfinished
      | c :: rest =>
          if !double && c == '\'' && rest.head? == some '\'' then
            behind fuel (.ofChars ['\'']) (cursor.skip 2)
          else if c == (if double then '"' else '\'') then .ok (.empty, cursor.advance)
          else if double && c == '\\' then do
            let (scalar, after) ← escape cursor.advance
            behind fuel scalar after
          else if isGap c || isBreak c then do
            let (chars, after) ← gap cursor
            behind fuel (.ofChars chars) after
          else behind fuel (.ofChars [c]) cursor.advance
where
  behind (fuel : Nat) (part : Scalar) (cursor : Cursor) : Except Fault (Scalar × Cursor) := do
    let (others, final) ← body double fuel cursor
    return (part.append others, final)

def read (double : Bool) (cursor : Cursor) : Except Fault (Scalar × Cursor) :=
  body double (cursor.rest.length + 1) cursor.advance

end TypeLaws.Yaml.Quoted
