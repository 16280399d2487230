import TypeLaws.Text.Digits
import TypeLaws.Yaml.Cursor
import TypeLaws.Yaml.Fault

/-!
Tags: the kinds of value that a node may stand for, the addresses of these kinds, and the words by
which a document names them: a whole address in angle brackets, or a handle and the rest of one.
-/

namespace TypeLaws.Yaml

inductive Tag where
  | null
  | bool
  | int
  | float
  | binary
  | timestamp
  | text
  | sequence
  | mapping
  | set
  | orderedMapping
  | pairs
  /-- The kind of the key whose value is merged into a mapping. -/
  | merge
  /-- The kind of the key whose value stands for a mapping. -/
  | standIn
  | other
  deriving DecidableEq, Inhabited

namespace Tag

def namespaceAddress : String := "tag:yaml.org,2002:"

def known : List (String × Tag) :=
  [("null", .null), ("bool", .bool), ("int", .int), ("float", .float), ("binary", .binary),
    ("timestamp", .timestamp), ("str", .text), ("seq", .sequence), ("map", .mapping),
    ("set", .set), ("omap", .orderedMapping), ("pairs", .pairs), ("merge", .merge),
    ("value", .standIn)]

def ofAddress (address : String) : Tag :=
  ((known.find? fun entry => namespaceAddress ++ entry.1 == address).map Prod.snd).getD .other

/-- A tag as it is written: a handle, unless it is written in angle brackets, and an address. -/
structure Word where
  handle : Option String
  address : String
  deriving DecidableEq

abbrev Handles := List (String × String)

def defaultHandles : Handles :=
  [("!", "!"), ("!!", namespaceAddress)]

def Word.resolve? (handles : Handles) (word : Word) : Option String :=
  match word.handle with
  | none => some word.address
  | some handle => (handles.lookup handle).map (· ++ word.address)

/-- Reads a handle: an exclamation mark, or two of them around a name that may be empty. -/
def readHandle (cursor : Cursor) : Except Fault (String × Cursor) :=
  match cursor.rest with
  | '!' :: rest =>
      if rest.head? == some ' ' then .ok ("!", cursor.advance)
      else
        let (name, after) := cursor.advance.span isNameChar
        if after.peek == some '!' then
          .ok (String.ofList ('!' :: (name ++ ['!'])), after.advance)
        else .error after.refusal
  | _ => .error cursor.refusal

def escapedBytes : List Char → Except Fault (List UInt8)
  | '%' :: a :: b :: rest =>
      match Text.hexDigit? a, Text.hexDigit? b with
      | some a, some b => do
          let others ← escapedBytes rest
          return UInt8.ofNat (16 * a + b) :: others
      | _, _ => .error .word
  | ['%', a] => .error (if (Text.hexDigit? a).isSome then .unfinished else .word)
  | ['%'] => .error .unfinished
  | _ => .ok []

def decodeBytes (octets : List UInt8) : Except Fault (List Char) :=
  match String.fromUTF8? ⟨octets.toArray⟩ with
  | some decoded => .ok decoded.toList
  | none => .error .word

/-- Reads the rest of an address. `fuel` bounds the number of its parts. -/
def addressParts : (fuel : Nat) → Cursor → Except Fault (List Char × Cursor)
  | 0, cursor => .ok ([], cursor)
  | fuel + 1, cursor =>
      match cursor.rest with
      | [] => .ok ([], cursor)
      | c :: _ =>
          if c == '%' then do
            let octets ← escapedBytes cursor.rest
            let chars ← decodeBytes octets
            let (others, final) ← addressParts fuel (cursor.skip (3 * octets.length))
            return (chars ++ others, final)
          else if isAddressChar c then do
            let (others, final) ← addressParts fuel cursor.advance
            return (c :: others, final)
          else .ok ([], cursor)

def readAddress (cursor : Cursor) : Except Fault (String × Cursor) := do
  let (chars, after) ← addressParts cursor.rest.length cursor
  if chars.isEmpty then throw after.refusal else return (String.ofList chars, after)

/-- Another exclamation mark follows before the next gap. -/
def hasHandle (text : List Char) : Bool :=
  (text.takeWhile fun c => !(isSpace c || isBreak c)).contains '!'

def read (cursor : Cursor) : Except Fault (Word × Cursor) := do
  let ahead := cursor.advance
  let (word, after) ←
    if ahead.peek == some '<' then do
      let (address, after) ← readAddress ahead.advance
      if after.peek == some '>' then pure ((⟨none, address⟩ : Word), after.advance)
      else throw after.refusal
    else if endsWord ahead.peek then pure (⟨none, "!"⟩, ahead)
    else do
      let (handle, ahead) ←
        if hasHandle ahead.rest then readHandle cursor else pure ("!", ahead)
      let (address, after) ← readAddress ahead
      pure (⟨some handle, address⟩, after)
  if endsItem after.peek then return (word, after) else throw .word

end Tag

end TypeLaws.Yaml
