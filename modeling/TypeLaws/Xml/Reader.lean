import TypeLaws.Text.Digits
import TypeLaws.Text.LineEnd
import TypeLaws.Text.Range
import TypeLaws.Xml.Basic

/-!
Reading XML documents: elements with attributes, text, and references to characters. A document
that is read is well-formed: tags match, the attributes of an element have distinct names, markup
stands for itself nowhere else, and only characters that XML can hold are there. Comments,
instructions, sections of plain data and document types are refused.

Line ends and the blanks in attributes are normalised as they are for every reader of XML. This
reader stands in for the parser `expat`, of which no more is assumed than that it takes the documents
of this kind that are well-formed, and takes them so.
-/

namespace TypeLaws.Xml

/-! ### Characters -/

def isBlank (c : Char) : Bool :=
  c == ' ' || c == '\t' || c == '\n' || c == '\r'

def nameStarts : Text.Ranges :=
  [(0x3A, 0x3A), (0x41, 0x5A), (0x5F, 0x5F), (0x61, 0x7A), (0xC0, 0xD6), (0xD8, 0xF6),
    (0xF8, 0x2FF), (0x370, 0x37D), (0x37F, 0x1FFF), (0x200C, 0x200D), (0x2070, 0x218F),
    (0x2C00, 0x2FEF), (0x3001, 0xD7FF), (0xF900, 0xFDCF), (0xFDF0, 0xFFFD), (0x10000, 0xEFFFF)]

def nameRest : Text.Ranges :=
  [(0x2D, 0x2E), (0x30, 0x39), (0xB7, 0xB7), (0x300, 0x36F), (0x203F, 0x2040)]

def isNameChar (c : Char) : Bool :=
  nameStarts.has c || nameRest.has c

def isName : List Char → Bool
  | [] => false
  | c :: rest => nameStarts.has c && rest.all isNameChar

/-! ### References -/

def numbered? (base : Nat) (digits : List Char) : Option Char := do
  let values ← digits.mapM Text.hexDigit?
  if values.isEmpty || values.any (base ≤ ·) then none
  else
    let point := Text.positional base 0 values
    if point.isValidChar && isChar (Char.ofNat point) then some (Char.ofNat point) else none

def predefined : List (String × Char) :=
  [("amp", '&'), ("lt", '<'), ("gt", '>'), ("quot", '"'), ("apos", '\'')]

def referred? : List Char → Option Char
  | '#' :: 'x' :: digits => numbered? 16 digits
  | '#' :: digits => numbered? 10 digits
  | name => predefined.lookup (String.ofList name)

/--
What a row of characters and references denotes. `plain` says what a character gives that is no part
of a reference; `pending` is the part of a reference that has been read, backward.
-/
def decode (plain : Char → Option Char) : (pending : Option (List Char)) → List Char →
    Option (List Char)
  | none, [] => some []
  | some _, [] => none
  | none, c :: rest =>
      if c == '&' then decode plain (some []) rest
      else do return (← plain c) :: (← decode plain none rest)
  | some name, c :: rest =>
      if c == ';' then do return (← referred? name.reverse) :: (← decode plain none rest)
      else decode plain (some (c :: name)) rest

def plainText (c : Char) : Option Char :=
  if isChar c && c != '<' then some c else none

/-- In attributes a blank of any kind is a space. -/
def plainValue (c : Char) : Option Char :=
  if isBlank c then some ' ' else plainText c

def value? (raw : List Char) : Option String := do
  return String.ofList (← decode plainValue none (Text.unifyLineEnds raw))

def hasSectionEnd : List Char → Bool
  | [] => false
  | c :: rest => [']', ']', '>'].isPrefixOf (c :: rest) || hasSectionEnd rest

def content? (raw : List Char) : Option String :=
  -- The mark that ends a section of plain data may not stand in text.
  if hasSectionEnd raw then none
  else do return String.ofList (← decode plainText none (Text.unifyLineEnds raw))

/-! ### Tags -/

/-- What is inside a tag, up to the first closing bracket that is not quoted, and what follows. -/
def splitTag : (quote : Option Char) → List Char → Option (List Char × List Char)
  | _, [] => none
  | none, c :: rest =>
      if c == '>' then some ([], rest)
      else
        (splitTag (if c == '"' || c == '\'' then some c else none) rest).map
          fun (inside, after) => (c :: inside, after)
  | some quote, c :: rest =>
      (splitTag (if c == quote then none else some quote) rest).map
        fun (inside, after) => (c :: inside, after)

theorem length_splitTag_lt {quote : Option Char} {text inside after : List Char}
    (split : splitTag quote text = some (inside, after)) : after.length < text.length := by
  induction text generalizing quote inside with
  | nil => cases quote <;> cases split
  | cons c rest ih =>
      have further {next : Option Char}
          (found : (splitTag next rest).map (fun (inside, after) => (c :: inside, after)) =
            some (inside, after)) : after.length < (c :: rest).length := by
        obtain ⟨⟨inside', after'⟩, split', same⟩ := Option.map_eq_some_iff.mp found
        cases same
        exact Nat.lt_succ_of_lt (ih split')
      cases quote with
      | none =>
          unfold splitTag at split
          split at split
          · cases split
            exact Nat.lt_succ_self _
          · exact further split
      | some quote =>
          unfold splitTag at split
          exact further split

def expect (mark : Char) : List Char → Option (List Char)
  | [] => none
  | c :: rest => if c == mark then some rest else none

theorem length_expect_lt {mark : Char} {row after : List Char}
    (found : expect mark row = some after) : after.length < row.length := by
  cases row with
  | nil => cases found
  | cons c rest =>
      rw [expect] at found
      obtain ⟨-, same⟩ := Option.ite_none_right_eq_some.mp found
      cases same
      exact Nat.lt_succ_self _

def quoted? : List Char → Option (List Char × List Char)
  | [] => none
  | quote :: rest =>
      if quote == '"' || quote == '\'' then do
        let after ← expect quote (rest.dropWhile (· != quote))
        return (rest.takeWhile (· != quote), after)
      else none

theorem length_quoted?_lt {row raw after : List Char} (found : quoted? row = some (raw, after)) :
    after.length < row.length := by
  cases row with
  | nil => cases found
  | cons quote rest =>
      rw [quoted?] at found
      obtain ⟨-, found⟩ := Option.ite_none_right_eq_some.mp found
      obtain ⟨after', closed, same⟩ := Option.bind_eq_some_iff.mp found
      cases same
      have within := (List.dropWhile_suffix (p := (· != quote)) (l := rest)).length_le
      have shorter := length_expect_lt closed
      simp only [List.length_cons]
      omega

def attribute? (row : List Char) : Option ((String × List Char) × List Char) := do
  let name := row.takeWhile isNameChar
  let rest ← expect '=' ((row.dropWhile isNameChar).dropWhile isBlank)
  let (raw, after) ← quoted? (rest.dropWhile isBlank)
  if isName name then return ((String.ofList name, raw), after) else none

theorem length_attribute?_lt {row after : List Char} {found : String × List Char}
    (read : attribute? row = some (found, after)) : after.length < row.length := by
  unfold attribute? at read
  obtain ⟨rest, marked, read⟩ := Option.bind_eq_some_iff.mp read
  obtain ⟨⟨raw, after'⟩, quoted, read⟩ := Option.bind_eq_some_iff.mp read
  obtain ⟨-, same⟩ := Option.ite_none_right_eq_some.mp read
  cases same
  have name := (List.dropWhile_suffix (p := isNameChar) (l := row)).length_le
  have blanks :=
    (List.dropWhile_suffix (p := isBlank) (l := row.dropWhile isNameChar)).length_le
  have blanks' := (List.dropWhile_suffix (p := isBlank) (l := rest)).length_le
  have first := length_expect_lt marked
  have second := length_quoted?_lt quoted
  omega

def attributes? (row : List Char) : Option (List (String × String) × Bool) :=
  match _blanks : row.dropWhile isBlank with
  | [] => some ([], false)
  | ['/'] => some ([], true)
  | c :: more =>
      -- A blank stands in front of every attribute.
      if row.head?.any isBlank then
        match _read : attribute? (c :: more) with
        | none => none
        | some ((name, raw), after) => do
            let value ← value? raw
            let (others, closed) ← attributes? after
            if others.any (·.1 == name) then none else return ((name, value) :: others, closed)
      else none
termination_by row.length
decreasing_by
  have within := (List.dropWhile_suffix (p := isBlank) (l := row)).length_le
  rw [_blanks] at within
  have shorter := length_attribute?_lt _read
  omega

inductive Tag where
  | opening (name : String) (attributes : List (String × String))
  | whole (name : String) (attributes : List (String × String))
  | closing (name : String)

def tag? (inside : List Char) : Option Tag :=
  match expect '/' inside with
  | some rest =>
      let name := rest.takeWhile isNameChar
      if isName name && (rest.dropWhile isNameChar).all isBlank then
        some (.closing (String.ofList name))
      else none
  | none => do
      let name := inside.takeWhile isNameChar
      let (attributes, closed) ← attributes? (inside.dropWhile isNameChar)
      if !isName name then none
      else if closed then return .whole (String.ofList name) attributes
      else return .opening (String.ofList name) attributes

/-! ### Elements -/

structure Frame where
  name : String
  attributes : List (String × String)
  children : List Xml

def Frame.add (child : Xml) (frame : Frame) : Frame :=
  { frame with children := frame.children ++ [child] }

def Frame.element (frame : Frame) : Xml :=
  .element frame.name frame.attributes frame.children

/-- The elements that are open, the innermost first, and the outermost one once it is closed. -/
structure Assembly where
  root : Option Xml
  frames : List Frame

namespace Assembly

def empty : Assembly := ⟨none, []⟩

def add (element : Xml) : Assembly → Option Assembly
  | ⟨root, frame :: frames⟩ => some ⟨root, frame.add element :: frames⟩
  | ⟨none, []⟩ => some ⟨some element, []⟩
  -- There is one outermost element.
  | ⟨some _, []⟩ => none

def addContent (raw : List Char) (assembly : Assembly) : Option Assembly :=
  match assembly.frames with
  -- Around the outermost element there are only blanks.
  | [] => if raw.all isBlank then some assembly else none
  | frame :: frames => do
      let content ← content? raw
      return { assembly with frames := frame.add (.text content) :: frames }

def addTag (tag : Tag) (assembly : Assembly) : Option Assembly :=
  match tag with
  | .whole name attributes => assembly.add (.element name attributes [])
  | .opening name attributes =>
      if assembly.root.isSome && assembly.frames.isEmpty then none
      else some { assembly with frames := ⟨name, attributes, []⟩ :: assembly.frames }
  | .closing name =>
      match assembly.frames with
      | [] => none
      | frame :: frames =>
          if frame.name == name then add frame.element { assembly with frames } else none

def result? : Assembly → Option Xml
  | ⟨root, []⟩ => root
  | ⟨_, _ :: _⟩ => none

def readOn (assembly : Assembly) (text : List Char) : Option Xml :=
  match text with
  | [] => assembly.result?
  | c :: rest =>
      if c == '<' then
        match _split : splitTag none rest with
        | none => none
        | some (inside, after) => do
            let tag ← tag? inside
            readOn (← assembly.addTag tag) after
      else do
        let next ← assembly.addContent (c :: rest.takeWhile (· != '<'))
        readOn next (rest.dropWhile (· != '<'))
termination_by text.length
decreasing_by
  · have shorter := length_splitTag_lt _split
    simp only [List.length_cons]
    omega
  · have within := (List.dropWhile_suffix (p := (· != '<')) (l := rest)).length_le
    simp only [List.length_cons]
    omega

end Assembly

/-! ### Documents -/

def isDeclaration (attributes : List (String × String)) : Bool :=
  attributes == [("version", "1.0")] ||
    attributes == [("version", "1.0"), ("encoding", "utf-8")]

def afterDeclaration? (text : List Char) : Option (List Char) :=
  if "<?xml".toList.isPrefixOf text then do
    let (inside, after) ← splitTag none (text.drop 5)
    let (attributes, closed) ← attributes? inside.dropLast
    if inside.getLast? == some '?' && isDeclaration attributes && !closed then return after
    else none
  else some text

def read? (text : String) : Option Xml := do
  Assembly.empty.readOn (← afterDeclaration? text.toList)

/-! ### What a tree says -/

def name? : Xml → Option String
  | .element name _ _ => some name
  | .text _ => none

def get? (name : String) : Xml → Option String
  | .element _ attributes _ => attributes.lookup name
  | .text _ => none

def children : Xml → List Xml
  | .element _ _ children => children
  | .text _ => []

def isElement : Xml → Bool
  | .element _ _ _ => true
  | .text _ => false

/-- The children that are elements. Between them stands what lays a document out. -/
def elements (tree : Xml) : List Xml :=
  tree.children.filter isElement

end TypeLaws.Xml
