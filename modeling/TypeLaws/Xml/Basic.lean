/-!
XML documents as trees of elements and text, and their printed form: one element to a line,
indented by tabs, except that an element with nothing but text stands on one line with it.
-/

namespace TypeLaws

inductive Xml where
  | element (name : String) (attributes : List (String × String)) (children : List Xml)
  | text (content : String)

namespace Xml

def isChar (c : Char) : Bool :=
  c == '\t' || c == '\n' || c == '\r' || (' ' ≤ c && c.toNat ≤ 0xFFFD) || 0x10000 ≤ c.toNat

def attributeText (pair : String × String) : String :=
  " " ++ pair.1 ++ "=\"" ++ pair.2 ++ "\""

def openingText (name : String) (written : List (String × String)) : String :=
  "<" ++ name ++ String.join (written.map attributeText)

def closingText (name : String) : String :=
  "</" ++ name ++ ">"

/-- The reference that stands for a character, if it does not stand for itself. -/
def reference? : Char → Option String
  | '&' => some "&amp;"
  | '<' => some "&lt;"
  | '>' => some "&gt;"
  | '"' => some "&quot;"
  | _ => none

def escapeChar (c : Char) : List Char :=
  match reference? c with
  | some reference => reference.toList
  | none => [c]

def escape (text : String) : String :=
  String.ofList (text.toList.flatMap escapeChar)

def escapeValues (attributes : List (String × String)) : List (String × String) :=
  attributes.map fun pair => (pair.1, escape pair.2)

mutual

def print (depth : Nat) : Xml → String
  | .element name attributes children =>
      let indent := String.ofList (List.replicate depth '\t')
      let opening := openingText name (escapeValues attributes)
      match children with
      | [] => indent ++ opening ++ "/>\n"
      | [.text content] => indent ++ opening ++ ">" ++ escape content ++ closingText name ++ "\n"
      | children =>
          indent ++ opening ++ ">\n" ++ printAll (depth + 1) children ++ indent ++ closingText name
            ++ "\n"
  | .text content => String.ofList (List.replicate depth '\t') ++ escape content ++ "\n"

def printAll (depth : Nat) : List Xml → String
  | [] => ""
  | child :: rest => child.print depth ++ printAll depth rest

end

def declaration : String :=
  "<?xml version=\"1.0\" encoding=\"utf-8\"?>\n"

def document (tree : Xml) : String :=
  declaration ++ tree.print 0

end Xml

end TypeLaws
