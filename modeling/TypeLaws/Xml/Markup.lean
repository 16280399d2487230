import TypeLaws.Text.CodePoint
import TypeLaws.Text.Digits
import TypeLaws.Xml.Basic

/-!
Elements as they are put together, and how they are handed to a reader. The texts in them are not
looked at: what stands for itself in ASCII is written so, and everything else by its number. So a
text that XML cannot hold is written too, and it is the reader who refuses it.
-/

namespace TypeLaws

/-- An element, whose text stands in front of the elements in it. -/
inductive Markup where
  | element (name : String) (attributes : List (String × Text)) (content : Text)
      (children : List Markup)

namespace Markup

def numbered (n : Nat) : List Char :=
  '&' :: '#' :: (Text.decimal n ++ [';'])

/-- A code point in ASCII. `reference?` gives the characters that have a reference of their own. -/
def asciiPoint (reference? : Char → Option String) : CodePoint → List Char
  | .char c =>
      match reference? c with
      | some reference => reference.toList
      | none => if c.toNat < 0x80 then [c] else numbered c.toNat
  | half => numbered half.number

def ascii (reference? : Char → Option String) (text : Text) : String :=
  String.ofList (text.flatMap (asciiPoint reference?))

def contentReference? : Char → Option String
  | '&' => some "&amp;"
  | '<' => some "&lt;"
  | '>' => some "&gt;"
  | _ => none

/-- In an attribute the reader would take a blank of any kind for a space. -/
def valueReference? : Char → Option String
  | '"' => some "&quot;"
  | '\r' => some "&#13;"
  | '\n' => some "&#10;"
  | '\t' => some "&#09;"
  | c => contentReference? c

def writtenValues (attributes : List (String × Text)) : List (String × String) :=
  attributes.map fun pair => (pair.1, ascii valueReference? pair.2)

mutual

def serialise : Markup → String
  | .element name attributes content children =>
      let opening := Xml.openingText name (writtenValues attributes)
      if content.isEmpty && children.isEmpty then opening ++ " />"
      else
        opening ++ ">" ++ ascii contentReference? content ++ serialiseAll children
          ++ Xml.closingText name

def serialiseAll : List Markup → String
  | [] => ""
  | child :: rest => child.serialise ++ serialiseAll rest

end

end Markup

end TypeLaws
