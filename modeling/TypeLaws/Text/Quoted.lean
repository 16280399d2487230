import TypeLaws.Text.CodePoint
import TypeLaws.Text.Digits
import TypeLaws.Text.Printable

/-!
Quoted text and quoted bytes. The quotation mark is the apostrophe, unless the text holds an
apostrophe and no double quotation mark. Inside, the mark in use and the backslash are escaped
by a backslash; tab, line feed and carriage return have letters; every other hidden character is
written by its code point in two, four or eight hexadecimal digits.
-/

namespace TypeLaws.Text

/-- The quotation mark that needs the fewest escapes: the apostrophe wherever it will do. -/
def quotationMark (text : List Char) : Char :=
  if text.contains '\'' && !text.contains '"' then '"' else '\''

def escape (mark c : Char) : List Char :=
  if c == mark || c == '\\' then ['\\', c]
  else if c == '\t' then ['\\', 't']
  else if c == '\n' then ['\\', 'n']
  else if c == '\r' then ['\\', 'r']
  else if isPrintable c then [c]
  else if c.toNat < 0x100 then '\\' :: 'x' :: hexadecimal 2 c.toNat
  else if c.toNat < 0x10000 then '\\' :: 'u' :: hexadecimal 4 c.toNat
  else '\\' :: 'U' :: hexadecimal 8 c.toNat

def quoteChars (text : List Char) : List Char :=
  let mark := quotationMark text
  mark :: (text.flatMap (escape mark) ++ [mark])

def quote (text : String) : String :=
  String.ofList (quoteChars text.toList)

def escapePoint (mark : Char) : CodePoint → List Char
  | .char c => escape mark c
  | .half offset => '\\' :: 'u' :: hexadecimal 4 (CodePoint.half offset).number

def quotePoints (text : Text) : String :=
  let mark := quotationMark text.toChars
  String.ofList (mark :: (text.flatMap (escapePoint mark) ++ [mark]))

/-- A byte inside a quotation: only the printable part of ASCII stands for itself. -/
def escapeByte (mark : Char) (byte : UInt8) : List Char :=
  if byte < 127 then escape mark (Char.ofNat byte.toNat)
  else '\\' :: 'x' :: hexadecimal 2 byte.toNat

def quoteBytes (bytes : List UInt8) : String :=
  let mark := quotationMark (bytes.map fun byte => Char.ofNat byte.toNat)
  String.ofList ('b' :: mark :: (bytes.flatMap (escapeByte mark) ++ [mark]))

end TypeLaws.Text
