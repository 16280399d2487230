import TypeLaws.Text.CodePoint
import TypeLaws.Text.Range

/-!
Blank characters: those with the Unicode property "space separator" or one of the bidirectional
classes of white space and separators.
-/

namespace TypeLaws.Text

def blanks : Ranges :=
  [(0x9, 0xD), (0x1C, 0x20), (0x85, 0x85), (0xA0, 0xA0), (0x1680, 0x1680), (0x2000, 0x200A),
    (0x2028, 0x2029), (0x202F, 0x202F), (0x205F, 0x205F), (0x3000, 0x3000)]

def isBlank (c : Char) : Bool :=
  blanks.has c

/-- The blank characters that may stand around a number: separators of records are not among
them. -/
def isNumberBlank (c : Char) : Bool :=
  isBlank c && !(0x1C ≤ c.toNat && c.toNat ≤ 0x1F)

def trim {α : Type} (isOuter : α → Bool) (row : List α) : List α :=
  ((row.dropWhile isOuter).reverse.dropWhile isOuter).reverse

def trimBlank (text : Text) : Text :=
  trim (CodePoint.isOf isBlank) text

end TypeLaws.Text
