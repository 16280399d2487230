import TypeLaws.Yaml.Cursor
import TypeLaws.Yaml.Fault

/-!
Scalars: the texts of a document. An escape may name a code that belongs to no character, which is
why they are given by code points.
-/

namespace TypeLaws.Yaml

structure Scalar where
  points : Text
  deriving Inhabited

namespace Scalar

def empty : Scalar := ⟨[]⟩

def ofChars (chars : List Char) : Scalar := ⟨.ofChars chars⟩

def append (a b : Scalar) : Scalar :=
  ⟨a.points ++ b.points⟩

def chars (scalar : Scalar) : List Char :=
  scalar.points.toChars

end Scalar

/--
What the end of a line and the empty lines behind it leave in a folded text: a space for a single
line feed, and otherwise the line ends themselves, of which the first is left out if it is a line
feed.
-/
def foldBreaks (first : Char) (others : List Char) : List Char :=
  if first != '\n' then first :: others
  else if others.isEmpty then [' ']
  else others

end TypeLaws.Yaml
