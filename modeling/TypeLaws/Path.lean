import TypeLaws.Text.CodePoint
import TypeLaws.Text.Split

/-!
Paths as text. A path below a directory has a normal form, which is found without a look at the
files: empty parts and single dots are left out, and two dots take back the part before them, but
nothing stands above the root.
-/

namespace TypeLaws.Path

def slash : CodePoint := .char '/'

def here : Text := [.char '.']

def above : Text := [.char '.', .char '.']

def parts (path : Text) : List Text :=
  Text.splitAll (· == slash) path

def isAbsolute (path : Text) : Bool :=
  path.head? == some slash

/-- Goes one part further from a place; the parts of a place are in order from the root. -/
def step (place : List Text) (part : Text) : List Text :=
  if part == [] || part == here then place
  else if part == above then place.dropLast
  else place ++ [part]

def write (place : List Text) : Text :=
  slash :: [slash].intercalate place

def isNormalPart (part : Text) : Bool :=
  part != [] && part != here && part != above && !part.contains slash

end TypeLaws.Path
