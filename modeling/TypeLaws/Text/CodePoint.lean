/-!
Texts as rows of code points. Most code points are characters. The others are halves: two of them in
a row are a way to write one character, but in a text each half stands for itself.
-/

namespace TypeLaws

inductive CodePoint where
  | char (c : Char)
  /-- A half, by its distance from the first one. -/
  | half (offset : Fin 0x800)
  deriving DecidableEq

namespace CodePoint

def firstHalf : Nat := 0xD800

def number : CodePoint → Nat
  | .char c => c.toNat
  | .half offset => firstHalf + offset

def ofNat? (n : Nat) : Option CodePoint :=
  if valid : n.isValidChar then some (.char (Char.ofNatAux n valid))
  else if within : n - firstHalf < 0x800 then some (.half ⟨n - firstHalf, within⟩)
  else none

def char? : CodePoint → Option Char
  | .char c => some c
  | .half _ => none

def isOf (kind : Char → Bool) (point : CodePoint) : Bool :=
  point.char?.any kind

end CodePoint

abbrev Text := List CodePoint

namespace Text

def ofChars (chars : List Char) : Text :=
  chars.map .char

def ofString (s : String) : Text :=
  ofChars s.toList

instance : Coe String Text := ⟨ofString⟩

theorem ofString_append (s t : String) : ofString (s ++ t) = ofString s ++ ofString t := by
  rw [ofString, ofChars, String.toList_append, List.map_append]
  rfl

def chars? (text : Text) : Option (List Char) :=
  text.mapM CodePoint.char?

theorem ofChars_of_chars? {text : Text} {chars : List Char} (read : text.chars? = some chars) :
    ofChars chars = text := by
  induction text generalizing chars with
  | nil =>
      cases read
      rfl
  | cons point rest ih =>
      rw [chars?, List.mapM_cons] at read
      cases point with
      | half offset => cases read
      | char c =>
          cases behind : chars? rest with
          | none =>
              rw [← chars?, behind] at read
              cases read
          | some others =>
              rw [← chars?, behind] at read
              cases read
              rw [ofChars, List.map_cons, ← ofChars, ih behind]

def isSound (text : Text) : Bool :=
  text.chars?.isSome

/-- The characters of a text. The replacement character stands in the place of a half. -/
def toChars (text : Text) : List Char :=
  text.map fun point => point.char?.getD '\ufffd'

def repaired (text : Text) : String :=
  String.ofList text.toChars

end Text

end TypeLaws
