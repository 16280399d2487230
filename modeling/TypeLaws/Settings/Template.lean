import TypeLaws.Text.CodePoint
import TypeLaws.Text.Word

/-!
Templates: texts with references to variables. A reference is a dollar sign and a name. Braces may
stand around the rest of the name; then a mark may stand behind the opening one, and a modifier
in front of the closing one. A backslash keeps a dollar sign or a backslash from its special
meaning. Reading never fails: a defect is a piece of the template like any other, and is met when
the template is filled in.

This is the syntax of the package `expandvars` with its default escape character, as far as a text
does not name the number of the running process.
-/

namespace TypeLaws.Settings

inductive Defect where
  | danglingEscape
  | unclosedBrace
  /-- A reference that has no name, or a modifier that its mark or its form does not allow. -/
  | badReference
  deriving DecidableEq

inductive Modifier where
  /-- Stands in for a missing text. -/
  | default
  /-- As `default`, and the variable keeps it. -/
  | assign
  | alternative
  | require
  | part
  deriving DecidableEq

inductive Piece where
  | literal (point : CodePoint)
  /-- The text of a variable, or of the variable whose name it holds. -/
  | named (indirect : Bool) (name : Text)
  | modified (indirect : Bool) (name : Text) (modifier : Modifier) (operand : List Piece)
  | size (name : Text)
  /-- As `size`, with a template that has to be filled in to nothing. -/
  | guardedSize (name : Text) (operand : List Piece)
  | defect (defect : Defect)

abbrev Template := List Piece

namespace Template

/-! ### Braces -/

/--
Splits a text at the brace that closes the `depth + 1` braces open in front of it: what stands
before that brace, and what follows it.
-/
def untilClosed (depth : Nat) : Text → Option (Text × Text)
  | [] => none
  | .char '\x7b' :: rest =>
      (untilClosed (depth + 1) rest).map fun split => (.char '\x7b' :: split.1, split.2)
  | .char '\x7d' :: rest =>
      match depth with
      | 0 => some ([], rest)
      | depth + 1 => (untilClosed depth rest).map fun split => (.char '\x7d' :: split.1, split.2)
  | point :: rest => (untilClosed depth rest).map fun split => (point :: split.1, split.2)

theorem length_of_untilClosed {depth : Nat} {text : Text} {split : Text × Text}
    (closed : untilClosed depth text = some split) :
    split.1.length + split.2.length + 1 = text.length := by
  induction text generalizing depth split with
  | nil => cases closed
  | cons point rest ih =>
      unfold untilClosed at closed
      split at closed
      · cases closed
      · rename_i same
        obtain ⟨inner, found, rfl⟩ := Option.map_eq_some_iff.mp closed
        cases same
        have smaller := ih found
        simp only [List.length_cons]
        omega
      · rename_i same
        cases same
        split at closed
        · cases closed
          simp
        · obtain ⟨inner, found, rfl⟩ := Option.map_eq_some_iff.mp closed
          have smaller := ih found
          simp only [List.length_cons]
          omega
      · rename_i same
        cases same
        obtain ⟨inner, found, rfl⟩ := Option.map_eq_some_iff.mp closed
        have smaller := ih found
        simp only [List.length_cons]
        omega

/--
Splits a modifier off, with the closing brace behind it. Its first character stands for itself, so
an opening brace in that place is not to be closed.
-/
def splitModifier : Text → Option (Text × Text)
  | [] => none
  | .char '\x7d' :: rest => some ([], rest)
  | point :: rest => (untilClosed 0 rest).map fun split => (point :: split.1, split.2)

theorem length_of_splitModifier {text : Text} {split : Text × Text}
    (found : splitModifier text = some split) :
    split.1.length + split.2.length + 1 = text.length := by
  unfold splitModifier at found
  split at found
  · cases found
  · cases found
    simp
  · obtain ⟨inner, closed, rfl⟩ := Option.map_eq_some_iff.mp found
    have smaller := length_of_untilClosed closed
    simp only [List.length_cons]
    omega

/-! ### Names -/

def isWord : CodePoint → Bool :=
  CodePoint.isOf Text.isWord

/-- The name at the front of a text. Its first character may be a dollar sign. -/
def nameOf : Text → Text
  | .char '$' :: rest => .char '$' :: rest.takeWhile isWord
  | text => text.takeWhile isWord

def afterName : Text → Text
  | .char '$' :: rest => rest.dropWhile isWord
  | text => text.dropWhile isWord

theorem length_afterName_le (text : Text) : (afterName text).length ≤ text.length := by
  unfold afterName
  split
  · rename_i rest
    have within := (List.dropWhile_suffix (p := isWord) (l := rest)).length_le
    simp only [List.length_cons]
    omega
  · exact (List.dropWhile_suffix _).length_le

inductive Mark where
  | plain
  | indirect
  | size
  deriving DecidableEq

def splitMark : Text → Mark × Text
  | .char '!' :: rest => (.indirect, rest)
  | .char '#' :: rest => (.size, rest)
  | text => (.plain, text)

theorem length_splitMark_le (text : Text) : (splitMark text).2.length ≤ text.length := by
  unfold splitMark
  split <;> simp

def restOfName (begun text : Text) : Text :=
  if begun.isEmpty then nameOf text else text.takeWhile isWord

def afterRestOfName (begun text : Text) : Text :=
  if begun.isEmpty then afterName text else text.dropWhile isWord

theorem length_afterRestOfName_le (begun text : Text) :
    (afterRestOfName begun text).length ≤ text.length := by
  unfold afterRestOfName
  split
  · exact length_afterName_le text
  · exact (List.dropWhile_suffix _).length_le

/-! ### References -/

structure Closing where
  colon : Bool
  modifier : Text
  after : Text

def splitClosing : Text → Option Closing
  | .char ':' :: rest => (splitModifier rest).map fun split => ⟨true, split.1, split.2⟩
  | text => (splitModifier text).map fun split => ⟨false, split.1, split.2⟩

theorem length_of_splitClosing {text : Text} {closing : Closing}
    (found : splitClosing text = some closing) :
    closing.modifier.length + closing.after.length + 1 ≤ text.length := by
  unfold splitClosing at found
  split at found
  · obtain ⟨inner, closed, rfl⟩ := Option.map_eq_some_iff.mp found
    have smaller := length_of_splitModifier closed
    simp only [List.length_cons]
    omega
  · obtain ⟨inner, closed, rfl⟩ := Option.map_eq_some_iff.mp found
    have smaller := length_of_splitModifier closed
    exact Nat.le_of_eq smaller

/-- The modifier that a sign announces; every other character begins the place of a part. -/
def modifierOf : Text → Modifier
  | .char '-' :: _ => .default
  | .char '=' :: _ => .assign
  | .char '+' :: _ => .alternative
  | .char '?' :: _ => .require
  | _ => .part

def operandOf (text : Text) : Text :=
  if modifierOf text = .part then text else text.drop 1

theorem length_operandOf_le (text : Text) : (operandOf text).length ≤ text.length := by
  unfold operandOf
  split
  · exact Nat.le_refl _
  · rw [List.length_drop]
    exact Nat.sub_le _ _

/--
The reference to a name with a mark, a modifier and what it works with. The size of a text has a
modifier behind a colon only, and an empty one; without the colon the mark means nothing.
-/
def reference (name : Text) (mark : Mark) (closing : Closing) (operand : Template) : Piece :=
  let bare := !closing.colon && closing.modifier.isEmpty
  if name.isEmpty then .defect .badReference
  else if bare && mark = .size then .size name
  else if bare then .named (mark = .indirect) name
  else if closing.colon && mark = .size then
    .guardedSize name operand
  else .modified (mark = .indirect) name (modifierOf closing.modifier) operand

def templateOf (mark : Mark) (closing : Closing) : Text :=
  if closing.colon && mark = .size then closing.modifier else operandOf closing.modifier

theorem length_templateOf_le (mark : Mark) (closing : Closing) :
    (templateOf mark closing).length ≤ closing.modifier.length := by
  unfold templateOf
  split
  · exact Nat.le_refl _
  · exact length_operandOf_le _

/-- Reads a template. Nothing behind a defect of its form matters. -/
def read : Text → Template
  | [] => []
  | .char '\\' :: .char '$' :: rest => .literal (.char '$') :: read rest
  | .char '\\' :: .char '\\' :: rest => .literal (.char '\\') :: read rest
  | [.char '\\'] => [.defect .danglingEscape]
  | .char '$' :: rest =>
      match _opened : afterName rest with
      | .char '\x7b' :: inner =>
          match _closed : splitClosing (afterRestOfName (nameOf rest) (splitMark inner).2) with
          | none => [.defect .unclosedBrace]
          | some closing =>
              let name := nameOf rest ++ restOfName (nameOf rest) (splitMark inner).2
              let operand := read (templateOf (splitMark inner).1 closing)
              reference name (splitMark inner).1 closing operand :: read closing.after
      | after =>
          if (nameOf rest).isEmpty then .literal (.char '$') :: read rest
          else .named false (nameOf rest) :: read after
  | point :: rest => .literal point :: read rest
termination_by text => text.length
decreasing_by
  all_goals simp only [List.length_cons]
  all_goals try omega
  · have whole := length_afterName_le rest
    have marked := length_splitMark_le inner
    have named := length_afterRestOfName_le (nameOf rest) (splitMark inner).2
    have closed := length_of_splitClosing _closed
    have within := length_templateOf_le (splitMark inner).1 closing
    rw [_opened, List.length_cons] at whole
    omega
  · have whole := length_afterName_le rest
    have marked := length_splitMark_le inner
    have named := length_afterRestOfName_le (nameOf rest) (splitMark inner).2
    have closed := length_of_splitClosing _closed
    rw [_opened, List.length_cons] at whole
    omega
  · have whole := length_afterName_le rest
    rw [_opened] at whole
    omega

end Template

end TypeLaws.Settings
