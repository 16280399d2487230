import TypeLaws.Yaml.Character
import TypeLaws.Yaml.Fault

/-!
A place in a document: the characters that follow it, how many stand before it, and its line and
column. Every step forward leaves fewer characters, which is what loops over a cursor end by.
-/

namespace TypeLaws.Yaml

structure Cursor where
  rest : List Char
  index : Nat
  line : Nat
  column : Nat

namespace Cursor

def start (text : List Char) : Cursor := ⟨text, 0, 0, 0⟩

def peek (cursor : Cursor) : Option Char :=
  cursor.rest.head?

def advance (cursor : Cursor) : Cursor :=
  match cursor.rest with
  | [] => cursor
  | c :: rest =>
      if isBreak c then ⟨rest, cursor.index + 1, cursor.line + 1, 0⟩
      else
        ⟨rest, cursor.index + 1, cursor.line,
          if c == byteOrderMark then cursor.column else cursor.column + 1⟩

def skip : Nat → Cursor → Cursor
  | 0, cursor => cursor
  | count + 1, cursor => skip count cursor.advance

def span (cursor : Cursor) (kind : Char → Bool) : List Char × Cursor :=
  let run := cursor.rest.takeWhile kind
  (run, cursor.skip run.length)

def skipSpaces (cursor : Cursor) : Cursor :=
  (cursor.span isSpace).2

def skipLine (cursor : Cursor) : Cursor :=
  (cursor.span fun c => !isBreak c).2

def skipComment (cursor : Cursor) : Cursor :=
  if cursor.peek == some '#' then cursor.skipLine else cursor

def lineBreak? (cursor : Cursor) : Option (Char × Cursor) :=
  match cursor.rest with
  | [] => none
  | c :: _ => if isBreak c then some (breakText c, cursor.advance) else none

/-- What is wrong with a word that cannot go on as the text does here. -/
def refusal (cursor : Cursor) : Fault :=
  if cursor.rest.isEmpty then .unfinished else .word

theorem rest_advance (cursor : Cursor) : cursor.advance.rest = cursor.rest.tail := by
  unfold advance
  split
  · rename_i empty
    simp [empty]
  · rename_i found
    split <;> simp [found]

theorem rest_skip (count : Nat) (cursor : Cursor) :
    (cursor.skip count).rest = cursor.rest.drop count := by
  induction count generalizing cursor with
  | zero => simp [skip]
  | succ count ih => simp [skip, ih, rest_advance]

theorem length_skip_le (count : Nat) (cursor : Cursor) :
    (cursor.skip count).rest.length ≤ cursor.rest.length := by
  rw [rest_skip, List.length_drop]
  exact Nat.sub_le _ _

theorem length_span_le (cursor : Cursor) (kind : Char → Bool) :
    (cursor.span kind).2.rest.length ≤ cursor.rest.length :=
  length_skip_le _ _

theorem length_skipSpaces_le (cursor : Cursor) :
    cursor.skipSpaces.rest.length ≤ cursor.rest.length :=
  length_span_le _ _

theorem length_skipComment_le (cursor : Cursor) :
    cursor.skipComment.rest.length ≤ cursor.rest.length := by
  unfold skipComment
  split
  · exact length_span_le _ _
  · exact Nat.le_refl _

theorem length_advance_lt {cursor : Cursor} {c : Char} {rest : List Char}
    (found : cursor.rest = c :: rest) : cursor.advance.rest.length < cursor.rest.length := by
  rw [rest_advance, found]
  simp

theorem length_of_lineBreak {cursor after : Cursor} {c : Char}
    (found : cursor.lineBreak? = some (c, after)) :
    after.rest.length < cursor.rest.length := by
  unfold lineBreak? at found
  split at found
  · cases found
  · rename_i shape
    split at found
    · cases found
      exact length_advance_lt shape
    · cases found

end Cursor

end TypeLaws.Yaml
