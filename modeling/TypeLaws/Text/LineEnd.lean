/-!
Line ends. A carriage return, with a line feed or without, counts as one line feed.
-/

namespace TypeLaws.Text

/-- The text with a line feed for every carriage return, alone or with its line feed. -/
def unifyLineEnds : List Char → List Char
  | [] => []
  | '\r' :: '\n' :: rest => '\n' :: unifyLineEnds rest
  | c :: rest => (if c = '\r' then '\n' else c) :: unifyLineEnds rest

end TypeLaws.Text
