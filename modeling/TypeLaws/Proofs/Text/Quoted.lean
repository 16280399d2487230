import Mathlib.Algebra.Group.Nat.Defs
import Mathlib.Tactic.SplitIfs
import TypeLaws.Text.Quoted

/-!
Quoted text read back. A quotation says itself where it ends, so the text inside it is found again
whatever follows it, and whatever the text holds: marks, backslashes, hidden characters.
-/

namespace TypeLaws.Text

theorem positional_append (base acc : Nat) (digits : List Nat) (last : Nat) :
    positional base acc (digits ++ [last]) = positional base acc digits * base + last := by
  induction digits generalizing acc with
  | nil => rfl
  | cons digit rest ih => exact ih _

theorem hexDigit?_hexDigit (n : Nat) : hexDigit? (hexDigit n) = some (n % 16) := by
  have below : ∀ d < 16, hexDigit? (Nat.digitChar d) = some d := by decide
  exact below _ (Nat.mod_lt n (by decide))

@[simp]
theorem length_hexadecimal (width n : Nat) : (hexadecimal width n).length = width := by
  induction width generalizing n with
  | zero => rfl
  | succ width ih => rw [hexadecimal, List.length_append, ih, List.length_singleton]

def hexValue (digits : List Char) : Nat :=
  positional 16 0 (digits.filterMap hexDigit?)

theorem hexValue_hexadecimal (width n : Nat) : hexValue (hexadecimal width n) = n % 16 ^ width := by
  induction width generalizing n with
  | zero => rw [Nat.pow_zero, Nat.mod_one]; rfl
  | succ width ih =>
      have last : [hexDigit n].filterMap hexDigit? = [n % 16] := by
        rw [List.filterMap_cons_some (hexDigit?_hexDigit n), List.filterMap_nil]
      unfold hexValue at ih ⊢
      rw [hexadecimal, List.filterMap_append, last, positional_append, ih, Nat.pow_succ',
        Nat.mod_mul]
      omega

def escapeWidth (letter : Char) : Nat :=
  if letter = 'x' then 2 else if letter = 'u' then 4 else if letter = 'U' then 8 else 0

def escaped (letter : Char) (digits : List Char) : Char :=
  if letter = 't' then '\t'
  else if letter = 'n' then '\n'
  else if letter = 'r' then '\r'
  else if escapeWidth letter = 0 then letter
  else Char.ofNat (hexValue digits)

/-- The text up to the closing mark, and what comes behind that. -/
def unescape (mark : Char) (row : List Char) : Option (List Char × List Char) :=
  match row with
  | [] => none
  | c :: rest =>
      if c = mark then some ([], rest)
      else if c = '\\' then
        match rest with
        | [] => none
        | letter :: rest =>
            (unescape mark (rest.drop (escapeWidth letter))).map
              (Prod.map (escaped letter (rest.take (escapeWidth letter)) :: ·) id)
      else (unescape mark rest).map (Prod.map (c :: ·) id)
termination_by row.length
decreasing_by
  · rw [List.length_drop]
    simp only [List.length_cons]
    omega
  · exact Nat.lt_succ_self _

/-- The text of the quotation that a row begins with, and what comes behind the quotation. -/
def unquote? : List Char → Option (List Char × List Char)
  | [] => none
  | mark :: rest => unescape mark rest

section Unescape

variable {mark : Char}

theorem unescape_mark (rest : List Char) : unescape mark (mark :: rest) = some ([], rest) := by
  rw [unescape.eq_def]
  dsimp only
  rw [if_pos rfl]

theorem unescape_plain {c : Char} (other : c ≠ mark) (plain : c ≠ '\\') (rest : List Char) :
    unescape mark (c :: rest) = (unescape mark rest).map (Prod.map (c :: ·) id) := by
  rw [unescape.eq_def]
  dsimp only
  rw [if_neg other, if_neg plain]

theorem unescape_backslash (isMark : mark ≠ '\\') (letter : Char) (rest : List Char) :
    unescape mark ('\\' :: letter :: rest) =
      (unescape mark (rest.drop (escapeWidth letter))).map
        (Prod.map (escaped letter (rest.take (escapeWidth letter)) :: ·) id) := by
  rw [unescape, if_neg (Ne.symm isMark), if_pos rfl]

theorem unescape_letter (isMark : mark ≠ '\\') {letter : Char} (noDigits : escapeWidth letter = 0)
    (rest : List Char) :
    unescape mark ('\\' :: letter :: rest) =
      (unescape mark rest).map (Prod.map (escaped letter [] :: ·) id) := by
  rw [unescape_backslash isMark, noDigits, List.drop_zero, List.take_zero]

theorem unescape_hexadecimal (isMark : mark ≠ '\\') {letter : Char}
    (isCode : letter ∈ ['x', 'u', 'U']) {c : Char} (fits : c.toNat < 16 ^ escapeWidth letter)
    (rest : List Char) :
    unescape mark ('\\' :: letter :: (hexadecimal (escapeWidth letter) c.toNat ++ rest)) =
      (unescape mark rest).map (Prod.map (c :: ·) id) := by
  have stands (digits : List Char) : escaped letter digits = Char.ofNat (hexValue digits) := by
    simp only [List.mem_cons, List.not_mem_nil, or_false] at isCode
    rcases isCode with rfl | rfl | rfl <;> rfl
  have width := length_hexadecimal (escapeWidth letter) c.toNat
  rw [unescape_backslash isMark, List.drop_left' width, List.take_left' width, stands,
    hexValue_hexadecimal, Nat.mod_eq_of_lt fits, Char.ofNat_toNat]

/-- One character reads back, however it had to be written. -/
theorem unescape_escape (isMark : mark = '\'' ∨ mark = '"') (c : Char) (rest : List Char) :
    unescape mark (escape mark c ++ rest) = (unescape mark rest).map (Prod.map (c :: ·) id) := by
  have noBackslash : mark ≠ '\\' := by rcases isMark with rfl | rfl <;> decide
  unfold escape
  -- The cases are those of `escape`, in its order.
  split_ifs with asItself tab feed back shown byte pair
  · have self : escapeWidth c = 0 ∧ escaped c [] = c := by
      rw [Bool.or_eq_true, beq_iff_eq, beq_iff_eq] at asItself
      rcases asItself with rfl | rfl
      · rcases isMark with rfl | rfl <;> exact ⟨rfl, rfl⟩
      · exact ⟨rfl, rfl⟩
    exact (unescape_letter noBackslash self.1 rest).trans (by rw [self.2])
  · rw [eq_of_beq tab]
    exact unescape_letter noBackslash rfl rest
  · rw [eq_of_beq feed]
    exact unescape_letter noBackslash rfl rest
  · rw [eq_of_beq back]
    exact unescape_letter noBackslash rfl rest
  · rw [Bool.or_eq_true, beq_iff_eq, beq_iff_eq, not_or] at asItself
    exact unescape_plain asItself.1 asItself.2 rest
  · exact unescape_hexadecimal noBackslash (by decide) byte rest
  · exact unescape_hexadecimal noBackslash (by decide) pair rest
  · have valid : c.toNat < 0xD800 ∨ 0xDFFF < c.toNat ∧ c.toNat < 0x110000 := c.valid
    have digits : escapeWidth 'U' = 8 := rfl
    have fits : c.toNat < 16 ^ escapeWidth 'U' := by
      rw [digits]
      omega
    exact unescape_hexadecimal noBackslash (by decide) fits rest

theorem unescape_escapes (isMark : mark = '\'' ∨ mark = '"') (text rest : List Char) :
    unescape mark (text.flatMap (escape mark) ++ mark :: rest) = some (text, rest) := by
  induction text with
  | nil => exact unescape_mark rest
  | cons c text ih =>
      rw [List.flatMap_cons, List.append_assoc, unescape_escape isMark, ih]
      rfl

theorem length_of_unescape {row text after : List Char}
    (read : unescape mark row = some (text, after)) : after.length < row.length := by
  induction row using unescape.induct mark generalizing text after with
  | case1 => simp [unescape] at read
  | case2 rest =>
      rw [unescape_mark] at read
      cases read
      exact Nat.lt_succ_self _
  | case3 other => simp [unescape, other] at read
  | case4 letter rest other ih =>
      rw [unescape_backslash (Ne.symm other), Option.map_eq_some_iff] at read
      obtain ⟨⟨later, behind⟩, readLater, same⟩ := read
      cases same
      have shorter := ih readLater
      rw [List.length_drop] at shorter
      simp only [List.length_cons, id_eq]
      omega
  | case5 c rest other plain ih =>
      rw [unescape_plain other plain, Option.map_eq_some_iff] at read
      obtain ⟨⟨later, behind⟩, readLater, same⟩ := read
      cases same
      exact Nat.lt_succ_of_lt (ih readLater)

end Unescape

theorem quotationMark_eq (text : List Char) :
    quotationMark text = '\'' ∨ quotationMark text = '"' := by
  unfold quotationMark
  split
  · exact .inr rfl
  · exact .inl rfl

/-- A quotation reads back as its text and ends where it was closed, whatever stands behind it. -/
theorem unquote?_quoteChars (text rest : List Char) :
    unquote? (quoteChars text ++ rest) = some (text, rest) := by
  unfold quoteChars
  dsimp only
  rw [List.cons_append, List.append_assoc, List.singleton_append, unquote?,
    unescape_escapes (quotationMark_eq text)]

theorem length_of_unquote? {row text after : List Char} (read : unquote? row = some (text, after)) :
    after.length < row.length := by
  cases row with
  | nil => cases read
  | cons mark rest => exact Nat.lt_succ_of_lt (length_of_unescape read)

end TypeLaws.Text
