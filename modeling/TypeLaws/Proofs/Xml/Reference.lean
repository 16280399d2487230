import TypeLaws.Xml.Reader
import TypeLaws.Xml.Markup

/-!
Reading what is written with references. A reader takes a row of characters and references apart from
the front, so it is enough to know what each written code point denotes: the character itself, or
nothing if XML cannot hold it. Line ends are settled before, over the whole row.
-/

namespace TypeLaws

/-! ### Line ends -/

namespace Text

theorem unifyLineEnds_append_of_not_mem {row : List Char} (none : '\r' ∉ row) (rest : List Char) :
    unifyLineEnds (row ++ rest) = row ++ unifyLineEnds rest := by
  induction row with
  | nil => rfl
  | cons c row ih =>
      rw [List.mem_cons, not_or] at none
      have other : c ≠ '\r' := fun same => none.1 same.symm
      rw [List.cons_append, unifyLineEnds, if_neg other, ih none.2, List.cons_append]
      · intro _ same
        exact absurd same other

theorem unifyLineEnds_of_not_mem {row : List Char} (none : '\r' ∉ row) :
    unifyLineEnds row = row := by
  have same := unifyLineEnds_append_of_not_mem none []
  rw [List.append_nil] at same
  exact same.trans (List.append_nil row)

theorem not_mem_unifyLineEnds (row : List Char) : '\r' ∉ unifyLineEnds row := by
  induction row using unifyLineEnds.induct with
  | case1 => exact List.not_mem_nil
  | case2 rest ih =>
      rw [unifyLineEnds]
      simpa using ih
  | case3 c rest single ih =>
      rw [unifyLineEnds]
      · by_cases isReturn : c = '\r'
        · simpa [isReturn] using ih
        · simpa [isReturn, Ne.symm isReturn] using ih
      · exact single

theorem unifyLineEnds_ne_nil {row : List Char} (nonempty : row ≠ []) : unifyLineEnds row ≠ [] := by
  cases row using unifyLineEnds.fun_cases with
  | case1 => exact absurd rfl nonempty
  | case2 rest =>
      rw [unifyLineEnds]
      exact List.cons_ne_nil _ _
  | case3 c rest single =>
      rw [unifyLineEnds]
      · exact List.cons_ne_nil _ _
      · exact single

def unifyPoints : Text → Text
  | [] => []
  | .char '\r' :: .char '\n' :: rest => .char '\n' :: unifyPoints rest
  | point :: rest => (if point = .char '\r' then .char '\n' else point) :: unifyPoints rest

theorem unifyPoints_ofChars (chars : List Char) :
    unifyPoints (ofChars chars) = ofChars (unifyLineEnds chars) := by
  induction chars using unifyLineEnds.induct with
  | case1 => rfl
  | case2 rest ih =>
      rw [unifyLineEnds]
      exact congrArg (.char '\n' :: ·) ih
  | case3 c rest single ih =>
      have alone (after : Text) (isReturn : CodePoint.char c = .char '\r')
          (begins : ofChars rest = .char '\n' :: after) : False := by
        obtain ⟨d, others, rfl, feed, -⟩ := List.map_eq_cons_iff.mp begins
        cases isReturn
        cases feed
        exact single others rfl rfl
      rw [unifyLineEnds]
      · change unifyPoints (.char c :: ofChars rest) = _
        rw [unifyPoints, ih, ofChars, ofChars, List.map_cons, apply_ite CodePoint.char]
        · simp only [CodePoint.char.injEq]
        · exact alone
      · exact single

/-- Line ends are written as themselves, and nothing else is written with them. -/
structure KeepsEnds (write : CodePoint → List Char) : Prop where
  back : write (.char '\r') = ['\r']
  feed : write (.char '\n') = ['\n']
  noReturn : ∀ point, point ≠ .char '\r' → '\r' ∉ write point
  noFeed : ∀ point, point ≠ .char '\n' → (write point).head? ≠ some '\n'
  nonempty : ∀ point, write point ≠ []

theorem KeepsEnds.unifyLineEnds_flatMap {write : CodePoint → List Char} (keeps : KeepsEnds write)
    (text : Text) : unifyLineEnds (text.flatMap write) = (unifyPoints text).flatMap write := by
  induction text using unifyPoints.induct with
  | case1 => rfl
  | case2 rest ih =>
      rw [unifyPoints, List.flatMap_cons, List.flatMap_cons, List.flatMap_cons, keeps.back, keeps.feed,
        ← ih]
      rfl
  | case3 point rest single ih =>
      rw [unifyPoints, List.flatMap_cons, List.flatMap_cons]
      · by_cases isReturn : point = .char '\r'
        · have noFeed : (rest.flatMap write).head? ≠ some '\n' := by
            cases rest with
            | nil => rintro ⟨⟩
            | cons next others =>
                have other : next ≠ .char '\n' := by
                  rintro rfl
                  exact single others isReturn rfl
                obtain ⟨c, more, written⟩ := List.exists_cons_of_ne_nil (keeps.nonempty next)
                have noFeed := keeps.noFeed next other
                rw [written] at noFeed
                rw [List.flatMap_cons, written]
                exact noFeed
          rw [if_pos isReturn, isReturn, keeps.back, keeps.feed, ← ih]
          change unifyLineEnds ('\r' :: rest.flatMap write) = _
          rw [unifyLineEnds, if_pos rfl]
          · rfl
          · intro after _ begins
            rw [begins] at noFeed
            exact noFeed rfl
        · rw [if_neg isReturn, unifyLineEnds_append_of_not_mem (keeps.noReturn point isReturn), ih]
      · exact single

end Text

/-! ### Numbers -/

namespace Text

theorem isDigit_of_mem_decimal {n : Nat} {c : Char} (isIn : c ∈ decimal n) : c.isDigit :=
  Nat.isDigit_of_mem_toDigits (by decide) (by decide) isIn

theorem hexDigit?_of_isDigit {c : Char} (digit : c.isDigit) :
    hexDigit? c = some (c.toNat - '0'.toNat) := by
  obtain ⟨lower, upper⟩ := Char.isDigit_iff_toNat.mp digit
  have within : ('0' ≤ c && c ≤ '9') = true := by
    rw [Bool.and_eq_true, decide_eq_true_iff, decide_eq_true_iff]
    exact ⟨lower, upper⟩
  rw [hexDigit?, if_pos within]

theorem mapM_hexDigit? {digits : List Char} (all : ∀ c ∈ digits, c.isDigit) :
    digits.mapM hexDigit? = some (digits.map fun c => c.toNat - '0'.toNat) := by
  induction digits with
  | nil => rfl
  | cons c rest ih =>
      rw [List.mapM_cons, hexDigit?_of_isDigit (all c List.mem_cons_self),
        ih fun d isIn => all d (List.mem_cons_of_mem c isIn)]
      rfl

theorem positional_digits (start : Nat) (digits : List Char) :
    positional 10 start (digits.map fun c => c.toNat - '0'.toNat) =
      Nat.ofDigitChars 10 digits start := by
  induction digits generalizing start with
  | nil => rfl
  | cons c rest ih =>
      rw [List.map_cons, positional, ih, Nat.ofDigitChars_cons, Nat.mul_comm]

end Text

namespace Xml

theorem numbered?_decimal (n : Nat) :
    numbered? 10 (Text.decimal n) =
      if n.isValidChar && isChar (Char.ofNat n) then some (Char.ofNat n) else none := by
  have digits : ∀ c ∈ Text.decimal n, c.isDigit := fun c isIn => Text.isDigit_of_mem_decimal isIn
  have small : ((Text.decimal n).map fun c => c.toNat - '0'.toNat).any (10 ≤ ·) = false := by
    rw [List.any_eq_false]
    intro value isIn
    obtain ⟨c, isDigit, rfl⟩ := List.mem_map.mp isIn
    obtain ⟨-, upper⟩ := Char.isDigit_iff_toNat.mp (digits c isDigit)
    have nine : '9'.toNat = 57 := rfl
    have zero : '0'.toNat = 48 := rfl
    rw [decide_eq_true_iff]
    omega
  have nonempty : ((Text.decimal n).map fun c => c.toNat - '0'.toNat).isEmpty = false := by
    rw [List.isEmpty_eq_false_iff, Ne, List.map_eq_nil_iff]
    exact Nat.toDigits_ne_nil
  have value : Text.positional 10 0 ((Text.decimal n).map fun c => c.toNat - '0'.toNat) = n := by
    rw [Text.positional_digits]
    exact Nat.ofDigitChars_toDigits (by decide) (by decide)
  unfold numbered?
  rw [Text.mapM_hexDigit? digits, Option.bind_eq_bind, Option.bind_some, nonempty, small, value]
  rfl

theorem referred?_number (n : Nat) :
    referred? ('#' :: Text.decimal n) = numbered? 10 (Text.decimal n) := by
  have digits : ∀ c ∈ Text.decimal n, c.isDigit := fun c isIn => Text.isDigit_of_mem_decimal isIn
  cases written : Text.decimal n with
  | nil => rfl
  | cons c rest =>
      rw [written] at digits
      have digit := digits c List.mem_cons_self
      unfold referred?
      split
      · rename_i begins
        cases begins
        exact absurd digit (by decide)
      · rename_i begins
        cases begins
        rfl
      · rename_i other
        exact absurd rfl (other _)

/-! ### Reading references -/

/-- Behind anything else, a written row gives one character, or is refused. -/
def Denotes (plain : Char → Option Char) (written : List Char) (meant : Option Char) : Prop :=
  ∀ rest, decode plain none (written ++ rest) =
    meant.bind fun c => (decode plain none rest).map (c :: ·)

namespace Denotes

variable {plain : Char → Option Char}

theorem plain_char {c : Char} (other : c ≠ '&') : Denotes plain [c] (plain c) := by
  intro rest
  rw [List.singleton_append, decode, if_neg (by simpa using other)]
  cases plain c with
  | none => rfl
  | some settled => cases decode plain none rest <;> rfl

theorem pending {name : List Char} (unclosed : ';' ∉ name) (begun rest : List Char) :
    decode plain (some begun) (name ++ ';' :: rest) =
      (referred? (begun.reverse ++ name)).bind fun c => (decode plain none rest).map (c :: ·) := by
  induction name generalizing begun with
  | nil =>
      rw [List.nil_append, decode, if_pos (by decide), List.append_nil]
      cases referred? begun.reverse with
      | none => rfl
      | some c => cases decode plain none rest <;> rfl
  | cons c name ih =>
      rw [List.mem_cons, not_or] at unclosed
      rw [List.cons_append, decode, if_neg (by simpa using Ne.symm unclosed.1), ih unclosed.2,
        List.reverse_cons, List.append_assoc, List.singleton_append]

theorem reference {name : List Char} (unclosed : ';' ∉ name) :
    Denotes plain ('&' :: (name ++ [';'])) (referred? name) := by
  intro rest
  rw [List.cons_append, decode, if_pos (by decide), List.append_assoc, List.singleton_append]
  exact pending unclosed [] rest

end Denotes

theorem decode_flatMap {α : Type} {plain : Char → Option Char} {write : α → List Char}
    {meant : α → Option Char} (denotes : ∀ item, Denotes plain (write item) (meant item))
    (row : List α) : decode plain none (row.flatMap write) = row.mapM meant := by
  induction row with
  | nil => rfl
  | cons item rest ih =>
      rw [List.flatMap_cons, denotes, ih, List.mapM_cons]
      cases meant item with
      | none => rfl
      | some c => cases rest.mapM meant <;> rfl

/-! ### Written references -/

def heldChar? (c : Char) : Option Char :=
  if isChar c then some c else none

def heldPoint? (point : CodePoint) : Option Char :=
  point.char?.bind heldChar?

def isReferenceChar (c : Char) : Bool :=
  c.isAlphanum || ['&', '#', ';'].contains c

/-- A reference, by a name or by a number, and what a reader takes it for. -/
def IsReference (written : List Char) (meant : Option Char) : Prop :=
  ∃ name, written = '&' :: (name ++ [';']) ∧ (∀ c ∈ name, c ≠ ';' ∧ isReferenceChar c) ∧
    referred? name = meant

namespace IsReference

variable {written : List Char} {meant : Option Char}

theorem denotes (isReference : IsReference written meant) (plain : Char → Option Char) :
    Denotes plain written meant := by
  obtain ⟨name, rfl, clean, rfl⟩ := isReference
  exact .reference fun isIn => (clean _ isIn).1 rfl

theorem isReferenceChar_of_mem (isReference : IsReference written meant) {c : Char}
    (isIn : c ∈ written) : isReferenceChar c := by
  obtain ⟨name, rfl, clean, -⟩ := isReference
  rcases List.mem_cons.mp isIn with rfl | later
  · decide
  · rcases List.mem_append.mp later with inName | last
    · exact (clean c inName).2
    · rw [List.mem_singleton.mp last]
      decide

end IsReference

def references : List (Char × String) :=
  [('&', "&amp;"), ('<', "&lt;"), ('>', "&gt;"), ('"', "&quot;"), ('\r', "&#13;"), ('\n', "&#10;"),
    ('\t', "&#09;")]

theorem isReference_of_mem_references {c : Char} {reference : String}
    (isIn : (c, reference) ∈ references) : IsReference reference.toList (heldChar? c) := by
  have each : ∀ pair ∈ references, let name := (pair.2.toList.drop 1).dropLast
      pair.2.toList = '&' :: (name ++ [';']) ∧
        (name.all fun c => c != ';' && isReferenceChar c) ∧
        referred? name = heldChar? pair.1 := by decide
  obtain ⟨shape, clean, means⟩ := each _ isIn
  refine ⟨_, shape, ?_, means⟩
  intro c inName
  simpa using List.all_eq_true.mp clean c inName

theorem mem_references_of_contentReference? {c : Char} {reference : String}
    (given : Markup.contentReference? c = some reference) : (c, reference) ∈ references := by
  unfold Markup.contentReference? at given
  split at given <;> cases given <;> decide

theorem mem_references_of_valueReference? {c : Char} {reference : String}
    (given : Markup.valueReference? c = some reference) : (c, reference) ∈ references := by
  unfold Markup.valueReference? at given
  split at given
  case h_5 => exact mem_references_of_contentReference? given
  all_goals
    cases given
    decide

theorem mem_references_of_reference? {c : Char} {reference : String}
    (given : reference? c = some reference) : (c, reference) ∈ references := by
  unfold reference? at given
  split at given <;> cases given <;> decide

theorem isReferenceChar_of_isDigit {c : Char} (digit : c.isDigit) : c ≠ ';' ∧ isReferenceChar c := by
  constructor
  · rintro rfl
    exact absurd digit (by decide)
  · simp [isReferenceChar, Char.isAlphanum, digit]

theorem numbered_isReference (point : CodePoint) :
    IsReference (Markup.numbered point.number) (heldPoint? point) := by
  refine ⟨'#' :: Text.decimal point.number, rfl, ?_, ?_⟩
  · intro c isIn
    rcases List.mem_cons.mp isIn with rfl | digit
    · decide
    · exact isReferenceChar_of_isDigit (Text.isDigit_of_mem_decimal digit)
  · rw [referred?_number, numbered?_decimal]
    cases point with
    | char c =>
        have valid : c.toNat.isValidChar := c.valid
        simp [CodePoint.number, heldPoint?, heldChar?, CodePoint.char?, valid]
    | half offset =>
        have invalid : ¬(CodePoint.half offset).number.isValidChar := by
          simp only [CodePoint.number, CodePoint.firstHalf, Nat.isValidChar]
          omega
        simp [heldPoint?, CodePoint.char?, invalid]

/-! ### Writing -/

theorem asciiPoint_cases {table : Char → Option String}
    (listed : ∀ {c reference}, table c = some reference → (c, reference) ∈ references)
    (point : CodePoint) :
    (∃ c, point = .char c ∧ table c = none ∧ Markup.asciiPoint table point = [c]) ∨
      IsReference (Markup.asciiPoint table point) (heldPoint? point) := by
  cases point with
  | half offset => exact .inr (numbered_isReference (.half offset))
  | char c =>
      cases given : table c with
      | some reference =>
          right
          simp only [Markup.asciiPoint, given]
          exact isReference_of_mem_references (listed given)
      | none =>
          by_cases small : c.toNat < 0x80
          · left
            exact ⟨c, rfl, given, by simp [Markup.asciiPoint, given, small]⟩
          · right
            simp only [Markup.asciiPoint, given, if_neg small]
            exact numbered_isReference (.char c)

theorem escapeChar_cases (c : Char) :
    (reference? c = none ∧ escapeChar c = [c]) ∨ IsReference (escapeChar c) (heldChar? c) := by
  cases given : reference? c with
  | none =>
      left
      exact ⟨rfl, by rw [escapeChar, given]⟩
  | some reference =>
      right
      rw [escapeChar, given]
      exact isReference_of_mem_references (mem_references_of_reference? given)

theorem not_mem_asciiPoint {table : Char → Option String}
    (listed : ∀ {c reference}, table c = some reference → (c, reference) ∈ references) {mark : Char}
    (marked : table mark ≠ none) (unused : isReferenceChar mark = false) (point : CodePoint) :
    mark ∉ Markup.asciiPoint table point := by
  intro isIn
  rcases asciiPoint_cases listed point with ⟨c, -, plain, written⟩ | isReference
  · rw [written, List.mem_singleton] at isIn
    rw [isIn] at marked
    exact marked plain
  · rw [isReference.isReferenceChar_of_mem isIn] at unused
    cases unused

theorem not_mem_ascii {table : Char → Option String}
    (listed : ∀ {c reference}, table c = some reference → (c, reference) ∈ references) {mark : Char}
    (marked : table mark ≠ none) (unused : isReferenceChar mark = false) (text : Text) :
    mark ∉ (Markup.ascii table text).toList := by
  rw [Markup.ascii, String.toList_ofList, List.mem_flatMap]
  rintro ⟨point, -, isIn⟩
  exact not_mem_asciiPoint listed marked unused point isIn

theorem not_mem_escape {mark : Char} (marked : reference? mark ≠ none)
    (unused : isReferenceChar mark = false) (text : String) : mark ∉ (escape text).toList := by
  rw [escape, String.toList_ofList, List.mem_flatMap]
  rintro ⟨c, -, isIn⟩
  rcases escapeChar_cases c with ⟨plain, written⟩ | isReference
  · rw [written, List.mem_singleton] at isIn
    rw [isIn] at marked
    exact marked plain
  · rw [isReference.isReferenceChar_of_mem isIn] at unused
    cases unused

theorem asciiPoint_ne_nil {table : Char → Option String}
    (listed : ∀ {c reference}, table c = some reference → (c, reference) ∈ references)
    (point : CodePoint) : Markup.asciiPoint table point ≠ [] := by
  rcases asciiPoint_cases listed point with ⟨c, -, -, written⟩ | ⟨name, written, -⟩
  · rw [written]
    exact List.cons_ne_nil _ _
  · rw [written]
    exact List.cons_ne_nil _ _

theorem escapeChar_ne_nil (c : Char) : escapeChar c ≠ [] := by
  rcases escapeChar_cases c with ⟨-, written⟩ | ⟨name, written, -⟩
  · rw [written]
    exact List.cons_ne_nil _ _
  · rw [written]
    exact List.cons_ne_nil _ _

theorem keepsEnds_content : Text.KeepsEnds (Markup.asciiPoint Markup.contentReference?) := by
  have listed {c : Char} {reference : String}
      (given : Markup.contentReference? c = some reference) : (c, reference) ∈ references :=
    mem_references_of_contentReference? given
  refine ⟨rfl, rfl, fun point other isIn => ?_, fun point other isFeed => ?_,
    asciiPoint_ne_nil listed⟩
  · rcases asciiPoint_cases listed point with ⟨c, rfl, -, written⟩ | isReference
    · rw [written, List.mem_singleton] at isIn
      exact other (congrArg _ isIn.symm)
    · exact absurd (isReference.isReferenceChar_of_mem isIn) (by decide)
  · rcases asciiPoint_cases listed point with ⟨c, rfl, -, written⟩ | isReference
    · rw [written] at isFeed
      exact other (congrArg _ (Option.some.inj isFeed))
    · exact absurd (isReference.isReferenceChar_of_mem (List.mem_of_head? isFeed)) (by decide)

theorem keepsEnds_escape :
    Text.KeepsEnds fun point => escapeChar (point.char?.getD ' ') := by
  refine ⟨rfl, rfl, fun point other isIn => ?_, fun point other isFeed => ?_,
    fun point => escapeChar_ne_nil _⟩
  · rcases escapeChar_cases (point.char?.getD ' ') with ⟨-, written⟩ | isReference
    · rw [written, List.mem_singleton] at isIn
      cases point with
      | char c => exact other (congrArg _ isIn.symm)
      | half offset => cases isIn
    · exact absurd (isReference.isReferenceChar_of_mem isIn) (by decide)
  · rcases escapeChar_cases (point.char?.getD ' ') with ⟨-, written⟩ | isReference
    · rw [written] at isFeed
      cases point with
      | char c => exact other (congrArg _ (Option.some.inj isFeed))
      | half offset => cases isFeed
    · exact absurd (isReference.isReferenceChar_of_mem (List.mem_of_head? isFeed)) (by decide)

theorem unifyLineEnds_escape (row : List Char) :
    Text.unifyLineEnds (row.flatMap escapeChar) = (Text.unifyLineEnds row).flatMap escapeChar := by
  have written (chars : List Char) :
      (Text.ofChars chars).flatMap (fun point => escapeChar (point.char?.getD ' ')) =
        chars.flatMap escapeChar := List.flatMap_map _ _ _
  have settled := keepsEnds_escape.unifyLineEnds_flatMap (Text.ofChars row)
  rwa [written, Text.unifyPoints_ofChars, written] at settled

end Xml

end TypeLaws
