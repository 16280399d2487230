import TypeLaws.Proofs.Xml.Reference

/-!
Values of attributes and contents of elements, as they are read. Written in ASCII they come back as
they were, but for the line ends of contents, if XML can hold each of their code points, and are
refused otherwise. Written with escapes only they come back with a space for every blank in a value.
-/

namespace TypeLaws.Xml

theorem plainText_of_ne {c : Char} (other : c ≠ '<') : plainText c = heldChar? c := by
  simp [plainText, heldChar?, other]

theorem denotes_content (point : CodePoint) :
    Denotes plainText (Markup.asciiPoint Markup.contentReference? point) (heldPoint? point) := by
  rcases asciiPoint_cases mem_references_of_contentReference? point with
    ⟨c, rfl, plain, written⟩ | isReference
  · have noTag : c ≠ '<' := by
      rintro rfl
      cases plain
    have noMark : c ≠ '&' := by
      rintro rfl
      cases plain
    rw [written, show heldPoint? (.char c) = plainText c from (plainText_of_ne noTag).symm]
    exact .plain_char noMark
  · exact isReference.denotes plainText

theorem denotes_value (point : CodePoint) :
    Denotes plainValue (Markup.asciiPoint Markup.valueReference? point) (heldPoint? point) := by
  rcases asciiPoint_cases mem_references_of_valueReference? point with
    ⟨c, rfl, plain, written⟩ | isReference
  · have other (mark : Char) (marked : Markup.valueReference? mark ≠ none) : c ≠ mark := by
      rintro rfl
      exact marked plain
    have same : plainValue c = heldChar? c := by
      by_cases space : c = ' '
      · rw [space]
        rfl
      · have noBlank : isBlank c = false := by
          simp [isBlank, space, other '\t' (by decide), other '\n' (by decide),
            other '\r' (by decide)]
        rw [plainValue, noBlank]
        exact plainText_of_ne (other _ (by decide))
    rw [written, show heldPoint? (.char c) = plainValue c from same.symm]
    exact .plain_char (other _ (by decide))
  · exact isReference.denotes plainValue

/-- The characters of a text, if XML can hold them all. -/
def held? (text : Text) : Option (List Char) :=
  text.mapM heldPoint?

theorem held?_cons (point : CodePoint) (rest : Text) :
    held? (point :: rest) = (heldPoint? point).bind fun c => (held? rest).map (c :: ·) := by
  rw [held?, held?, List.mapM_cons]
  cases heldPoint? point with
  | none => rfl
  | some c => cases rest.mapM heldPoint? <;> rfl

theorem eq_char_of_heldPoint? {point : CodePoint} {c : Char} (held : heldPoint? point = some c) :
    point = .char c ∧ isChar c := by
  cases point with
  | half offset => cases held
  | char d =>
      obtain ⟨isHeld, same⟩ := Option.ite_none_right_eq_some.mp held
      cases same
      exact ⟨rfl, isHeld⟩

theorem unifyLineEnds_return {rest : List Char} (noFeed : rest.head? ≠ some '\n') :
    Text.unifyLineEnds ('\r' :: rest) = '\n' :: Text.unifyLineEnds rest := by
  rw [Text.unifyLineEnds, if_pos rfl]
  intro after _ begins
  rw [begins] at noFeed
  exact noFeed rfl

theorem held?_unifyPoints (text : Text) :
    held? (Text.unifyPoints text) = (held? text).map Text.unifyLineEnds := by
  induction text using Text.unifyPoints.induct with
  | case1 => rfl
  | case2 rest ih =>
      rw [Text.unifyPoints, held?_cons, held?_cons, held?_cons, ih]
      change ((held? rest).map _).map _ = (((held? rest).map _).map _).map _
      rw [Option.map_map, Option.map_map, Option.map_map]
      rfl
  | case3 point rest single ih =>
      rw [Text.unifyPoints, held?_cons, held?_cons, ih]
      · by_cases isReturn : point = .char '\r'
        · rw [if_pos isReturn, isReturn]
          change ((held? rest).map _).map _ = ((held? rest).map _).map _
          rw [Option.map_map, Option.map_map]
          refine Option.map_congr fun chars held => (unifyLineEnds_return fun isFeed => ?_).symm
          obtain ⟨after, rfl⟩ := List.head?_eq_some_iff.mp isFeed
          cases rest with
          | nil => cases held
          | cons next others =>
              rw [held?_cons] at held
              obtain ⟨d, nextHeld, held⟩ := Option.bind_eq_some_iff.mp held
              obtain ⟨_, -, same⟩ := Option.map_eq_some_iff.mp held
              cases same
              exact single others isReturn (congrArg (· :: others) (eq_char_of_heldPoint? nextHeld).1)
        · rw [if_neg isReturn]
          cases held : heldPoint? point with
          | none => rfl
          | some c =>
              have other : c ≠ '\r' := by
                rintro rfl
                exact isReturn (eq_char_of_heldPoint? held).1
              rw [Option.bind_some, Option.bind_some, Option.map_map, Option.map_map]
              refine Option.map_congr fun chars _ => ?_
              change c :: Text.unifyLineEnds chars = Text.unifyLineEnds ([c] ++ chars)
              rw [Text.unifyLineEnds_append_of_not_mem (by simpa using Ne.symm other)]
              rfl
      · exact single

theorem value?_ascii (text : Text) :
    value? (Markup.ascii Markup.valueReference? text).toList = (held? text).map String.ofList := by
  have noReturn : '\r' ∉ (Markup.ascii Markup.valueReference? text).toList :=
    not_mem_ascii mem_references_of_valueReference? (by decide) (by decide) text
  rw [value?, Text.unifyLineEnds_of_not_mem noReturn, Markup.ascii, String.toList_ofList,
    decode_flatMap denotes_value]
  exact (Option.map_eq_bind).symm

theorem hasSectionEnd_of_not_mem {row : List Char} (none : '>' ∉ row) : hasSectionEnd row = false := by
  induction row with
  | nil => rfl
  | cons c rest ih =>
      rw [hasSectionEnd, ih (fun isIn => none (List.mem_cons_of_mem c isIn)), Bool.or_false,
        ← Bool.not_eq_true, List.isPrefixOf_iff_prefix]
      rintro ⟨after, same⟩
      apply none
      rw [← same]
      simp

theorem content?_ascii (text : Text) :
    content? (Markup.ascii Markup.contentReference? text).toList =
      (held? text).map fun chars => String.ofList (Text.unifyLineEnds chars) := by
  have noEnd : '>' ∉ (Markup.ascii Markup.contentReference? text).toList :=
    not_mem_ascii mem_references_of_contentReference? (by decide) (by decide) text
  rw [content?, hasSectionEnd_of_not_mem noEnd, Markup.ascii, String.toList_ofList,
    keepsEnds_content.unifyLineEnds_flatMap, decode_flatMap denotes_content]
  change (held? (Text.unifyPoints text)).bind _ = _
  rw [held?_unifyPoints]
  cases held? text <;> rfl

def settledChar (c : Char) : Char :=
  if isBlank c then ' ' else c

/-- The value of an attribute as it is read back: blanks of any kind are spaces. -/
def settledValue (value : String) : String :=
  String.ofList ((Text.unifyLineEnds value.toList).map settledChar)

/-- A text as it is read back. -/
def settledContent (content : String) : String :=
  String.ofList (Text.unifyLineEnds content.toList)

def holds (text : String) : Bool :=
  text.toList.all isChar

theorem eq_ofChars_of_held? {text : Text} {chars : List Char} (held : held? text = some chars) :
    text = Text.ofChars chars ∧ chars.all isChar := by
  induction text generalizing chars with
  | nil =>
      cases held
      exact ⟨rfl, rfl⟩
  | cons point rest ih =>
      rw [held?_cons] at held
      obtain ⟨c, pointHeld, held⟩ := Option.bind_eq_some_iff.mp held
      obtain ⟨others, restHeld, same⟩ := Option.map_eq_some_iff.mp held
      cases same
      obtain ⟨rfl, isChar⟩ := eq_char_of_heldPoint? pointHeld
      obtain ⟨rfl, othersHeld⟩ := ih restHeld
      exact ⟨rfl, by rw [List.all_cons, isChar, othersHeld]; rfl⟩

theorem holds_of_held? {text : Text} {chars : List Char} (held : held? text = some chars) :
    holds (String.ofList chars) := by
  rw [holds, String.toList_ofList]
  exact (eq_ofChars_of_held? held).2

theorem isChar_of_mem_unifyLineEnds {row : List Char} (held : row.all isChar) :
    ∀ c ∈ Text.unifyLineEnds row, isChar c := by
  induction row using Text.unifyLineEnds.induct with
  | case1 => simp [Text.unifyLineEnds]
  | case2 rest ih =>
      simp only [List.all_cons, Bool.and_eq_true] at held
      rw [Text.unifyLineEnds]
      simp only [List.mem_cons, forall_eq_or_imp]
      exact ⟨held.2.1, ih held.2.2⟩
  | case3 c rest single ih =>
      simp only [List.all_cons, Bool.and_eq_true] at held
      rw [Text.unifyLineEnds]
      · simp only [List.mem_cons, forall_eq_or_imp]
        refine ⟨?_, ih held.2⟩
        split
        · decide
        · exact held.1
      · exact single

theorem denotes_escape_content (c : Char) : Denotes plainText (escapeChar c) (heldChar? c) := by
  rcases escapeChar_cases c with ⟨plain, written⟩ | isReference
  · have noTag : c ≠ '<' := by
      rintro rfl
      cases plain
    have noMark : c ≠ '&' := by
      rintro rfl
      cases plain
    rw [written, ← plainText_of_ne noTag]
    exact .plain_char noMark
  · exact isReference.denotes plainText

theorem denotes_escape_value (c : Char) :
    Denotes plainValue (escapeChar c) ((heldChar? c).map settledChar) := by
  cases blank : isBlank c with
  | true =>
      have blanks : c = ' ' ∨ c = '\t' ∨ c = '\n' ∨ c = '\r' := by
        simpa [isBlank, or_assoc] using blank
      obtain ⟨written, noMark, same⟩ : escapeChar c = [c] ∧ c ≠ '&' ∧
          plainValue c = (heldChar? c).map settledChar := by
        rcases blanks with rfl | rfl | rfl | rfl <;> decide
      rw [written, ← same]
      exact .plain_char noMark
  | false =>
      have settled : settledChar c = c := by rw [settledChar, blank]; rfl
      have same : (heldChar? c).map settledChar = heldChar? c := by
        unfold heldChar?
        split
        · exact congrArg some settled
        · rfl
      rw [same]
      rcases escapeChar_cases c with ⟨plain, written⟩ | isReference
      · have noTag : c ≠ '<' := by
          rintro rfl
          cases plain
        have noMark : c ≠ '&' := by
          rintro rfl
          cases plain
        have text : plainValue c = heldChar? c := by
          rw [plainValue, blank]
          exact plainText_of_ne noTag
        rw [written, ← text]
        exact .plain_char noMark
      · exact isReference.denotes plainValue

theorem mapM_heldChar? {row : List Char} (held : ∀ c ∈ row, isChar c) (settle : Char → Char) :
    row.mapM (fun c => (heldChar? c).map settle) = some (row.map settle) := by
  induction row with
  | nil => rfl
  | cons c rest ih =>
      rw [List.mapM_cons, heldChar?, if_pos (held c List.mem_cons_self),
        ih fun d isIn => held d (List.mem_cons_of_mem c isIn)]
      rfl

theorem value?_escape {value : String} (held : holds value) :
    value? (escape value).toList = some (settledValue value) := by
  rw [value?, escape, String.toList_ofList, unifyLineEnds_escape, decode_flatMap denotes_escape_value,
    mapM_heldChar? (isChar_of_mem_unifyLineEnds held)]
  rfl

theorem content?_escape {content : String} (held : holds content) :
    content? (escape content).toList = some (settledContent content) := by
  have noEnd : '>' ∉ (escape content).toList := not_mem_escape (by decide) (by decide) content
  have read := mapM_heldChar? (isChar_of_mem_unifyLineEnds held) id
  simp only [Option.map_id, id] at read
  rw [content?, hasSectionEnd_of_not_mem noEnd, escape, String.toList_ofList, unifyLineEnds_escape,
    decode_flatMap denotes_escape_content, read, List.map_id]
  rfl

theorem settledContent_of_no_return {content : String} (none : '\r' ∉ content.toList) :
    settledContent content = content := by
  rw [settledContent, Text.unifyLineEnds_of_not_mem none, String.ofList_toList]

def settledPoint (point : CodePoint) : CodePoint :=
  if point.isOf isBlank then .char ' ' else point

def valueReadBack (value : Text) : Text :=
  (Text.unifyPoints value).map settledPoint

def contentReadBack (content : Text) : Text :=
  Text.unifyPoints content

theorem ofString_settledValue (value : String) :
    Text.ofString (settledValue value) = valueReadBack value := by
  rw [valueReadBack, Text.ofString, Text.ofString, Text.unifyPoints_ofChars, settledValue,
    String.toList_ofList, Text.ofChars, Text.ofChars, List.map_map, List.map_map]
  refine List.map_congr_left fun c _ => ?_
  change CodePoint.char (settledChar c) = if isBlank c then .char ' ' else .char c
  unfold settledChar
  split <;> rfl

theorem ofString_settledContent (content : String) :
    Text.ofString (settledContent content) = contentReadBack content := by
  rw [contentReadBack, Text.ofString, Text.ofString, Text.unifyPoints_ofChars, settledContent,
    String.toList_ofList]

theorem unifyPoints_append_of_not_mem {first : Text} (none : .char '\r' ∉ first) (second : Text) :
    Text.unifyPoints (first ++ second) = first ++ Text.unifyPoints second := by
  induction first with
  | nil => rfl
  | cons point rest ih =>
      rw [List.mem_cons, not_or] at none
      have other : point ≠ .char '\r' := fun same => none.1 same.symm
      rw [List.cons_append, Text.unifyPoints, if_neg other, ih none.2, List.cons_append]
      intro _ same
      exact absurd same other

theorem unifyPoints_of_not_mem {text : Text} (none : .char '\r' ∉ text) :
    Text.unifyPoints text = text := by
  have same := unifyPoints_append_of_not_mem none []
  rw [List.append_nil] at same
  exact same.trans (List.append_nil text)

def IsClean (text : Text) : Prop :=
  ∀ point ∈ text, point ≠ .char '\t' ∧ point ≠ .char '\n' ∧ point ≠ .char '\r'

theorem IsClean.map_settledPoint {text : Text} (clean : IsClean text) :
    text.map settledPoint = text := by
  refine (List.map_congr_left fun point isIn => ?_).trans (List.map_id _)
  obtain ⟨noTab, noFeed, noReturn⟩ := clean point isIn
  cases point with
  | half offset => rfl
  | char c =>
      by_cases space : c = ' '
      · rw [space]
        rfl
      · have other : isBlank c = false := by
          simp only [ne_eq, CodePoint.char.injEq] at noTab noFeed noReturn
          simp [isBlank, space, noTab, noFeed, noReturn]
        simp [settledPoint, CodePoint.isOf, CodePoint.char?, other]

theorem IsClean.valueReadBack_append {first : Text} (clean : IsClean first) (second : Text) :
    valueReadBack (first ++ second) = first ++ valueReadBack second := by
  have noReturn : .char '\r' ∉ first := fun isIn => (clean _ isIn).2.2 rfl
  rw [valueReadBack, unifyPoints_append_of_not_mem noReturn, List.map_append, clean.map_settledPoint,
    valueReadBack]

theorem IsClean.valueReadBack {text : Text} (clean : IsClean text) : valueReadBack text = text := by
  have whole := clean.valueReadBack_append []
  rw [List.append_nil] at whole
  exact whole.trans (List.append_nil text)

end TypeLaws.Xml
