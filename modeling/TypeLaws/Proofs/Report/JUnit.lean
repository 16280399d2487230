import Mathlib.Data.List.Nodup
import TypeLaws.Proofs.Check.Run
import TypeLaws.Proofs.Xml.Markup
import TypeLaws.Report.JUnit

/-!
A JUnit report reads back as the failures that were written: one case for each, in their order, with
the name, the headline and the text of the failure. It fails to be written only when XML has no way
to hold a code point.
-/

namespace TypeLaws

/-! ### Characters -/

namespace Xml

/-- The numbers of the characters of XML. -/
def IsCharacter (number : Nat) : Prop :=
  number = 0x9 ∨ number = 0xA ∨ number = 0xD ∨ (0x20 ≤ number ∧ number ≤ 0xD7FF) ∨
    (0xE000 ≤ number ∧ number ≤ 0xFFFD) ∨ (0x10000 ≤ number ∧ number ≤ 0x10FFFF)

theorem isChar_iff (c : Char) : isChar c ↔ IsCharacter c.toNat := by
  have same (d : Char) : c = d ↔ c.toNat = d.toNat := Char.toNat_inj.symm
  have space : ' ' ≤ c ↔ 0x20 ≤ c.toNat := Char.le_def
  have valid : c.toNat < 0xD800 ∨ 0xDFFF < c.toNat ∧ c.toNat < 0x110000 := c.valid
  have tab : '\t'.toNat = 0x9 := rfl
  have feed : '\n'.toNat = 0xA := rfl
  have back : '\r'.toNat = 0xD := rfl
  simp only [isChar, IsCharacter, Bool.or_eq_true, beq_iff_eq, Bool.and_eq_true, decide_eq_true_iff,
    same, space, tab, feed, back]
  omega

theorem heldPoint?_eq_none_iff (point : CodePoint) :
    heldPoint? point = none ↔ ¬IsCharacter point.number := by
  cases point with
  | char c =>
      rw [CodePoint.number, ← isChar_iff]
      simp [heldPoint?, heldChar?, CodePoint.char?]
  | half offset =>
      refine iff_of_true rfl ?_
      simp only [CodePoint.number, CodePoint.firstHalf, IsCharacter]
      omega

theorem held?_eq_none_iff (text : Text) :
    held? text = none ↔ ∃ point ∈ text, ¬IsCharacter point.number := by
  induction text with
  | nil => simp [held?]
  | cons point rest ih =>
      rw [held?_cons]
      simp only [List.mem_cons, or_and_right, exists_or, exists_eq_left, ← ih]
      rw [← heldPoint?_eq_none_iff]
      cases heldPoint? point <;> simp

end Xml

/-! ### Numbers -/

namespace Text

theorem ofString_injective : Function.Injective ofString := by
  intro s t same
  have chars : s.toList = t.toList := List.map_injective_iff.mpr (fun _ _ => CodePoint.char.inj) same
  exact String.toList_inj.mp chars

theorem decimal_injective : Function.Injective decimal := by
  intro m n same
  have value := congrArg (Nat.ofDigitChars 10 · 0) same
  simp only [decimal, Nat.ofDigitChars_toDigits (b := 10) (by decide) (by decide)] at value
  exact value

theorem isDigit_of_mem_ofChars_decimal {n : Nat} {point : CodePoint}
    (isIn : point ∈ ofChars (decimal n)) : ∃ c, point = .char c ∧ c.isDigit := by
  obtain ⟨c, isDigit, rfl⟩ := List.mem_map.mp isIn
  exact ⟨c, rfl, isDigit_of_mem_decimal isDigit⟩

end Text

theorem Xml.isClean_decimal (n : Nat) : IsClean (Text.ofChars (Text.decimal n)) := by
  intro point isIn
  obtain ⟨c, rfl, digit⟩ := Text.isDigit_of_mem_ofChars_decimal isIn
  refine ⟨?_, ?_, ?_⟩ <;> rintro ⟨⟩ <;> exact absurd digit (by decide)

namespace JUnit

variable (suite : Text) (cases : List Case)

/-! ### Failing to write -/

def texts : List Text :=
  suite :: cases.flatMap fun case => [case.name, case.headline, case.content]

theorem regular_testCase (number : Nat) (case : Case) : (testCase suite number case).Regular := by
  have names : Xml.AreNames "testcase" ["name", "classname"] := by decide
  refine .around names (List.cons_ne_nil _ _) fun child isIn => ?_
  rw [List.mem_singleton.mp isIn]
  split
  · have names : Xml.AreNames "failure" [] := by decide
    exact .holding names case.content
  · have names : Xml.AreNames "failure" ["message"] := by decide
    exact .holding names case.content

theorem regular_testCases (number : Nat) :
    ∀ child ∈ testCases suite number cases, child.Regular := by
  induction cases generalizing number with
  | nil => exact fun child isIn => absurd isIn List.not_mem_nil
  | cons case rest ih =>
      rw [testCases, List.forall_mem_cons]
      exact ⟨regular_testCase suite number case, ih (number + 1)⟩

theorem regular_tree : (tree suite cases).Regular := by
  have names : Xml.AreNames "testsuites" [] := by decide
  refine .around names (List.cons_ne_nil _ _) fun child isIn => ?_
  rw [List.mem_singleton.mp isIn]
  cases cases with
  | nil =>
      have names : Xml.AreNames "testsuite" ["name"] := by decide
      exact .holding names []
  | cons case rest =>
      have names : Xml.AreNames "testsuite"
          ["name", "tests", "errors", "failures", "skipped", "time"] := by decide
      exact .around names (List.cons_ne_nil _ _) (regular_testCases suite (case :: rest) 1)

theorem held?_append (first second : Text) :
    Xml.held? (first ++ second) = none ↔ Xml.held? first = none ∨ Xml.held? second = none := by
  simp only [Xml.held?_eq_none_iff, List.mem_append, or_and_right, exists_or]

theorem held?_decimal (n : Nat) : Xml.held? (Text.ofChars (Text.decimal n)) ≠ none := by
  rw [Ne, Xml.held?_eq_none_iff]
  rintro ⟨point, isIn, isNone⟩
  obtain ⟨c, rfl, digit⟩ := Text.isDigit_of_mem_ofChars_decimal isIn
  obtain ⟨lower, upper⟩ := Char.isDigit_iff_toNat.mp digit
  have zero : '0'.toNat = 48 := rfl
  have nine : '9'.toNat = 57 := rfl
  apply isNone
  rw [CodePoint.number, Xml.IsCharacter]
  omega

theorem held?_title (number : Nat) (case : Case) :
    Xml.held? (case.title number) = none ↔ Xml.held? case.name = none := by
  have colon : Xml.held? (": " : Text) ≠ none := by decide
  rw [Case.title, held?_append, held?_append, or_iff_right (by simp [held?_decimal, colon]),
    Case.shownName]
  split
  · rename_i empty
    rw [List.isEmpty_iff.mp empty]
    exact iff_of_false (by decide) (by decide)
  · rfl

theorem held?_counts : ∀ text ∈ (counts cases).map Prod.snd, Xml.held? text ≠ none := by
  have zero : Xml.held? ("0" : Text) ≠ none := by decide
  unfold counts
  split
  · exact nofun
  · simp only [List.map_cons, List.map_nil, List.forall_mem_cons]
    exact ⟨held?_decimal _, zero, held?_decimal _, zero, zero, nofun⟩

theorem refused_testCase (number : Nat) (case : Case) :
    (∃ text ∈ (testCase suite number case).texts, Xml.held? text = none) ↔
      Xml.held? suite = none ∨
        ∃ text ∈ [case.name, case.headline, case.content], Xml.held? text = none := by
  have empty : Xml.held? [] ≠ none := by rintro ⟨⟩
  have message : (∃ text ∈ (if case.headline.isEmpty then [] else [("message", case.headline)]).map
      Prod.snd, Xml.held? text = none) ↔ Xml.held? case.headline = none := by
    split
    · rename_i blank
      rw [List.isEmpty_iff.mp blank]
      simp [empty]
    · simp
  simp only [testCase, Markup.texts, Markup.textsAll, List.map_cons, List.map_nil, List.append_nil,
    List.mem_append, List.mem_cons, List.not_mem_nil, or_and_right, exists_or, exists_eq_left, empty,
    held?_title, message, or_false, false_or]
  grind

theorem refused_testCases (number : Nat) :
    (∃ text ∈ Markup.textsAll (testCases suite number cases), Xml.held? text = none) ↔
      ∃ case ∈ cases, Xml.held? suite = none ∨
        ∃ text ∈ [case.name, case.headline, case.content], Xml.held? text = none := by
  induction cases generalizing number with
  | nil => simp [testCases, Markup.textsAll]
  | cons case rest ih =>
      simp only [testCases, Markup.textsAll, List.mem_append, or_and_right, exists_or, ih,
        refused_testCase, List.mem_cons, exists_eq_left]

theorem parsed?_tree_eq_none_iff :
    (tree suite cases).parsed? = none ↔ ∃ text ∈ texts suite cases, Xml.held? text = none := by
  have empty : Xml.held? [] ≠ none := by rintro ⟨⟩
  have counted : ¬∃ text ∈ (counts cases).map Prod.snd, Xml.held? text = none := by
    rintro ⟨text, isIn, refused⟩
    exact held?_counts cases text isIn refused
  rw [Markup.parsed?_eq_none_iff]
  simp only [tree, Markup.texts, Markup.textsAll, List.map_cons, List.map_nil, List.append_nil,
    List.nil_append, List.mem_append, List.mem_cons, or_and_right, exists_or, exists_eq_left,
    refused_testCases, texts, List.mem_flatMap]
  grind

theorem write?_eq_none_iff :
    write? suite cases = none ↔
      ∃ text ∈ texts suite cases, ∃ point ∈ text, ¬Xml.IsCharacter point.number := by
  simp only [← Xml.held?_eq_none_iff]
  rw [← parsed?_tree_eq_none_iff, write?, Markup.read?_serialise (regular_tree suite cases),
    Option.map_eq_none_iff]

/-! ### What is read back -/

variable {suite : Text} {cases : List Case}

structure IsCase (value content : Text → Text) (suite : Text) (number : Nat) (case : Case)
    (element : Xml) : Prop where
  isCase : element.name? = some "testcase"
  named : (element.get? "name").map Text.ofString = some (value (case.title number))
  classed : (element.get? "classname").map Text.ofString = some (value suite)
  failed : ∃ result, element.elements = [result] ∧ result.name? = some "failure" ∧
    (result.get? "message").map Text.ofString =
      (if case.headline = [] then none else some (value case.headline)) ∧
    if case.content = [] then result.children = []
    else ∃ shown, result.children = [.text shown] ∧ Text.ofString shown = content case.content

structure IsSuite (value content : Text → Text) (suite : Text) (cases : List Case) (only : Xml) :
    Prop where
  isSuite : only.name? = some "testsuite"
  named : (only.get? "name").map Text.ofString = some (value suite)
  counted : cases ≠ [] →
    only.get? "tests" = some (String.ofList (Text.decimal cases.length)) ∧
    only.get? "failures" = some (String.ofList (Text.decimal cases.length)) ∧
    only.get? "errors" = some "0" ∧ only.get? "skipped" = some "0"
  asMany : only.elements.length = cases.length
  cases : ∀ index case, cases[index]? = some case →
    ∃ element, only.elements[index]? = some element ∧
      IsCase value content suite (index + 1) case element
  distinct : (only.elements.map (·.get? "name")).Nodup

structure IsReport (value content : Text → Text) (suite : Text) (cases : List Case) (root : Xml) :
    Prop where
  isRoot : root.name? = some "testsuites"
  holding : ∃ only, root.elements = [only] ∧ IsSuite value content suite cases only

theorem isCase_of_parsed? {number depth : Nat} {case : Case} {tree : Xml}
    (parsed : (testCase suite number case).parsed? = some tree) :
    IsCase Xml.valueReadBack Xml.contentReadBack suite number case (tree.readBack depth) := by
  have back := Markup.readsBack_of_parsed? parsed depth
  obtain ⟨result, parsedResult, elements⟩ := back.only_element
  have resultBack := Markup.readsBack_of_parsed? parsedResult (depth + 1)
  refine ⟨back.named, back.valued "name", back.valued "classname", _, elements, resultBack.named, ?_,
    resultBack.content rfl⟩
  rw [resultBack.valued]
  by_cases empty : case.headline = []
  · rw [if_pos empty, if_pos (List.isEmpty_iff.mpr empty)]
    rfl
  · rw [if_neg empty, if_neg (mt List.isEmpty_iff.mp empty)]
    rfl

theorem getElem?_testCases (number index : Nat) :
    (testCases suite number cases)[index]? =
      cases[index]?.map (testCase suite (number + index)) := by
  induction cases generalizing number index with
  | nil => rfl
  | cons case rest ih =>
      cases index with
      | zero => rfl
      | succ index =>
          rw [testCases, List.getElem?_cons_succ, ih, List.getElem?_cons_succ, Nat.add_assoc,
            Nat.add_comm 1]

theorem length_testCases (number : Nat) : (testCases suite number cases).length = cases.length := by
  induction cases generalizing number with
  | nil => rfl
  | cons case rest ih => rw [testCases, List.length_cons, ih, List.length_cons]

def digitsOf (name : Option String) : Option Text :=
  name.map fun name => (Text.ofString name).takeWhile (· != .char ':')

theorem digitsOf_of_isCase {number : Nat} {case : Case} {element : Xml}
    (isCase : IsCase Xml.valueReadBack Xml.contentReadBack suite number case element) :
    digitsOf (element.get? "name") = some (Text.ofChars (Text.decimal number)) := by
  have noColon : ∀ point ∈ Text.ofChars (Text.decimal number), (point != .char ':') = true := by
    intro point isIn
    obtain ⟨c, rfl, digit⟩ := Text.isDigit_of_mem_ofChars_decimal isIn
    rw [bne_iff_ne]
    rintro ⟨⟩
    exact absurd digit (by decide)
  have separator : Xml.IsClean (": " : Text) := by
    unfold Xml.IsClean
    decide
  have named := isCase.named
  rw [Case.title, List.append_assoc, (Xml.isClean_decimal number).valueReadBack_append,
    separator.valueReadBack_append] at named
  obtain ⟨name, isName, written⟩ := Option.map_eq_some_iff.mp named
  rw [isName, digitsOf, Option.map_some, written, List.takeWhile_append_of_pos noColon]
  change some (Text.ofChars (Text.decimal number) ++ []) = _
  rw [List.append_nil]

theorem distinct_names {elements : List Xml} (asMany : elements.length = cases.length)
    (each : ∀ index case, cases[index]? = some case → ∃ element, elements[index]? = some element ∧
      IsCase Xml.valueReadBack Xml.contentReadBack suite (index + 1) case element) :
    (elements.map (·.get? "name")).Nodup := by
  -- The names may be equal behind their numbers, which no reader changes.
  apply List.Nodup.of_map digitsOf
  have numbers : (elements.map (·.get? "name")).map digitsOf =
      (List.range elements.length).map fun k => some (Text.ofChars (Text.decimal (k + 1))) := by
    apply List.ext_getElem?
    intro index
    simp only [List.getElem?_map]
    by_cases within : index < elements.length
    · obtain ⟨element, found, isCase⟩ := each index _ (List.getElem?_eq_getElem (asMany ▸ within))
      rw [found, List.getElem?_range within]
      exact congrArg some (digitsOf_of_isCase isCase)
    · rw [List.getElem?_eq_none (Nat.le_of_not_lt within),
        List.getElem?_eq_none (by rw [List.length_range]; exact Nat.le_of_not_lt within)]
      rfl
  have injective : Function.Injective fun k => some (Text.ofChars (Text.decimal (k + 1))) := by
    intro m n same
    have chars : Text.decimal (m + 1) = Text.decimal (n + 1) :=
      List.map_injective_iff.mpr (fun _ _ => CodePoint.char.inj) (Option.some.inj same)
    exact Nat.succ.inj (Text.decimal_injective chars)
  rw [numbers]
  exact List.Nodup.map injective List.nodup_range

theorem isSuite_of_parsed? {depth : Nat} {tree : Xml}
    (parsed : (Markup.element "testsuite" (("name", suite) :: counts cases) []
      (testCases suite 1 cases)).parsed? = some tree) :
    IsSuite Xml.valueReadBack Xml.contentReadBack suite cases (tree.readBack depth) := by
  have back := Markup.readsBack_of_parsed? parsed depth
  obtain ⟨trees, parsedEach, elements⟩ := back.elements
  have asMany : trees.length = cases.length := by
    have lengths := congrArg List.length parsedEach
    rw [List.length_map, List.length_map, length_testCases] at lengths
    exact lengths.symm
  have each : ∀ index case, cases[index]? = some case →
      ∃ element, (tree.readBack depth).elements[index]? = some element ∧
        IsCase Xml.valueReadBack Xml.contentReadBack suite (index + 1) case element := by
    intro index case found
    have planned : (trees.map some)[index]? = some (testCase suite (1 + index) case).parsed? := by
      rw [← parsedEach, List.getElem?_map, getElem?_testCases, found]
      rfl
    rw [List.getElem?_map, Option.map_eq_some_iff] at planned
    obtain ⟨element, isIn, parsedElement⟩ := planned
    rw [Nat.add_comm] at parsedElement
    refine ⟨element.readBack (depth + 1), ?_, isCase_of_parsed? parsedElement.symm⟩
    rw [elements, List.getElem?_map, isIn]
    rfl
  have counted {key : String} (count : Nat) (isCount : (("name", suite) :: counts cases).lookup key =
      some (Text.ofChars (Text.decimal count))) :
      (tree.readBack depth).get? key = some (String.ofList (Text.decimal count)) := by
    apply Option.map_injective Text.ofString_injective
    rw [back.valued, isCount, Option.map_some, (Xml.isClean_decimal count).valueReadBack,
      Option.map_some, Text.ofString, String.toList_ofList]
  refine ⟨back.named, back.valued "name", fun nonempty => ?_, ?_, each, ?_⟩
  · obtain ⟨first, rest, rfl⟩ := List.exists_cons_of_ne_nil nonempty
    exact ⟨counted _ rfl, counted _ rfl, counted 0 rfl, counted 0 rfl⟩
  · rw [elements, List.length_map, asMany]
  · exact distinct_names (by rw [elements, List.length_map, asMany]) each

theorem isReport_of_parsed? {root : Xml} (parsed : (tree suite cases).parsed? = some root) :
    IsReport Xml.valueReadBack Xml.contentReadBack suite cases (root.readBack 0) := by
  have back := Markup.readsBack_of_parsed? parsed 0
  obtain ⟨only, parsedOnly, elements⟩ := back.only_element
  exact ⟨back.named, _, elements, isSuite_of_parsed? parsedOnly⟩

/-- Nothing is a blank that would be read back as another one. -/
structure IsPlain (suite : Text) (cases : List Case) : Prop where
  values : ∀ text ∈ suite :: cases.flatMap fun case => [case.name, case.headline], Xml.IsClean text
  contents : ∀ case ∈ cases, .char '\r' ∉ case.content

theorem IsPlain.title (plain : IsPlain suite cases) {case : Case} (isIn : case ∈ cases)
    (number : Nat) : Xml.IsClean (case.title number) := by
  have name : Xml.IsClean case.shownName := by
    unfold Case.shownName
    split
    · unfold Xml.IsClean
      decide
    · exact plain.values _ (List.mem_cons_of_mem _
        (List.mem_flatMap.mpr ⟨case, isIn, List.mem_cons_self⟩))
  have separator : Xml.IsClean (": " : Text) := by
    unfold Xml.IsClean
    decide
  intro point isPart
  rw [Case.title, List.mem_append, List.mem_append] at isPart
  rcases isPart with (digit | mark) | letter
  · exact Xml.isClean_decimal number point digit
  · exact separator point mark
  · exact name point letter

theorem IsCase.plain {number : Nat} {case : Case} {element : Xml}
    (isCase : IsCase Xml.valueReadBack Xml.contentReadBack suite number case element)
    (plain : IsPlain suite cases) (isIn : case ∈ cases) :
    IsCase id id suite number case element := by
  obtain ⟨kind, named, classed, result, only, failed, message, content⟩ := isCase
  have headline : Xml.IsClean case.headline := plain.values _ (List.mem_cons_of_mem _
    (List.mem_flatMap.mpr ⟨case, isIn, List.mem_cons_of_mem _ List.mem_cons_self⟩))
  rw [(plain.title isIn number).valueReadBack] at named
  rw [(plain.values suite List.mem_cons_self).valueReadBack] at classed
  rw [headline.valueReadBack] at message
  rw [Xml.contentReadBack, Xml.unifyPoints_of_not_mem (plain.contents case isIn)] at content
  exact ⟨kind, named, classed, result, only, failed, message, content⟩

theorem IsReport.plain {root : Xml}
    (isReport : IsReport Xml.valueReadBack Xml.contentReadBack suite cases root)
    (plain : IsPlain suite cases) : IsReport id id suite cases root := by
  obtain ⟨isRoot, only, elements, isSuite⟩ := isReport
  refine ⟨isRoot, only, elements, isSuite.isSuite, ?_, isSuite.counted, isSuite.asMany, ?_,
    isSuite.distinct⟩
  · have named := isSuite.named
    rwa [(plain.values suite List.mem_cons_self).valueReadBack] at named
  · intro index case found
    obtain ⟨element, isElement, isCase⟩ := isSuite.cases index case found
    exact ⟨element, isElement, isCase.plain plain (List.mem_of_getElem? found)⟩

theorem read?_of_write? {report : String} (written : write? suite cases = some report) :
    ∃ root, Xml.read? report = some root ∧
      IsReport Xml.valueReadBack Xml.contentReadBack suite cases root := by
  have regular := regular_tree suite cases
  rw [write?, Markup.read?_serialise regular] at written
  obtain ⟨tree, parsed, rfl⟩ := Option.map_eq_some_iff.mp written
  exact ⟨_, Xml.read?_document (regular.of_parsed? parsed), isReport_of_parsed? parsed⟩

end JUnit

namespace Collector

theorem runFrom_writeJUnit (suite : Text) (target : String) (journal : Journal) :
    (writeJUnit suite target).runFrom .collecting journal =
      match JUnit.write? suite (journal.failures.map Failure.case) with
      | none => (.error .unwritable, journal)
      | some text => (.ok text, journal.note ⟨.debug, Log.exportLogger,
          JUnit.writtenMessage journal.failures.length target⟩) := by
  have required : (require "write_junit").runFrom .collecting journal = (.ok (), journal) := rfl
  have got : (get : Check Journal).runFrom .collecting journal = (.ok journal, journal) := rfl
  rw [writeJUnit, Check.runFrom_bind_ok _ required, Check.runFrom_bind_ok _ got]
  dsimp only
  generalize JUnit.write? suite (journal.failures.map Failure.case) = written
  cases written with
  | none => rfl
  | some text => rfl

def written (suite : Text) (target : String) (journal : Journal) : Except Stop String :=
  ((writeJUnit suite target).runFrom .collecting journal).1

end Collector

/--
A report is written unless some code point cannot be held, and then it says what was written: one
suite with one case for each failure, under distinct names. Where no blank is read back as another
one, all names and texts are the same as before. A collecting reporter writes the report of its
failures.
-/
theorem written_report_reads_back (suite : Text) (cases : List JUnit.Case) :
    (JUnit.write? suite cases = none ↔
      ∃ text ∈ JUnit.texts suite cases, ∃ point ∈ text, ¬Xml.IsCharacter point.number) ∧
    (∀ report, JUnit.write? suite cases = some report → ∃ root, Xml.read? report = some root ∧
      JUnit.IsReport Xml.valueReadBack Xml.contentReadBack suite cases root ∧
      (JUnit.IsPlain suite cases → JUnit.IsReport id id suite cases root)) ∧
    ∀ target journal, journal.failures.map Failure.case = cases →
      Collector.written suite target journal =
        match JUnit.write? suite cases with
        | some report => .ok report
        | none => .error .unwritable := by
  refine ⟨JUnit.write?_eq_none_iff suite cases, fun report written => ?_, ?_⟩
  · obtain ⟨root, read, isReport⟩ := JUnit.read?_of_write? written
    exact ⟨root, read, isReport, isReport.plain⟩
  · rintro target journal rfl
    rw [Collector.written, Collector.runFrom_writeJUnit]
    cases JUnit.write? suite (journal.failures.map Failure.case) <;> rfl

def JUnit.markupFailure : Failure :=
  ⟨"", [⟨"<\"a\">", some (.text "&é")⟩, ⟨"]]>", none⟩]⟩

/-- Markup goes through; half of a pair does not. -/
theorem report_of_markup_reads_back :
    (∃ report root,
      Collector.written "a & b" "junit.xml" ⟨[JUnit.markupFailure], []⟩ = .ok report ∧
        Xml.read? report = some root ∧
        JUnit.IsReport id id "a & b" [JUnit.markupFailure.case] root) ∧
      JUnit.write? [.char 'a', .half 0] [] = none := by
  obtain ⟨unwritable, readable, writes⟩ :=
    written_report_reads_back "a & b" [JUnit.markupFailure.case]
  have rendered : JUnit.markupFailure.render = Text.ofString "<\"a\">: &é\n]]>" := by
    decide +kernel
  have texts : JUnit.texts "a & b" [JUnit.markupFailure.case] =
      ["a & b", "", "<\"a\">", "<\"a\">: &é\n]]>"] := by
    simp only [JUnit.texts, List.flatMap_cons, List.flatMap_nil, List.append_nil, Failure.case,
      rendered]
    rfl
  have fine : JUnit.write? "a & b" [JUnit.markupFailure.case] ≠ none := by
    rw [Ne, unwritable, texts]
    unfold Xml.IsCharacter
    decide
  obtain ⟨report, written⟩ := Option.ne_none_iff_exists'.mp fine
  obtain ⟨root, read, -, exactly⟩ := readable report written
  refine ⟨⟨report, root, ?_, read, exactly ⟨?_, ?_⟩⟩, ?_⟩
  · rw [writes "junit.xml" ⟨[JUnit.markupFailure], []⟩ rfl, written]
  · change ∀ text ∈ ([.ofString "a & b", .ofString "", .ofString "<\"a\">"] : List Text),
      Xml.IsClean text
    unfold Xml.IsClean
    decide
  · intro case isIn
    rw [List.mem_singleton.mp isIn, Failure.case, rendered]
    decide
  · rw [(written_report_reads_back _ _).1]
    refine ⟨_, List.mem_cons_self, .half 0, by decide, ?_⟩
    unfold Xml.IsCharacter
    decide

end TypeLaws
