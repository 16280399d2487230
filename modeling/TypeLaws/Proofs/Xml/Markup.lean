import TypeLaws.Proofs.Xml.RoundTrip

/-!
What a reader makes of serialised elements. It gives back their tree if XML can hold every code point
in them, and nothing otherwise: the numbers that stand for the others refer to no character.
-/

namespace TypeLaws.Markup

open Xml

/-! ### Parsed elements -/

def parsedValues? : List (String × Text) → Option (List (String × String))
  | [] => some []
  | (name, value) :: rest =>
      (held? value).bind fun chars => (parsedValues? rest).map ((name, String.ofList chars) :: ·)

def parsedContent? (content : Text) : Option (List Xml) :=
  if content.isEmpty then some []
  else (held? content).map fun chars => [.text (String.ofList (Text.unifyLineEnds chars))]

mutual

def parsed? : Markup → Option Xml
  | .element name attributes content children =>
      (parsedValues? attributes).bind fun values =>
        (parsedContent? content).bind fun texts =>
          (parsedAll? children).map fun elements => .element name values (texts ++ elements)

def parsedAll? : List Markup → Option (List Xml)
  | [] => some []
  | child :: rest => child.parsed?.bind fun element => (parsedAll? rest).map (element :: ·)

end

/-! ### Reading -/

/-- Elements that hold nothing but text, or nothing but elements. -/
inductive Regular : Markup → Prop where
  | holding {name : String} {attributes : List (String × Text)}
      (areNames : AreNames name (attributes.map Prod.fst)) (content : Text) :
      Regular (.element name attributes content [])
  | around {name : String} {attributes : List (String × Text)}
      (areNames : AreNames name (attributes.map Prod.fst)) {children : List Markup}
      (nonempty : children ≠ []) (each : ∀ child ∈ children, Regular child) :
      Regular (.element name attributes [] children)

theorem isTag_written {name : String} {attributes : List (String × Text)}
    (areNames : AreNames name (attributes.map Prod.fst)) : IsTag name (writtenValues attributes) := by
  refine AreNames.isTag (by rwa [writtenValues, List.map_map]) fun pair isIn => ?_
  obtain ⟨source, -, rfl⟩ := List.mem_map.mp isIn
  exact not_mem_ascii mem_references_of_valueReference? (by decide) (by decide) source.2

theorem values?_writtenValues (attributes : List (String × Text)) :
    values? (writtenValues attributes) = parsedValues? attributes := by
  induction attributes with
  | nil => rfl
  | cons pair rest ih =>
      change ((value? (ascii valueReference? pair.2).toList).bind fun value =>
        (values? (writtenValues rest)).map ((pair.1, value) :: ·)) = _
      rw [value?_ascii, ih, Option.bind_map]
      rfl

theorem ascii_ne_nil {content : Text} (nonempty : content ≠ []) :
    (ascii contentReference? content).toList ≠ [] := by
  rw [ascii, String.toList_ofList]
  cases content with
  | nil => exact absurd rfl nonempty
  | cons point rest =>
      rw [List.flatMap_cons]
      exact List.append_ne_nil_of_left_ne_nil
        (asciiPoint_ne_nil mem_references_of_contentReference? point) _

theorem fills_content {content : Text} (nonempty : content ≠ []) :
    Fills (ascii contentReference? content).toList (parsedContent? content) := by
  have noTag : '<' ∉ (ascii contentReference? content).toList :=
    not_mem_ascii mem_references_of_contentReference? (by decide) (by decide) content
  have filled : parsedContent? content = (content? (ascii contentReference? content).toList).bind
      fun text => (some []).map (.text text :: ·) := by
    rw [parsedContent?, if_neg (mt List.isEmpty_iff.mp nonempty), content?_ascii]
    cases held? content <;> rfl
  have fills := Fills.content (ascii_ne_nil nonempty) noTag (.inl rfl) Fills.nil
  rwa [List.append_nil, ← filled] at fills

theorem fills_children {children : List Markup}
    (each : ∀ child ∈ children, ∃ row, child.serialise.toList = '<' :: row ∧
      Adds row child.parsed?) :
    Fills (serialiseAll children).toList (parsedAll? children) := by
  induction children with
  | nil => exact Fills.nil
  | cons child rest ih =>
      obtain ⟨row, written, adds⟩ := each child List.mem_cons_self
      have fills := Fills.element adds
        (ih fun other isIn => each other (List.mem_cons_of_mem child isIn))
      rw [serialiseAll, String.toList_append, written, List.cons_append, parsedAll?]
      exact fills

theorem Regular.exists_row {markup : Markup} (regular : Regular markup) :
    ∃ row, markup.serialise.toList = '<' :: row ∧ Adds row markup.parsed? := by
  induction regular with
  | @holding name attributes areNames content =>
      by_cases empty : content = []
      · have adds := Adds.whole (isTag_written areNames) (.inr (.inr rfl))
          (List.cons_ne_nil ' ' ['/'])
        have parsed : parsed? (.element name attributes content []) =
            (values? (writtenValues attributes)).map fun values => .element name values [] := by
          rw [parsed?, empty, values?_writtenValues]
          cases parsedValues? attributes <;> rfl
        refine ⟨_, ?_, by rw [parsed]; exact adds⟩
        simp [serialise, empty, toList_openingText]
      · have adds := Adds.around (isTag_written areNames) (fills_content empty)
        have parsed : parsed? (.element name attributes content []) =
            (values? (writtenValues attributes)).bind fun values =>
              (parsedContent? content).map (.element name values ·) := by
          rw [parsed?, values?_writtenValues]
          cases parsedValues? attributes with
          | none => rfl
          | some values => cases parsedContent? content <;> simp [parsedAll?]
        refine ⟨_, ?_, by rw [parsed]; exact adds⟩
        simp [serialise, empty, serialiseAll, toList_openingText, toList_closingText]
  | @around name attributes areNames children nonempty each ih =>
      have adds := Adds.around (isTag_written areNames) (fills_children ih)
      have parsed : parsed? (.element name attributes [] children) =
          (values? (writtenValues attributes)).bind fun values =>
            (parsedAll? children).map (.element name values ·) := by
        rw [parsed?, values?_writtenValues]
        rfl
      refine ⟨_, ?_, by rw [parsed]; exact adds⟩
      simp [serialise, nonempty, ascii, toList_openingText, toList_closingText]

theorem Regular.areNames {name : String} {attributes : List (String × Text)} {content : Text}
    {children : List Markup} (regular : Regular (.element name attributes content children)) :
    AreNames name (attributes.map Prod.fst) := by
  cases regular with
  | holding areNames => exact areNames
  | around areNames => exact areNames

theorem Regular.afterDeclaration? {markup : Markup} (regular : Regular markup) :
    Xml.afterDeclaration? markup.serialise.toList = some markup.serialise.toList := by
  obtain ⟨name, attributes, content, children⟩ := markup
  have named := regular.areNames.named
  have begins (rest : List Char) : "<?xml".toList.isPrefixOf
      ((openingText name (writtenValues attributes)).toList ++ rest) = false := by
    rw [toList_openingText, tagRow]
    cases chars : name.toList with
    | nil =>
        rw [chars] at named
        cases named
    | cons c more =>
        rw [chars] at named
        have other : ('?' == c) = false := by
          rw [beq_eq_false_iff_ne]
          rintro rfl
          exact not_mem_of_isName named (show isNameChar '?' = false by decide) List.mem_cons_self
        change ('?' == c && _) = false
        rw [other]
        rfl
  rw [Xml.afterDeclaration?, if_neg]
  rw [Bool.not_eq_true, serialise]
  split
  · rw [String.toList_append]
    exact begins _
  · simp only [String.toList_append, List.append_assoc]
    exact begins _

theorem read?_serialise {markup : Markup} (regular : Regular markup) :
    read? markup.serialise = markup.parsed? := by
  obtain ⟨row, written, adds⟩ := regular.exists_row
  rw [read?, regular.afterDeclaration?, written]
  change Assembly.empty.readOn ('<' :: row) = _
  rw [← List.append_nil row, adds _ (.inl rfl)]
  cases markup.parsed? with
  | none => rfl
  | some element =>
      change Assembly.readOn ⟨some element, []⟩ [] = _
      rw [Assembly.readOn]
      rfl

/-! ### Refusal -/

mutual

def texts : Markup → List Text
  | .element _ attributes content children =>
      attributes.map Prod.snd ++ content :: textsAll children

def textsAll : List Markup → List Text
  | [] => []
  | child :: rest => child.texts ++ textsAll rest

end

theorem parsedValues?_eq_none_iff (attributes : List (String × Text)) :
    parsedValues? attributes = none ↔ ∃ text ∈ attributes.map Prod.snd, held? text = none := by
  induction attributes with
  | nil => simp [parsedValues?]
  | cons pair rest ih =>
      simp only [parsedValues?, List.map_cons, List.mem_cons, or_and_right, exists_or,
        exists_eq_left, ← ih]
      cases held? pair.2 <;> simp

theorem parsedContent?_eq_none_iff (content : Text) :
    parsedContent? content = none ↔ held? content = none := by
  unfold parsedContent?
  split
  · rename_i empty
    rw [List.isEmpty_iff.mp empty]
    exact iff_of_false (by rintro ⟨⟩) (by rintro ⟨⟩)
  · rw [Option.map_eq_none_iff]

mutual

theorem parsed?_eq_none_iff : (markup : Markup) →
    (markup.parsed? = none ↔ ∃ text ∈ markup.texts, held? text = none)
  | .element name attributes content children => by
      have values := parsedValues?_eq_none_iff attributes
      have text := parsedContent?_eq_none_iff content
      have elements := parsedAll?_eq_none_iff children
      simp only [texts, List.mem_append, List.mem_cons, or_and_right, exists_or, exists_eq_left,
        ← values, ← text, ← elements, parsed?]
      cases parsedValues? attributes with
      | none => simp
      | some values => cases parsedContent? content <;> simp

theorem parsedAll?_eq_none_iff : (children : List Markup) →
    (parsedAll? children = none ↔ ∃ text ∈ textsAll children, held? text = none)
  | [] => by simp [parsedAll?, textsAll]
  | child :: rest => by
      have first := parsed?_eq_none_iff child
      have others := parsedAll?_eq_none_iff rest
      simp only [textsAll, List.mem_append, or_and_right, exists_or, ← first, ← others, parsedAll?]
      cases child.parsed? <;> simp

end

/-! ### Regular elements -/

theorem mem_parsedValues? {attributes : List (String × Text)} {values : List (String × String)}
    (parsed : parsedValues? attributes = some values) :
    values.map Prod.fst = attributes.map Prod.fst ∧ ∀ pair ∈ values, holds pair.2 := by
  induction attributes generalizing values with
  | nil =>
      cases parsed
      exact ⟨rfl, nofun⟩
  | cons pair rest ih =>
      obtain ⟨chars, held, parsed⟩ := Option.bind_eq_some_iff.mp parsed
      obtain ⟨others, further, same⟩ := Option.map_eq_some_iff.mp parsed
      cases same
      obtain ⟨keys, othersHeld⟩ := ih further
      rw [List.map_cons, List.map_cons, keys, List.forall_mem_cons]
      exact ⟨rfl, holds_of_held? held, othersHeld⟩

theorem map_parsed? {children : List Markup} {trees : List Xml}
    (parsed : parsedAll? children = some trees) : children.map parsed? = trees.map some := by
  induction children generalizing trees with
  | nil =>
      cases parsed
      rfl
  | cons child rest ih =>
      obtain ⟨tree, parsedChild, parsed⟩ := Option.bind_eq_some_iff.mp parsed
      obtain ⟨others, further, same⟩ := Option.map_eq_some_iff.mp parsed
      cases same
      rw [List.map_cons, List.map_cons, parsedChild, ih further]

theorem exists_child_of_mem {children : List Markup} {trees : List Xml}
    (parsed : parsedAll? children = some trees) {tree : Xml} (isIn : tree ∈ trees) :
    ∃ child ∈ children, child.parsed? = some tree := by
  have isSome : some tree ∈ children.map parsed? := map_parsed? parsed ▸ List.mem_map_of_mem isIn
  exact List.mem_map.mp isSome

theorem parsedContent?_cases {content : Text} {texts : List Xml}
    (parsed : parsedContent? content = some texts) :
    (content = [] ∧ texts = []) ∨ content ≠ [] ∧ ∃ chars, held? content = some chars ∧
      texts = [.text (String.ofList (Text.unifyLineEnds chars))] := by
  rw [parsedContent?] at parsed
  split at parsed
  · rename_i empty
    cases parsed
    exact .inl ⟨List.isEmpty_iff.mp empty, rfl⟩
  · rename_i nonempty
    obtain ⟨chars, held, same⟩ := Option.map_eq_some_iff.mp parsed
    exact .inr ⟨mt List.isEmpty_iff.mpr nonempty, chars, held, same.symm⟩

theorem Regular.of_parsed? {markup : Markup} (regular : Regular markup) {tree : Xml}
    (parsed : markup.parsed? = some tree) : Xml.Regular tree := by
  induction regular generalizing tree with
  | @holding name attributes areNames content =>
      obtain ⟨values, valued, parsed⟩ := Option.bind_eq_some_iff.mp parsed
      obtain ⟨texts, text, parsed⟩ := Option.bind_eq_some_iff.mp parsed
      cases parsed
      obtain ⟨keys, valuesHeld⟩ := mem_parsedValues? valued
      rw [← keys] at areNames
      rcases parsedContent?_cases text with ⟨-, rfl⟩ | ⟨nonempty, chars, held, rfl⟩
      · exact .empty areNames valuesHeld
      · obtain ⟨rfl, contentHeld⟩ := eq_ofChars_of_held? held
        have nonemptyEnds : Text.unifyLineEnds chars ≠ [] := by
          apply Text.unifyLineEnds_ne_nil
          rintro rfl
          exact nonempty rfl
        refine .holding areNames valuesHeld (fun empty => nonemptyEnds ?_) ?_
        · exact String.ofList_eq_empty_iff.mp empty
        · rw [holds, String.toList_ofList, List.all_eq_true]
          exact isChar_of_mem_unifyLineEnds contentHeld
  | @around name attributes areNames children nonempty each ih =>
      obtain ⟨values, valued, parsed⟩ := Option.bind_eq_some_iff.mp parsed
      obtain ⟨trees, elements, same⟩ := Option.map_eq_some_iff.mp parsed
      cases same
      obtain ⟨keys, valuesHeld⟩ := mem_parsedValues? valued
      rw [← keys] at areNames
      have parsedEach := map_parsed? elements
      refine .around areNames valuesHeld ?_ fun tree isIn => ?_
      · rintro rfl
        exact nonempty (List.map_eq_nil_iff.mp parsedEach)
      · obtain ⟨child, isChild, parsedChild⟩ := exists_child_of_mem elements isIn
        exact ih child isChild parsedChild

/-! ### Reading back -/

theorem lookup_parsedValues? {attributes : List (String × Text)} {values : List (String × String)}
    (parsed : parsedValues? attributes = some values) (key : String) :
    (values.lookup key).map Text.ofString = attributes.lookup key := by
  induction attributes generalizing values with
  | nil =>
      cases parsed
      rfl
  | cons pair rest ih =>
      obtain ⟨chars, held, parsed⟩ := Option.bind_eq_some_iff.mp parsed
      obtain ⟨others, further, same⟩ := Option.map_eq_some_iff.mp parsed
      cases same
      rw [List.lookup_cons, List.lookup_cons]
      cases key == pair.1 with
      | false => exact ih further
      | true =>
          change some (Text.ofString (String.ofList chars)) = some pair.2
          rw [(eq_ofChars_of_held? held).1, Text.ofString, String.toList_ofList]

theorem isElement_of_parsed? {markup : Markup} {tree : Xml} (parsed : markup.parsed? = some tree) :
    tree.isElement = true := by
  obtain ⟨name, attributes, content, children⟩ := markup
  obtain ⟨values, -, parsed⟩ := Option.bind_eq_some_iff.mp parsed
  obtain ⟨texts, -, parsed⟩ := Option.bind_eq_some_iff.mp parsed
  obtain ⟨trees, -, same⟩ := Option.map_eq_some_iff.mp parsed
  cases same
  rfl

/-- What printed elements say when they are read back from a depth. -/
structure ReadsBack (name : String) (attributes : List (String × Text)) (content : Text)
    (children : List Markup) (depth : Nat) (back : Xml) : Prop where
  named : back.name? = some name
  valued : ∀ key, (back.get? key).map Text.ofString = (attributes.lookup key).map valueReadBack
  elements : ∃ trees : List Xml, children.map parsed? = trees.map some ∧
    back.elements = trees.map (readBack (depth + 1))
  content : children = [] →
    if content = [] then back.children = []
    else ∃ shown, back.children = [.text shown] ∧ Text.ofString shown = contentReadBack content

theorem ReadsBack.only_element {name : String} {attributes : List (String × Text)}
    {content : Text} {child : Markup} {depth : Nat} {back : Xml}
    (readsBack : ReadsBack name attributes content [child] depth back) :
    ∃ tree, child.parsed? = some tree ∧ back.elements = [tree.readBack (depth + 1)] := by
  obtain ⟨trees, parsedEach, elements⟩ := readsBack.elements
  cases trees with
  | nil => cases parsedEach
  | cons tree others =>
      obtain ⟨parsed, noOthers⟩ := List.cons.inj parsedEach
      rw [List.map_nil, eq_comm, List.map_eq_nil_iff] at noOthers
      rw [noOthers] at elements
      exact ⟨tree, parsed, elements⟩

theorem readsBack_of_parsed? {name : String} {attributes : List (String × Text)} {content : Text}
    {children : List Markup} {tree : Xml}
    (parsed : parsed? (.element name attributes content children) = some tree) (depth : Nat) :
    ReadsBack name attributes content children depth (tree.readBack depth) := by
  obtain ⟨values, valued, parsed⟩ := Option.bind_eq_some_iff.mp parsed
  obtain ⟨texts, text, parsed⟩ := Option.bind_eq_some_iff.mp parsed
  obtain ⟨trees, elements, same⟩ := Option.map_eq_some_iff.mp parsed
  cases same
  refine ⟨rfl, fun key => ?_, ⟨trees, map_parsed? elements, ?_⟩, ?_⟩
  · rw [get?_readBack, ← lookup_parsedValues? valued key]
    change ((values.lookup key).map settledValue).map Text.ofString = _
    rw [Option.map_map, Option.map_map]
    exact Option.map_congr fun value _ => ofString_settledValue value
  · have noText : texts.filter isElement = [] := by
      rcases parsedContent?_cases text with ⟨-, rfl⟩ | ⟨-, chars, -, rfl⟩ <;> rfl
    have all : trees.filter isElement = trees := by
      rw [List.filter_eq_self]
      intro tree isIn
      obtain ⟨child, -, parsedChild⟩ := exists_child_of_mem elements isIn
      exact isElement_of_parsed? parsedChild
    rw [elements_readBack]
    change ((texts ++ trees).filter isElement).map _ = _
    rw [List.filter_append, noText, all, List.nil_append]
  · rintro rfl
    cases elements
    rcases parsedContent?_cases text with ⟨empty, rfl⟩ | ⟨nonempty, chars, held, rfl⟩
    · rw [if_pos empty]
      rfl
    · rw [if_neg nonempty]
      refine ⟨_, rfl, ?_⟩
      -- The line ends were settled when the elements were parsed, and are settled once more.
      rw [ofString_settledContent, (eq_ofChars_of_held? held).1, contentReadBack, contentReadBack,
        Text.ofString, String.toList_ofList, Text.unifyPoints_ofChars, Text.unifyPoints_ofChars,
        Text.unifyLineEnds_of_not_mem (Text.not_mem_unifyLineEnds chars)]

end TypeLaws.Markup
