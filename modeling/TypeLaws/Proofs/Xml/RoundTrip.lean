import TypeLaws.Proofs.Xml.Tag

/-!
A printed document reads back as its tree: the same elements with the same attributes and texts, and
between the elements the line ends and tabs of the layout.
-/

namespace TypeLaws.Xml

def lineStart (depth : Nat) : String :=
  String.ofList ('\n' :: List.replicate depth '\t')

def settledAttributes (attributes : List (String × String)) : List (String × String) :=
  attributes.map fun pair => (pair.1, settledValue pair.2)

mutual

/-- A tree as it is read back from its printed form. -/
def readBack (depth : Nat) : Xml → Xml
  | .element name attributes children =>
      .element name (settledAttributes attributes)
        (match children with
        | [] => []
        | [.text content] => [.text (settledContent content)]
        | children => readBackAll (depth + 1) children ++ [.text (lineStart depth)])
  | .text content => .text (settledContent content)

def readBackAll (depth : Nat) : List Xml → List Xml
  | [] => []
  | child :: rest => .text (lineStart depth) :: child.readBack depth :: readBackAll depth rest

end

/-! What a tree says is still there when it is read back. -/

theorem isElement_readBack (depth : Nat) (tree : Xml) :
    (tree.readBack depth).isElement = tree.isElement := by
  cases tree with
  | element name attributes children => rfl
  | text content => rfl

theorem lookup_settledAttributes (name : String) (attributes : List (String × String)) :
    (settledAttributes attributes).lookup name = (attributes.lookup name).map settledValue := by
  induction attributes with
  | nil => rfl
  | cons pair rest ih =>
      obtain ⟨key, value⟩ := pair
      change ((key, settledValue value) :: settledAttributes rest).lookup name = _
      rw [List.lookup_cons, List.lookup_cons]
      cases name == key with
      | true => rfl
      | false => exact ih

theorem get?_readBack (name : String) (depth : Nat) (tree : Xml) :
    (tree.readBack depth).get? name = (tree.get? name).map settledValue := by
  cases tree with
  | element _ attributes children => exact lookup_settledAttributes name attributes
  | text content => rfl

theorem filter_readBackAll (depth : Nat) (children : List Xml) :
    (readBackAll depth children).filter isElement =
      (children.filter isElement).map (readBack depth) := by
  induction children with
  | nil => rfl
  | cons child rest ih =>
      have skipped : (Xml.text (lineStart depth)).isElement ≠ true := Bool.false_ne_true
      rw [readBackAll, List.filter_cons_of_neg skipped]
      cases kind : child.isElement with
      | true =>
          rw [List.filter_cons_of_pos kind, List.map_cons,
            List.filter_cons_of_pos ((isElement_readBack depth child).trans kind), ih]
      | false =>
          have out : child.isElement ≠ true := by simp [kind]
          rw [List.filter_cons_of_neg out, List.filter_cons_of_neg (by rwa [isElement_readBack]), ih]

theorem elements_readBack (depth : Nat) (tree : Xml) :
    (tree.readBack depth).elements = tree.elements.map (readBack (depth + 1)) := by
  cases tree with
  | text content => rfl
  | element name attributes children =>
      unfold readBack
      split
      · rfl
      · rfl
      · change (readBackAll (depth + 1) _ ++ [Xml.text (lineStart depth)]).filter isElement = _
        rw [List.filter_append, filter_readBackAll]
        exact List.append_nil _

structure AreNames (name : String) (keys : List String) : Prop where
  named : isName name.toList
  keysNamed : ∀ key ∈ keys, isName key.toList
  distinct : keys.Nodup

instance (name : String) (keys : List String) : Decidable (AreNames name keys) :=
  decidable_of_iff (isName name.toList ∧ (∀ key ∈ keys, isName key.toList) ∧ keys.Nodup)
    ⟨fun h => ⟨h.1, h.2.1, h.2.2⟩, fun h => ⟨h.named, h.keysNamed, h.distinct⟩⟩

theorem AreNames.isTag {name : String} {written : List (String × String)}
    (areNames : AreNames name (written.map Prod.fst))
    (unquoted : ∀ pair ∈ written, '"' ∉ pair.2.toList) : IsTag name written :=
  ⟨areNames.named, fun _ isIn => areNames.keysNamed _ (List.mem_map_of_mem isIn), areNames.distinct,
    unquoted⟩

theorem AreNames.isTag_escape {name : String} {attributes : List (String × String)}
    (areNames : AreNames name (attributes.map Prod.fst)) : IsTag name (escapeValues attributes) := by
  refine isTag (by rwa [escapeValues, List.map_map]) fun pair isIn => ?_
  obtain ⟨source, -, rfl⟩ := List.mem_map.mp isIn
  exact not_mem_escape (by decide) (by decide) source.2

theorem values?_escapeValues {attributes : List (String × String)}
    (held : ∀ pair ∈ attributes, holds pair.2) :
    values? (escapeValues attributes) = some (settledAttributes attributes) := by
  induction attributes with
  | nil => rfl
  | cons pair rest ih =>
      change ((value? (escape pair.2).toList).bind fun value =>
        (values? (escapeValues rest)).map ((pair.1, value) :: ·)) = _
      rw [value?_escape (held pair List.mem_cons_self),
        ih fun other isIn => held other (List.mem_cons_of_mem pair isIn)]
      rfl

/-- Elements that hold nothing, one text, or only elements. -/
inductive Regular : Xml → Prop where
  | empty {name : String} {attributes : List (String × String)}
      (areNames : AreNames name (attributes.map Prod.fst))
      (held : ∀ pair ∈ attributes, holds pair.2) : Regular (.element name attributes [])
  | holding {name : String} {attributes : List (String × String)}
      (areNames : AreNames name (attributes.map Prod.fst))
      (held : ∀ pair ∈ attributes, holds pair.2) {content : String} (nonempty : content ≠ "")
      (contentHeld : holds content) : Regular (.element name attributes [.text content])
  | around {name : String} {attributes : List (String × String)}
      (areNames : AreNames name (attributes.map Prod.fst))
      (held : ∀ pair ∈ attributes, holds pair.2) {children : List Xml} (nonempty : children ≠ [])
      (each : ∀ child ∈ children, Regular child) : Regular (.element name attributes children)

theorem lineStart_mem {depth : Nat} {c : Char} (isIn : c ∈ (lineStart depth).toList) :
    c = '\n' ∨ c = '\t' := by
  rw [lineStart, String.toList_ofList] at isIn
  rcases List.mem_cons.mp isIn with feed | tab
  · exact .inl feed
  · exact .inr (List.mem_replicate.mp tab).2

theorem lineStart_ne_nil (depth : Nat) : (lineStart depth).toList ≠ [] := by
  rw [lineStart, String.toList_ofList]
  exact List.cons_ne_nil _ _

theorem not_mem_lineStart (depth : Nat) : '<' ∉ (lineStart depth).toList := by
  intro isIn
  rcases lineStart_mem isIn with impossible | impossible <;> cases impossible

theorem escape_ne_nil {content : String} (nonempty : content ≠ "") :
    (escape content).toList ≠ [] := by
  rw [escape, String.toList_ofList]
  cases characters : content.toList with
  | nil => exact absurd (String.toList_eq_nil_iff.mp characters) nonempty
  | cons c rest =>
      rw [List.flatMap_cons]
      exact List.append_ne_nil_of_left_ne_nil (escapeChar_ne_nil c) _

theorem content?_lineStart (depth : Nat) :
    content? (lineStart depth).toList = some (lineStart depth) := by
  have each {c : Char} (isIn : c ∈ (lineStart depth).toList) :
      isChar c ∧ c ≠ '\r' ∧ escapeChar c = [c] := by
    rcases lineStart_mem isIn with rfl | rfl <;> decide
  have held : holds (lineStart depth) := List.all_eq_true.mpr fun c isIn => (each isIn).1
  have noReturn : '\r' ∉ (lineStart depth).toList := fun isIn => (each isIn).2.1 rfl
  -- A line start is written as it is.
  have written : escape (lineStart depth) = lineStart depth := by
    have same := List.map_congr_left fun c isIn => (each (c := c) isIn).2.2
    rw [escape, List.flatMap_def, same, ← List.flatMap_def, List.flatMap_singleton',
      String.ofList_toList]
  have read := content?_escape held
  rwa [written, settledContent_of_no_return noReturn] at read

/-- Between line starts there are elements, and behind the last one the closing tag. -/
theorem fills_lines (children : List Xml) (depth closing : Nat)
    (each : ∀ child ∈ children, ∃ row,
      (child.print depth).toList = List.replicate depth '\t' ++ '<' :: (row ++ ['\n']) ∧
        Adds row (some (child.readBack depth))) :
    ∃ inner, '\n' :: ((printAll depth children).toList ++ List.replicate closing '\t') = inner ∧
      Fills inner (some (readBackAll depth children ++ [.text (lineStart closing)])) := by
  induction children with
  | nil =>
      have fills := Fills.content (lineStart_ne_nil closing) (not_mem_lineStart closing) (.inl rfl)
        Fills.nil
      rw [content?_lineStart, List.append_nil] at fills
      refine ⟨_, ?_, fills⟩
      rw [lineStart, String.toList_ofList]
      rfl
  | cons child others ih =>
      obtain ⟨row, printed, adds⟩ := each child List.mem_cons_self
      obtain ⟨inner, printedAll, fills⟩ :=
        ih fun other isIn => each other (List.mem_cons_of_mem child isIn)
      -- The end of each line is read together with the tabs of the next one.
      have line := Fills.content (lineStart_ne_nil depth) (not_mem_lineStart depth) (.inr ⟨_, rfl⟩)
        (Fills.element adds fills)
      rw [content?_lineStart] at line
      refine ⟨_, ?_, line⟩
      rw [printAll, String.toList_append, printed, ← printedAll, lineStart, String.toList_ofList]
      simp only [List.append_assoc, List.cons_append, List.nil_append]

/-- A regular tree stands on lines of its own, and reading them adds it. -/
theorem Regular.exists_row {tree : Xml} (regular : Regular tree) (depth : Nat) :
    ∃ row, (tree.print depth).toList = List.replicate depth '\t' ++ '<' :: (row ++ ['\n']) ∧
      Adds row (some (tree.readBack depth)) := by
  induction regular generalizing depth with
  | empty areNames held =>
      have adds := Adds.whole areNames.isTag_escape (.inr (.inl rfl)) (List.cons_ne_nil '/' [])
      rw [values?_escapeValues held] at adds
      refine ⟨_, ?_, adds⟩
      simp [print, toList_openingText]
  | @holding name attributes areNames held content nonempty contentHeld =>
      have noTag : '<' ∉ (escape content).toList := not_mem_escape (by decide) (by decide) content
      have adds := Adds.around areNames.isTag_escape
        (.content (escape_ne_nil nonempty) noTag (.inl rfl) .nil)
      rw [values?_escapeValues held, content?_escape contentHeld, List.append_nil] at adds
      refine ⟨_, ?_, adds⟩
      simp [print, toList_openingText, toList_closingText]
  | @around name attributes areNames held children nonempty each ih =>
      obtain ⟨inner, printed, fills⟩ :=
        fills_lines children (depth + 1) depth fun child isIn => ih child isIn (depth + 1)
      have printAround : (Xml.element name attributes children).print depth =
          String.ofList (List.replicate depth '\t') ++ openingText name (escapeValues attributes) ++
            ">\n" ++ printAll (depth + 1) children ++ String.ofList (List.replicate depth '\t') ++
            closingText name ++ "\n" := by
        rw [print]
        · rintro rfl
          exact nonempty rfl
        · rintro content rfl
          cases each _ List.mem_cons_self
      have readAround : (Xml.element name attributes children).readBack depth =
          .element name (settledAttributes attributes)
            (readBackAll (depth + 1) children ++ [.text (lineStart depth)]) := by
        rw [readBack]
        · rintro rfl
          exact nonempty rfl
        · rintro content rfl
          cases each _ List.mem_cons_self
      have adds := Adds.around areNames.isTag_escape fills
      rw [values?_escapeValues held] at adds
      refine ⟨_, ?_, by rw [readAround]; exact adds⟩
      have opened : ">\n".toList = ['>', '\n'] := rfl
      have ended : "\n".toList = ['\n'] := rfl
      rw [printAround]
      simp only [String.toList_append, toList_openingText, toList_closingText, String.toList_ofList,
        opened, ended, ← printed, List.append_assoc, List.cons_append, List.nil_append]

theorem afterDeclaration?_declaration (text : List Char) :
    afterDeclaration? (declaration.toList ++ text) = some ('\n' :: text) := by
  let header := [("version", "1.0"), ("encoding", "utf-8")]
  have named : ∀ pair ∈ header, isName pair.1.toList := by decide
  have unquoted : ∀ pair ∈ header, '"' ∉ pair.2.toList := by decide
  have mark : Crosses none ['?'] none := Crosses.plain (by simp)
  have split : splitTag none ((header.flatMap attributeRow ++ ['?']) ++ '>' :: ('\n' :: text)) =
      some (header.flatMap attributeRow ++ ['?'], '\n' :: text) :=
    ((Crosses.attributeRows named unquoted).append mark).splitTag ('\n' :: text)
  have valued : values? header = some header := by decide
  have read := attributes?_rows (.inl rfl) named (by decide) unquoted
  rw [valued] at read
  have begins : "<?xml".toList.isPrefixOf (declaration.toList ++ text) = true := rfl
  rw [afterDeclaration?, if_pos begins]
  change ((splitTag none ((header.flatMap attributeRow ++ ['?']) ++ '>' :: ('\n' :: text))).bind
    fun found => (attributes? found.1.dropLast).bind fun read =>
      if found.1.getLast? == some '?' && isDeclaration read.1 && !read.2 then some found.2
      else none) = _
  rw [split]
  change ((attributes? (header.flatMap attributeRow ++ ['?']).dropLast).bind fun read =>
    if (header.flatMap attributeRow ++ ['?']).getLast? == some '?' && isDeclaration read.1 &&
      !read.2 then some ('\n' :: text)
    else none) = _
  rw [List.dropLast_concat, ← List.append_nil (header.flatMap attributeRow), read]
  rfl

theorem read?_document {tree : Xml} (regular : Regular tree) :
    read? tree.document = some (tree.readBack 0) := by
  obtain ⟨row, printed, adds⟩ := regular.exists_row 0
  have noTag : '<' ∉ ['\n'] := by decide
  rw [read?, document, String.toList_append, printed, afterDeclaration?_declaration]
  change Assembly.empty.readOn ('\n' :: ([] ++ '<' :: (row ++ ['\n']))) = _
  rw [Assembly.readOn_content noTag]
  change Assembly.empty.readOn ('<' :: (row ++ ['\n'])) = _
  rw [adds _ (.inl rfl)]
  change Assembly.readOn ⟨some (tree.readBack 0), []⟩ ['\n'] = _
  rw [Assembly.readOn, if_neg (by decide)]
  change Assembly.readOn ⟨some (tree.readBack 0), []⟩ [] = _
  rw [Assembly.readOn]
  rfl

end TypeLaws.Xml
