import TypeLaws.Proofs.Xml.Value

/-!
Reading tags and what stands between them. A tag is known by its name and by its attributes as they
are written; whether it can be read depends on their values only. What an element adds to the one
around it is put together from its tags and from what fills it.
-/

namespace TypeLaws.Xml

/-! ### Names -/

theorem isNameChar_of_isName {name : List Char} (named : isName name) :
    ∀ c ∈ name, isNameChar c := by
  cases name with
  | nil => cases named
  | cons c rest =>
      simp only [isName, Bool.and_eq_true, List.all_eq_true] at named
      intro d isIn
      rcases List.mem_cons.mp isIn with rfl | later
      · simp [isNameChar, named.1]
      · exact named.2 d later

theorem not_mem_of_isName {name : List Char} (named : isName name) {mark : Char}
    (isMark : isNameChar mark = false) : mark ∉ name := by
  intro isIn
  rw [isNameChar_of_isName named mark isIn] at isMark
  cases isMark

theorem takeWhile_name {name : List Char} (named : isName name) {rest : List Char}
    (ends : rest.head?.any isNameChar = false) : (name ++ rest).takeWhile isNameChar = name := by
  rw [List.takeWhile_append_of_pos (isNameChar_of_isName named)]
  cases rest with
  | nil => exact List.append_nil name
  | cons c rest => rw [List.takeWhile_cons_of_neg (by simpa using ends), List.append_nil]

theorem dropWhile_name {name : List Char} (named : isName name) {rest : List Char}
    (ends : rest.head?.any isNameChar = false) : (name ++ rest).dropWhile isNameChar = rest := by
  rw [List.dropWhile_append_of_pos (isNameChar_of_isName named)]
  cases rest with
  | nil => rfl
  | cons c rest => rw [List.dropWhile_cons_of_neg (by simpa using ends)]

theorem isBlank_of_isNameChar {c : Char} (named : isNameChar c) : isBlank c = false := by
  cases blank : isBlank c with
  | false => rfl
  | true =>
      simp only [isBlank, Bool.or_eq_true, beq_iff_eq] at blank
      rcases blank with ((rfl | rfl) | rfl) | rfl <;> revert named <;> decide

/-! ### Attributes -/

def attributeRow (pair : String × String) : List Char :=
  ' ' :: (pair.1.toList ++ '=' :: '"' :: (pair.2.toList ++ ['"']))

theorem toList_attributeText (pair : String × String) :
    (attributeText pair).toList = attributeRow pair := by
  simp [attributeText, attributeRow]

theorem toList_join_attributes (written : List (String × String)) :
    (String.join (written.map attributeText)).toList = written.flatMap attributeRow := by
  induction written with
  | nil => rfl
  | cons pair rest ih =>
      rw [List.map_cons, String.join_cons, String.toList_append, toList_attributeText, ih,
        List.flatMap_cons]

theorem takeWhile_quoted {row : List Char} (none : '"' ∉ row) (rest : List Char) :
    (row ++ '"' :: rest).takeWhile (· != '"') = row := by
  have all : ∀ c ∈ row, (c != '"') = true := by
    intro c isIn
    simpa using fun same : c = '"' => none (same ▸ isIn)
  rw [List.takeWhile_append_of_pos all, List.takeWhile_cons_of_neg (by simp), List.append_nil]

theorem dropWhile_quoted {row : List Char} (none : '"' ∉ row) (rest : List Char) :
    (row ++ '"' :: rest).dropWhile (· != '"') = '"' :: rest := by
  have all : ∀ c ∈ row, (c != '"') = true := by
    intro c isIn
    simpa using fun same : c = '"' => none (same ▸ isIn)
  rw [List.dropWhile_append_of_pos all, List.dropWhile_cons_of_neg (by simp)]

theorem quoted?_of_not_mem {row : List Char} (none : '"' ∉ row) (rest : List Char) :
    quoted? ('"' :: (row ++ '"' :: rest)) = some (row, rest) := by
  rw [quoted?, if_pos (by decide), dropWhile_quoted none, takeWhile_quoted none]
  rfl

theorem attribute?_row {name : List Char} (named : isName name) {raw : List Char}
    (none : '"' ∉ raw) (rest : List Char) :
    attribute? (name ++ '=' :: '"' :: (raw ++ '"' :: rest)) =
      some ((String.ofList name, raw), rest) := by
  have ends : ('=' :: '"' :: (raw ++ '"' :: rest)).head?.any isNameChar = false := by
    simp only [List.head?_cons, Option.any_some]
    decide
  unfold attribute?
  rw [takeWhile_name named ends, dropWhile_name named ends,
    List.dropWhile_cons_of_neg (by decide)]
  change ((quoted? (('"' :: (raw ++ '"' :: rest)).dropWhile isBlank)).bind fun found =>
    if isName name then some ((String.ofList name, found.1), found.2) else .none) = _
  rw [List.dropWhile_cons_of_neg (by decide), quoted?_of_not_mem none]
  change (if isName name then some ((String.ofList name, raw), rest) else .none) = _
  rw [if_pos named]

/-- A tag whose parts can be told apart, whatever its values are. -/
structure IsTag (name : String) (written : List (String × String)) : Prop where
  named : isName name.toList
  attributesNamed : ∀ pair ∈ written, isName pair.1.toList
  distinct : (written.map Prod.fst).Nodup
  unquoted : ∀ pair ∈ written, '"' ∉ pair.2.toList

def values? : List (String × String) → Option (List (String × String))
  | [] => some []
  | (name, raw) :: rest =>
      (value? raw.toList).bind fun value => (values? rest).map ((name, value) :: ·)

theorem names_of_values? {written attributes : List (String × String)}
    (read : values? written = some attributes) : attributes.map Prod.fst = written.map Prod.fst := by
  induction written generalizing attributes with
  | nil =>
      cases read
      rfl
  | cons pair rest ih =>
      obtain ⟨value, -, read⟩ := Option.bind_eq_some_iff.mp read
      obtain ⟨others, further, same⟩ := Option.map_eq_some_iff.mp read
      cases same
      rw [List.map_cons, List.map_cons, ih further]

theorem attributes?_cons {row raw after : List Char} {c : Char} {name : String}
    {others : Option (List (String × String))} {closed : Bool} (noBlank : isBlank c = false)
    (noSlash : c ≠ '/') (read : attribute? (c :: row) = some ((name, raw), after))
    (further : attributes? after = others.map (·, closed))
    (fresh : ∀ pairs, others = some pairs → name ∉ pairs.map Prod.fst) :
    attributes? (' ' :: c :: row) =
      ((value? raw).bind fun value => others.map ((name, value) :: ·)).map (·, closed) := by
  have blanks : (' ' :: c :: row).dropWhile isBlank = c :: row := by
    rw [List.dropWhile_cons_of_pos (by decide), List.dropWhile_cons_of_neg (by simp [noBlank])]
  rw [attributes?]
  -- Neither the end of the tag nor its slash comes next, so it is the attribute that is read.
  split
  · rename_i empty
    rw [blanks] at empty
    cases empty
  · rename_i slash
    rw [blanks] at slash
    cases slash
    exact absurd rfl noSlash
  · rename_i first rest _ found
    rw [blanks] at found
    cases found
    have blank : (' ' :: c :: row).head?.any isBlank = true := rfl
    rw [if_pos blank]
    split
    · rename_i missing
      rw [read] at missing
      cases missing
    · rename_i name' raw' after' read'
      rw [read] at read'
      cases read'
      change ((value? raw).bind fun value => (attributes? after).bind fun found =>
        if found.1.any (·.1 == name) then none else some ((name, value) :: found.1, found.2)) = _
      rw [further]
      cases value? raw with
      | none => rfl
      | some value =>
          cases others with
          | none => rfl
          | some pairs =>
              have unused : pairs.any (·.1 == name) = false := by
                rw [List.any_eq_false]
                intro pair isIn same
                exact fresh pairs rfl (List.mem_map.mpr ⟨pair, isIn, eq_of_beq same⟩)
              change (if pairs.any (·.1 == name) then none
                else some ((name, value) :: pairs, closed)) = _
              rw [unused]
              rfl

/-- What may follow the attributes in a tag: a slash ends the element too. -/
def Tails (tail : List Char) : Prop :=
  tail = [] ∨ tail = ['/'] ∨ tail = [' ', '/']

theorem attributes?_tail {tail : List Char} (tails : Tails tail) :
    attributes? tail = some ([], !tail.isEmpty) := by
  rcases tails with rfl | rfl | rfl
  · rw [attributes?]
    rfl
  · rw [attributes?]
    rfl
  · rw [attributes?]
    rfl

theorem attributes?_rows {written : List (String × String)} {tail : List Char} (tails : Tails tail)
    (named : ∀ pair ∈ written, isName pair.1.toList) (distinct : (written.map Prod.fst).Nodup)
    (unquoted : ∀ pair ∈ written, '"' ∉ pair.2.toList) :
    attributes? (written.flatMap attributeRow ++ tail) =
      (values? written).map (·, !tail.isEmpty) := by
  induction written with
  | nil => exact attributes?_tail tails
  | cons pair rest ih =>
      obtain ⟨name, raw⟩ := pair
      rw [List.map_cons, List.nodup_cons] at distinct
      have further := ih (fun pair isIn => named pair (List.mem_cons_of_mem _ isIn)) distinct.2
        fun pair isIn => unquoted pair (List.mem_cons_of_mem _ isIn)
      have nameNamed : isName name.toList := named _ List.mem_cons_self
      have read := attribute?_row nameNamed (unquoted _ List.mem_cons_self)
        (rest.flatMap attributeRow ++ tail)
      have row : (((name, raw) :: rest).flatMap attributeRow) ++ tail =
          ' ' :: (name.toList ++ '=' :: '"' ::
            (raw.toList ++ '"' :: (rest.flatMap attributeRow ++ tail))) := by
        simp [attributeRow]
      have fresh : ∀ pairs, values? rest = some pairs → name ∉ pairs.map Prod.fst := by
        intro pairs found
        rw [names_of_values? found]
        exact distinct.1
      rw [row]
      -- The name begins with neither a blank nor a slash.
      cases chars : name.toList with
      | nil =>
          rw [chars] at nameNamed
          cases nameNamed
      | cons c more =>
          rw [chars] at read nameNamed
          have isNamed := isNameChar_of_isName nameNamed c List.mem_cons_self
          rw [← chars, String.ofList_toList] at read
          rw [chars] at read
          have noSlash : c ≠ '/' := by
            rintro rfl
            revert isNamed
            decide
          exact attributes?_cons (isBlank_of_isNameChar isNamed) noSlash read further fresh

/-! ### Tags -/

/-- Reading a row inside a tag leads from one state of quoting to another. -/
def Crosses (before : Option Char) (row : List Char) (after : Option Char) : Prop :=
  ∀ rest, splitTag before (row ++ rest) =
    (splitTag after rest).map fun (inside, after) => (row ++ inside, after)

namespace Crosses

theorem nil (quote : Option Char) : Crosses quote [] quote := by
  intro rest
  exact (congrFun Option.map_id _).symm

theorem append {before middle after : Option Char} {first second : List Char}
    (crossesFirst : Crosses before first middle) (crossesSecond : Crosses middle second after) :
    Crosses before (first ++ second) after := by
  intro rest
  rw [List.append_assoc, crossesFirst, crossesSecond, Option.map_map]
  congr 1
  funext found
  exact Prod.ext (List.append_assoc _ _ _).symm rfl

theorem quote : Crosses none ['"'] (some '"') := by
  intro rest
  rfl

theorem unquote : Crosses (some '"') ['"'] none := by
  intro rest
  rfl

theorem plain {row : List Char} (clean : ∀ c ∈ row, c ≠ '>' ∧ c ≠ '"' ∧ c ≠ '\'') :
    Crosses none row none := by
  induction row with
  | nil => exact nil none
  | cons c row ih =>
      obtain ⟨noEnd, noQuote, noQuote'⟩ := clean c List.mem_cons_self
      have first : Crosses none [c] none := by
        intro rest
        rw [List.singleton_append, splitTag]
        simp [noEnd, noQuote, noQuote']
      exact first.append (ih fun d isIn => clean d (List.mem_cons_of_mem c isIn))

theorem quoted {row : List Char} (none : '"' ∉ row) : Crosses (some '"') row (some '"') := by
  induction row with
  | nil => exact nil _
  | cons c row ih =>
      rw [List.mem_cons, not_or] at none
      have first : Crosses (some '"') [c] (some '"') := by
        intro rest
        rw [List.singleton_append, splitTag]
        simp [Ne.symm none.1]
      exact first.append (ih none.2)

theorem name {name : List Char} (named : isName name) : Crosses none name none := by
  refine plain fun c isIn => ⟨?_, ?_, ?_⟩
  · rintro rfl
    exact not_mem_of_isName named (by decide) isIn
  · rintro rfl
    exact not_mem_of_isName named (by decide) isIn
  · rintro rfl
    exact not_mem_of_isName named (by decide) isIn

theorem attributeRow {pair : String × String} (named : isName pair.1.toList)
    (unquoted : '"' ∉ pair.2.toList) : Crosses none (attributeRow pair) none := by
  have space : Crosses none [' '] none := plain (by simp)
  have equals : Crosses none ['='] none := plain (by simp)
  have parts : Xml.attributeRow pair =
      [' '] ++ (pair.1.toList ++ (['='] ++ (['"'] ++ (pair.2.toList ++ ['"'])))) := by
    simp only [Xml.attributeRow, List.cons_append, List.nil_append]
  have value : Crosses none (['"'] ++ (pair.2.toList ++ ['"'])) none :=
    quote.append ((quoted unquoted).append unquote)
  rw [parts]
  exact space.append ((name named).append (equals.append value))

theorem attributeRows {written : List (String × String)}
    (named : ∀ pair ∈ written, isName pair.1.toList)
    (unquoted : ∀ pair ∈ written, '"' ∉ pair.2.toList) :
    Crosses none (written.flatMap Xml.attributeRow) none := by
  induction written with
  | nil => exact nil none
  | cons pair rest ih =>
      exact (attributeRow (named pair List.mem_cons_self) (unquoted pair List.mem_cons_self)).append
        (ih (fun pair isIn => named pair (List.mem_cons_of_mem _ isIn))
          fun pair isIn => unquoted pair (List.mem_cons_of_mem _ isIn))

theorem tail {tail : List Char} (tails : Tails tail) : Crosses none tail none := by
  rcases tails with rfl | rfl | rfl
  · exact nil none
  · exact plain (by simp)
  · exact plain (by simp)

theorem splitTag {row : List Char} (crosses : Crosses none row none) (rest : List Char) :
    Xml.splitTag none (row ++ '>' :: rest) = some (row, rest) := by
  rw [crosses]
  change some (row ++ [], rest) = some (row, rest)
  rw [List.append_nil]

end Crosses

def tagRow (name : String) (written : List (String × String)) : List Char :=
  name.toList ++ written.flatMap attributeRow

theorem toList_openingText (name : String) (written : List (String × String)) :
    (openingText name written).toList = '<' :: tagRow name written := by
  rw [openingText, String.toList_append, String.toList_append, toList_join_attributes, tagRow]
  rfl

theorem toList_closingText (name : String) :
    (closingText name).toList = '<' :: '/' :: (name.toList ++ ['>']) := by
  simp [closingText]

namespace IsTag

variable {name : String} {written : List (String × String)}

theorem crosses (isTag : IsTag name written) : Crosses none (tagRow name written) none :=
  (Crosses.name isTag.named).append (Crosses.attributeRows isTag.attributesNamed isTag.unquoted)

theorem head?_rows {tail : List Char} (tails : Tails tail) :
    (written.flatMap attributeRow ++ tail).head?.any isNameChar = false := by
  cases written with
  | nil => rcases tails with rfl | rfl | rfl <;> decide
  | cons pair rest =>
      change isNameChar ' ' = false
      decide

theorem tag?_row (isTag : IsTag name written) {tail : List Char} (tails : Tails tail) :
    tag? (tagRow name written ++ tail) = (values? written).map fun attributes =>
      if tail.isEmpty then .opening name attributes else .whole name attributes := by
  have ends : (written.flatMap attributeRow ++ tail).head?.any isNameChar = false :=
    head?_rows tails
  have noSlash : expect '/' (tagRow name written ++ tail) = none := by
    have named := isTag.named
    rw [tagRow, List.append_assoc]
    cases chars : name.toList with
    | nil =>
        rw [chars] at named
        cases named
    | cons c more =>
        have other : c ≠ '/' := by
          rintro rfl
          apply not_mem_of_isName isTag.named (show isNameChar '/' = false by decide)
          rw [chars]
          exact List.mem_cons_self
        rw [List.cons_append, expect, if_neg (by simpa using other)]
  unfold tag?
  rw [noSlash, tagRow, List.append_assoc, takeWhile_name isTag.named ends,
    dropWhile_name isTag.named ends,
    attributes?_rows tails isTag.attributesNamed isTag.distinct isTag.unquoted]
  cases values? written with
  | none => rfl
  | some attributes =>
      change (if !isName name.toList then none
        else if !tail.isEmpty then some (Tag.whole (String.ofList name.toList) attributes)
        else some (Tag.opening (String.ofList name.toList) attributes)) = _
      rw [isTag.named, String.ofList_toList]
      rcases tails with rfl | rfl | rfl <;> rfl

end IsTag

theorem tag?_closing {name : String} (named : isName name.toList) :
    tag? ('/' :: name.toList) = some (.closing name) := by
  have taken := takeWhile_name named (show ([] : List Char).head?.any isNameChar = false from rfl)
  have dropped := dropWhile_name named (show ([] : List Char).head?.any isNameChar = false from rfl)
  rw [List.append_nil] at taken dropped
  unfold tag?
  change (if isName (name.toList.takeWhile isNameChar) &&
      (name.toList.dropWhile isNameChar).all isBlank then
    some (Tag.closing (String.ofList (name.toList.takeWhile isNameChar))) else none) = _
  rw [taken, dropped, named, String.ofList_toList]
  rfl

/-! ### Reading on -/

namespace Assembly

theorem readOn_tag {assembly : Assembly} {inside after : List Char}
    (crosses : Crosses none inside none) :
    assembly.readOn ('<' :: (inside ++ '>' :: after)) =
      (tag? inside).bind fun tag => (assembly.addTag tag).bind (readOn · after) := by
  rw [readOn, if_pos (by decide)]
  split
  · rename_i missing
    rw [crosses.splitTag] at missing
    cases missing
  · rename_i inside' after' found
    rw [crosses.splitTag] at found
    cases found
    rfl

theorem readOn_content {assembly : Assembly} {c : Char} {raw after : List Char}
    (none : '<' ∉ c :: raw) :
    assembly.readOn (c :: (raw ++ '<' :: after)) =
      (assembly.addContent (c :: raw)).bind (readOn · ('<' :: after)) := by
  have all : ∀ d ∈ raw, (d != '<') = true := by
    intro d isIn
    simpa using fun same : d = '<' => none (List.mem_cons_of_mem c (same ▸ isIn))
  have other : c ≠ '<' := fun same => none (same ▸ List.mem_cons_self)
  rw [readOn, if_neg (by simpa using other), List.takeWhile_append_of_pos all,
    List.dropWhile_append_of_pos all, List.takeWhile_cons_of_neg (by decide),
    List.dropWhile_cons_of_neg (by decide), List.append_nil]
  rfl

def IsOpen (assembly : Assembly) : Prop :=
  assembly.root = none ∨ assembly.frames ≠ []

theorem addTag_opening {assembly : Assembly} (isOpen : assembly.IsOpen) (name : String)
    (attributes : List (String × String)) :
    assembly.addTag (.opening name attributes) =
      some ⟨assembly.root, ⟨name, attributes, []⟩ :: assembly.frames⟩ := by
  obtain ⟨root, frames⟩ := assembly
  refine if_neg ?_
  intro full
  simp only [Bool.and_eq_true, List.isEmpty_iff] at full
  rcases isOpen with unrooted | framed
  · change root = none at unrooted
    rw [unrooted] at full
    cases full.1
  · exact framed full.2

theorem addTag_closing (assembly : Assembly) (frame : Frame) :
    addTag (.closing frame.name) ⟨assembly.root, frame :: assembly.frames⟩ =
      assembly.add frame.element := by
  exact if_pos (beq_self_eq_true frame.name)

theorem readOn_content_before_tag {raw : List Char} (nonempty : raw ≠ []) (noTag : '<' ∉ raw)
    (root : Option Xml) (frame : Frame) (frames : List Frame) (after : List Char) :
    readOn ⟨root, frame :: frames⟩ (raw ++ '<' :: after) =
      (content? raw).bind fun content =>
        readOn ⟨root, frame.add (.text content) :: frames⟩ ('<' :: after) := by
  cases raw with
  | nil => exact absurd rfl nonempty
  | cons c raw =>
      rw [List.cons_append, readOn_content noTag]
      simp only [addContent]
      cases content? (c :: raw) <;> rfl

end Assembly

/-! ### Elements -/

/-- A row that begins with a tag and adds an element where it is read, or is refused. -/
def Adds (row : List Char) (element : Option Xml) : Prop :=
  ∀ assembly : Assembly, assembly.IsOpen → ∀ rest, assembly.readOn ('<' :: (row ++ rest)) =
    element.bind fun element => (assembly.add element).bind (·.readOn rest)

/-- A row that adds children to an open element up to the next tag, or is refused. -/
def Fills (row : List Char) (children : Option (List Xml)) : Prop :=
  ∀ root frame frames after,
    Assembly.readOn ⟨root, frame :: frames⟩ (row ++ '<' :: after) =
      children.bind fun children =>
        Assembly.readOn ⟨root, { frame with children := frame.children ++ children } :: frames⟩
          ('<' :: after)

namespace Fills

variable {inner : List Char} {children : Option (List Xml)}

theorem nil : Fills [] (some []) := by
  intro root frame frames after
  rw [List.nil_append, Option.bind_some, List.append_nil]

theorem element {row : List Char} {element : Option Xml} (adds : Adds row element)
    (fills : Fills inner children) :
    Fills ('<' :: (row ++ inner))
      (element.bind fun element => children.map (element :: ·)) := by
  intro root frame frames after
  rw [List.cons_append, List.append_assoc, adds _ (.inr (List.cons_ne_nil _ _))]
  cases element with
  | none => rfl
  | some element =>
      change Assembly.readOn ⟨root, frame.add element :: frames⟩ (inner ++ '<' :: after) = _
      rw [fills]
      cases children with
      | none => rfl
      | some children => simp only [Frame.add, Option.bind_some, Option.map_some, List.append_assoc,
          List.singleton_append]

theorem content {raw : List Char} (nonempty : raw ≠ []) (noTag : '<' ∉ raw)
    (begins : inner = [] ∨ ∃ row, inner = '<' :: row) (fills : Fills inner children) :
    Fills (raw ++ inner)
      ((content? raw).bind fun content => children.map (.text content :: ·)) := by
  intro root frame frames after
  have tagged : ∃ further, inner ++ '<' :: after = '<' :: further := by
    rcases begins with rfl | ⟨row, rfl⟩
    · exact ⟨after, rfl⟩
    · exact ⟨row ++ '<' :: after, rfl⟩
  obtain ⟨further, ahead⟩ := tagged
  rw [List.append_assoc, ahead, Assembly.readOn_content_before_tag nonempty noTag, ← ahead]
  cases content? raw with
  | none => rfl
  | some content =>
      rw [Option.bind_some, Option.bind_some, fills]
      cases children with
      | none => rfl
      | some children => simp only [Frame.add, Option.bind_some, Option.map_some, List.append_assoc,
          List.singleton_append]

end Fills

namespace Adds

variable {name : String} {written : List (String × String)}

theorem whole (isTag : IsTag name written) {tail : List Char} (tails : Tails tail)
    (closes : tail ≠ []) :
    Adds (tagRow name written ++ tail ++ ['>'])
      ((values? written).map fun attributes => .element name attributes []) := by
  intro assembly _ rest
  have row : tagRow name written ++ tail ++ ['>'] ++ rest =
      (tagRow name written ++ tail) ++ '>' :: rest := by simp
  rw [row, Assembly.readOn_tag (isTag.crosses.append (.tail tails)), isTag.tag?_row tails]
  cases values? written with
  | none => rfl
  | some attributes =>
      simp only [Option.map_some, Option.bind_some, List.isEmpty_iff, if_neg closes]
      rfl

theorem around (isTag : IsTag name written) {inner : List Char} {children : Option (List Xml)}
    (fills : Fills inner children) :
    Adds (tagRow name written ++ '>' :: (inner ++ '<' :: '/' :: (name.toList ++ ['>'])))
      ((values? written).bind fun attributes => children.map (.element name attributes ·)) := by
  intro assembly isOpen rest
  have row : tagRow name written ++ '>' :: (inner ++ '<' :: '/' :: (name.toList ++ ['>'])) ++ rest =
      tagRow name written ++ '>' ::
        (inner ++ '<' :: (('/' :: name.toList) ++ '>' :: rest)) := by simp
  have opens := isTag.tag?_row (.inl rfl)
  rw [List.append_nil] at opens
  have slash : Crosses none ['/'] none := Crosses.plain (by simp)
  have crosses : Crosses none ('/' :: name.toList) none := slash.append (Crosses.name isTag.named)
  rw [row, Assembly.readOn_tag isTag.crosses, opens]
  cases values? written with
  | none => rfl
  | some attributes =>
      change (assembly.addTag (.opening name attributes)).bind _ = _
      rw [Assembly.addTag_opening isOpen, Option.bind_some, fills]
      cases children with
      | none => rfl
      | some children =>
          rw [Option.bind_some, Assembly.readOn_tag crosses, tag?_closing isTag.named]
          exact congrArg (Option.bind · _)
            (assembly.addTag_closing ⟨name, attributes, children⟩)

end Adds

end TypeLaws.Xml
