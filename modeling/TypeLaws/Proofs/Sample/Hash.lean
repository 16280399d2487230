import TypeLaws.Proofs.Sample.Form

/-!
The hash of a lawful type is a matter of its shape: types of one structural form have one hash. The
hashes of the properties are sorted by name before they are taken together, so the order in which
the properties were given does not matter. Every lawful type has a hash and a text.
-/

namespace TypeLaws.Sample

theorem hashes_of_rows {rows : List (String × Option Sample)}
    (present : ∀ key, (key, none) ∉ rows)
    (hashed : ∀ key sample, (key, some sample) ∈ rows → ∃ h, sample.hash = .ok h) :
    ∃ pairs, hashes rows = .ok pairs ∧ pairs.map Prod.fst = rows.map Prod.fst ∧
      ∀ key h, (key, h) ∈ pairs ↔ ∃ sample, (key, some sample) ∈ rows ∧ sample.hash = .ok h := by
  induction rows with
  | nil =>
      refine ⟨[], rfl, rfl, ?_⟩
      intro key h
      constructor
      · intro member
        cases member
      · rintro ⟨sample, member, -⟩
        cases member
  | cons row rest ih =>
      obtain ⟨name, value⟩ := row
      cases value with
      | none => exact absurd List.mem_cons_self (present name)
      | some sample =>
          obtain ⟨first, firstGiven⟩ := hashed name sample List.mem_cons_self
          obtain ⟨pairs, given, sameKeys, members⟩ := ih
            (fun key member => present key (List.mem_cons_of_mem _ member))
            (fun key sample member => hashed key sample (List.mem_cons_of_mem _ member))
          refine ⟨(name, first) :: pairs, ?_, congrArg (name :: ·) sameKeys, ?_⟩
          · rw [hashes, firstGiven, given]
            rfl
          · intro key h
            rw [List.mem_cons, members]
            constructor
            · rintro (same | ⟨other, member, otherGiven⟩)
              · cases same
                exact ⟨sample, List.mem_cons_self, firstGiven⟩
              · exact ⟨other, List.mem_cons_of_mem _ member, otherGiven⟩
            · rintro ⟨other, member, otherGiven⟩
              rcases List.mem_cons.mp member with same | later
              · cases same
                rw [firstGiven] at otherGiven
                cases otherGiven
                exact .inl rfl
              · exact .inr ⟨other, later, otherGiven⟩

def pairsValue (pairs : List (String × Int)) : Value :=
  .tuple ((pairs.mergeSort Rows.byKey).map fun row => .tuple [.text row.1, .int row.2])

theorem hash_record {label : Label} {name : String} {rows : List (String × Option Sample)}
    {isLiteral : Value} {pairs : List (String × Int)} (given : hashes rows = .ok pairs) :
    (Sample.record label name rows isLiteral).hash = hash.ofValue (pairsValue pairs) := by
  rw [hash, given]
  rfl

theorem hashAll_pairs (pairs : List (String × Int)) (start : Int) :
    ∃ h, Value.hashAll start (pairs.map fun row => .tuple [.text row.1, .int row.2]) = .ok h := by
  induction pairs generalizing start with
  | nil => exact ⟨start, rfl⟩
  | cons row rest ih =>
      obtain ⟨next, given⟩ : ∃ next, (Value.tuple [.text row.1, .int row.2]).hash = .ok next :=
        ⟨_, rfl⟩
      rw [List.map_cons, Value.hashAll, given]
      exact ih _

theorem hash_pairsValue (pairs : List (String × Int)) :
    ∃ h, hash.ofValue (pairsValue pairs) = .ok h := by
  obtain ⟨h, given⟩ := hashAll_pairs (pairs.mergeSort Rows.byKey) 17
  refine ⟨h, ?_⟩
  rw [hash.ofValue, pairsValue, Value.hash, given]

/-- Rows that match in both directions give the same pairs in some order. -/
theorem pairsValue_eq_of_members {pairs others : List (String × Int)}
    (distinct : (pairs.map Prod.fst).Nodup) (otherDistinct : (others.map Prod.fst).Nodup)
    (sameMembers : ∀ pair, pair ∈ pairs ↔ pair ∈ others) :
    pairsValue pairs = pairsValue others := by
  have perm : pairs.Perm others :=
    (List.perm_ext_iff_of_nodup distinct.of_map otherDistinct.of_map).mpr sameMembers
  rw [pairsValue, pairsValue, Rows.sorted_eq_of_perm distinct perm]

theorem hash_simple_lawful {label label' : Label} {family : Family} {name : String}
    (isLawful : family.isLawful = true) :
    ∃ h, (Sample.simple label family name).hash = .ok h ∧
      (Sample.simple label' family name).hash = .ok h := by
  cases family with
  | equalityOnly => cases isLawful
  | _ => exact ⟨_, rfl, rfl⟩

theorem Matches.mem_pairs {rows others : List (String × Option Sample)}
    {pairs otherPairs : List (String × Int)} (matching : Matches .structural rows others)
    (agree : ∀ key a b, (key, some a) ∈ rows → (key, some b) ∈ others →
      form .structural a = form .structural b → ∃ h, a.hash = .ok h ∧ b.hash = .ok h)
    (members : ∀ key h, (key, h) ∈ pairs ↔
      ∃ sample, (key, some sample) ∈ rows ∧ sample.hash = .ok h)
    (otherMembers : ∀ key h, (key, h) ∈ otherPairs ↔
      ∃ sample, (key, some sample) ∈ others ∧ sample.hash = .ok h)
    {pair : String × Int} (member : pair ∈ pairs) : pair ∈ otherPairs := by
  obtain ⟨key, h⟩ := pair
  obtain ⟨a, aMember, aGiven⟩ := (members key h).mp member
  obtain ⟨b, found, same⟩ := matching key a aMember
  have bMember := Rows.mem_of_lookup found
  obtain ⟨h', aGiven', bGiven⟩ := agree key a b aMember bMember same
  rw [aGiven] at aGiven'
  cases aGiven'
  exact (otherMembers key h).mpr ⟨b, bMember, bGiven⟩

theorem hash_record_eq {label label' : Label} {name name' : String}
    {rows others : List (String × Option Sample)} {isLiteral isLiteral' : Value}
    (proper : ProperRows rows) (otherProper : ProperRows others)
    (matching : Matches .structural rows others) (converse : Matches .structural others rows)
    (agree : ∀ key a b, (key, some a) ∈ rows → (key, some b) ∈ others →
      form .structural a = form .structural b → ∃ h, a.hash = .ok h ∧ b.hash = .ok h) :
    ∃ h, (Sample.record label name rows isLiteral).hash = .ok h ∧
      (Sample.record label' name' others isLiteral').hash = .ok h := by
  have agree' : ∀ key b a, (key, some b) ∈ others → (key, some a) ∈ rows →
      form .structural b = form .structural a → ∃ h, b.hash = .ok h ∧ a.hash = .ok h := by
    intro key b a bMember aMember same
    obtain ⟨h, aGiven, bGiven⟩ := agree key a b aMember bMember same.symm
    exact ⟨h, bGiven, aGiven⟩
  obtain ⟨pairs, given, keys, members⟩ := hashes_of_rows proper.present (by
    intro key a aMember
    obtain ⟨b, found, same⟩ := matching key a aMember
    obtain ⟨h, aGiven, -⟩ := agree key a b aMember (Rows.mem_of_lookup found) same
    exact ⟨h, aGiven⟩)
  obtain ⟨otherPairs, otherGiven, otherKeys, otherMembers⟩ := hashes_of_rows otherProper.present (by
    intro key b bMember
    obtain ⟨a, found, same⟩ := converse key b bMember
    obtain ⟨h, bGiven, -⟩ := agree' key b a bMember (Rows.mem_of_lookup found) same
    exact ⟨h, bGiven⟩)
  have sameValue : pairsValue pairs = pairsValue otherPairs := by
    apply pairsValue_eq_of_members (keys ▸ proper.distinct) (otherKeys ▸ otherProper.distinct)
    intro pair
    exact ⟨matching.mem_pairs agree members otherMembers,
      converse.mem_pairs agree' otherMembers members⟩
  obtain ⟨h, hashed⟩ := hash_pairsValue pairs
  refine ⟨h, ?_, ?_⟩
  · rw [hash_record given, hashed]
  · rw [hash_record otherGiven, ← sameValue, hashed]

/-- Lawful types of one shape have one hash. -/
theorem hash_eq_of_form_eq {a b : Sample} (lawful : Lawful a) (otherLawful : Lawful b)
    (same : form .structural a = form .structural b) :
    ∃ h, a.hash = .ok h ∧ b.hash = .ok h := by
  induction lawful generalizing b with
  | simple label family name isLawful =>
      cases otherLawful with
      | simple label' family' name' isLawful' =>
          cases same
          exact hash_simple_lawful isLawful
      | record label' name' others isLiteral' => cases same
  | record label name rows isLiteral proper lawfulRows ih =>
      cases otherLawful with
      | simple label' family' name' isLawful' => cases same
      | record label' name' others isLiteral' otherProper otherLawfulRows =>
          rw [form, form, Form.record.injEq] at same
          apply hash_record_eq proper otherProper
            (proper.matches_of_forms_eq otherProper same.2)
            (otherProper.matches_of_forms_eq proper same.2.symm)
          intro key a b aMember bMember sameForm
          exact ih key a aMember (otherLawfulRows key b bMember) sameForm

theorem inOrder_ok {α : Type} {rows : List (String × Outcome α)}
    (given : ∀ row ∈ rows, ∃ value, row.2 = .ok value) :
    ∃ values, inOrder rows = .ok values := by
  have sortedGiven : ∀ row ∈ rows.mergeSort Rows.byKey, ∃ value, row.2 = .ok value :=
    fun row member => given row (List.mem_mergeSort.mp member)
  change ∃ values, (rows.mergeSort Rows.byKey).mapM _ = _
  generalize rows.mergeSort Rows.byKey = sorted at sortedGiven
  induction sorted with
  | nil => exact ⟨[], rfl⟩
  | cons row rest ih =>
      obtain ⟨value, valueGiven⟩ := sortedGiven row List.mem_cons_self
      obtain ⟨values, restGiven⟩ := ih fun other member =>
        sortedGiven other (List.mem_cons_of_mem _ member)
      refine ⟨(row.1, value) :: values, ?_⟩
      rw [List.mapM_cons, valueGiven, restGiven]
      rfl

theorem texts_ok {rows : List (String × Option Sample)}
    (given : ∀ key sample, (key, some sample) ∈ rows → ∃ text, sample.text = .ok text) :
    ∀ row ∈ texts rows, ∃ text, row.2 = .ok text := by
  induction rows with
  | nil =>
      intro row member
      cases member
  | cons first rest ih =>
      have later := ih fun key sample member => given key sample (List.mem_cons_of_mem _ member)
      obtain ⟨name, value⟩ := first
      intro row member
      cases value with
      | none =>
          rcases List.mem_cons.mp member with rfl | member
          · exact ⟨_, rfl⟩
          · exact later row member
      | some sample =>
          rcases List.mem_cons.mp member with rfl | member
          · exact given name sample List.mem_cons_self
          · exact later row member

theorem text_of_lawful {sample : Sample} (lawful : Lawful sample) :
    ∃ text, sample.text = .ok text := by
  induction lawful with
  | simple label family name isLawful => exact ⟨name, rfl⟩
  | record label name rows isLiteral proper lawfulRows ih =>
      obtain ⟨values, given⟩ := inOrder_ok (texts_ok ih)
      rw [text, given]
      exact ⟨_, rfl⟩

end TypeLaws.Sample
