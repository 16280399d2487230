import TypeLaws.Sample.Methods

/-!
How sample values compare. Members of the small type system are equal if class and name agree, and
a record if name and properties do, each pair of properties by the full equality operator.
Equivalence of records looks at the properties alone, and subtyping at those that both have.
-/

namespace TypeLaws.Sample

theorem sizeOf_lookup_lt {α : Type} [SizeOf α] {key : String} {rows : List (String × α)}
    {found : α} (h : rows.lookup key = some found) : sizeOf found < sizeOf rows := by
  induction rows with
  | nil => simp at h
  | cons row rest ih =>
      obtain ⟨name, value⟩ := row
      rw [List.lookup_cons] at h
      by_cases same : key = name
      · have hit : (key == name) = true := by simpa using same
        rw [hit] at h
        have equal : value = found := by simpa using h
        subst equal
        simp only [List.cons.sizeOf_spec, Prod.mk.sizeOf_spec]
        omega
      · have miss : (key == name) = false := by simpa using same
        rw [miss] at h
        have smaller := ih h
        simp only [List.cons.sizeOf_spec]
        omega

/-- What a member of the small type system other than a record says by class and name. -/
def declaresByName (a : Sample) : Option Sample → Value
  | none => .notImplemented
  | some b => if b.isFake then .bool (a.family? = b.family? && a.name = b.name) else .notImplemented

/-- What a plain value says about its own kinds, and about itself if it is a container. -/
def declaresPlain (a : Sample) (content : Value) : Option Sample → Value
  | some b =>
      match b with
      | .bare _ other =>
          match content.declare other with
          | some answer =>
              let container := match content with
                | .list _ | .tuple _ | .dict _ => true
                | _ => false
              .bool (answer || (container && a.identical b))
          | none => .notImplemented
      | _ => .notImplemented
  | none => .notImplemented

mutual

def declares (a : Sample) (p : Option Sample) : Outcome Value :=
  match a with
  | .record _ name properties _ =>
      match p with
      | some (.record _ name' properties' _) =>
          if name = name' && properties.length = properties'.length then do
            return .bool (← equalProperties properties properties')
          else .ok (.bool false)
      | some b => .ok (if b.isFake then .bool false else .notImplemented)
      | none => .ok .notImplemented
  | .simple _ .lopsidedNumber _ =>
      .ok (.bool (match p with
        | some b => b.isFake
        | none => false))
  | .simple _ .nullIntolerant _ =>
      .ok (match p with
        | none => .bool true
        | some b => a.declaresByName (some b))
  | .simple _ _ _ => .ok (a.declaresByName p)
  | .salted _ _ _ => .ok (a.declaresByName p)
  | .mock _ script =>
      match script.equality with
      | some rule => rule.answer (a.counterpart p)
      | none => .ok (if identicalOrAbsent (some a) p then .bool true else .notImplemented)
  | .bare _ content => .ok (a.declaresPlain content p)
  termination_by sizeOf a + sizeOf p

def equalProperties (ps qs : List (String × Option Sample)) : Outcome Bool :=
  match ps with
  | [] => .ok true
  | (key, v) :: rest =>
      match _found : qs.lookup key with
      | none => .ok false
      | some w => do
          if ← equalProperty v w then equalProperties rest qs else return false
  termination_by sizeOf ps + sizeOf qs
  decreasing_by
    · have smaller := sizeOf_lookup_lt _found
      simp only [List.cons.sizeOf_spec, Prod.mk.sizeOf_spec]
      omega
    · simp only [List.cons.sizeOf_spec]
      omega

def equalProperty (v w : Option Sample) : Outcome Bool :=
  if identicalOrAbsent v w then .ok true
  else
    match v, w with
    | none, none => .ok true
    | none, some b => do
        return (← decideEquality false false (fun _ => .ok .notImplemented)
          (fun _ => b.declares none)).isTrue
    | some a, none => do
        return (← decideEquality false false (fun _ => a.declares none)
          (fun _ => .ok .notImplemented)).isTrue
    | some a, some b => do
        return (← decideEquality (b.refines a) false (fun _ => a.declares (some b))
          (fun _ => b.declares (some a))).isTrue
  termination_by sizeOf v + sizeOf w

end

def sameKeys (ps qs : List (String × Option Sample)) : Bool :=
  ps.length == qs.length && ps.all fun row => (qs.lookup row.1).isSome

mutual

def isEquivalentTo (a : Sample) (p : Option Sample) : Outcome Value :=
  match a with
  | .simple _ _ _ => .ok (.bool (sameClassAndName a p))
  | .salted _ _ _ => .ok (.bool (sameClassAndName a p))
  | .record _ _ properties _ =>
      match p with
      | some (.record _ _ properties' _) =>
          if sameKeys properties properties' then do
            return .bool (← throughRow (equivalentProperties properties properties'))
          else .ok (.bool false)
      | _ => .ok (.bool false)
  | .mock _ script => script.call .equivalence (script.equivalence.answer (a.counterpart p))
  | .bare _ content => .error (.noSuchMethod content.kind Method.equivalence.name)
where
  sameClassAndName (a : Sample) : Option Sample → Bool
    | none => false
    | some b => b.isFake && a.family? = b.family? && a.name = b.name

def equivalentProperties : (ps qs : List (String × Option Sample)) → Outcome Bool
  | [], _ => .ok true
  | (_, none) :: _, _ => .error (.noSuchMethod Value.null.kind Method.equivalence.name)
  | (key, some v) :: rest, qs => do
      let answer ← v.isEquivalentTo ((qs.lookup key).getD none)
      if answer.isTrue then equivalentProperties rest qs else return false

end

def isUnknownType : Option Sample → Bool
  | some (.simple _ .unknown _) => true
  | _ => false

mutual

def isSubtypeOf (a : Sample) (p : Option Sample) : Outcome Value :=
  match a with
  | .simple _ .bottom _ => .ok (.bool true)
  | .simple _ .truthyNumber _ => .ok (.int 1)
  | .simple _ _ _ => if isUnknownType p then .ok (.bool true) else a.isEquivalentTo p
  | .salted _ _ _ => if isUnknownType p then .ok (.bool true) else a.isEquivalentTo p
  | .record _ _ properties _ =>
      if isUnknownType p then .ok (.bool true)
      else
        match p with
        | some (.record _ _ properties' _) => do
            return .bool (← throughRow (subtypeProperties properties properties'))
        | _ => .ok (.bool false)
  | .mock _ script => script.call .subtype (script.subtype.answer (a.counterpart p))
  | .bare _ content => .error (.noSuchMethod content.kind Method.subtype.name)
  termination_by sizeOf a + sizeOf p

/-- Each property of the second is there in the first, as a subtype. -/
def subtypeProperties (ps qs : List (String × Option Sample)) : Outcome Bool :=
  match qs with
  | [] => .ok true
  | (key, w) :: rest =>
      match _found : ps.lookup key with
      | none => .ok false
      | some none => .error (.noSuchMethod Value.null.kind Method.subtype.name)
      | some (some v) => do
          let answer ← v.isSubtypeOf w
          if answer.isTrue then subtypeProperties ps rest else return false
  termination_by sizeOf ps + sizeOf qs
  decreasing_by
    · have smaller := sizeOf_lookup_lt _found
      simp only [Option.some.sizeOf_spec] at smaller
      simp only [List.cons.sizeOf_spec, Prod.mk.sizeOf_spec]
      omega
    · simp only [List.cons.sizeOf_spec]
      omega

end

end TypeLaws.Sample
