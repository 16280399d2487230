import TypeLaws.Sample.Comparison

/-!
The sample values as a system of types under test. Scripts point at objects by name, so a system
is made over a table of named objects; through it the properties of mocks may lead in circles.
-/

namespace TypeLaws.Sample

/-- The named objects of a system; a name may stand for the absent value. -/
abbrev Table := List (String × Option Sample)

def Target.resolve (table : Table) : Target Sample → Option Sample
  | .absent => none
  | .named name => (table.lookup name).getD none
  | .here sample => some sample

def objectView (table : Table) (sample : Sample) : Outcome (Option Sample) :=
  match sample with
  | .simple _ _ _ => .ok none
  | .salted _ _ _ => .ok none
  | .record _ _ _ _ => .ok (some sample)
  | .mock _ script =>
      script.call .objectView (.ok (match script.objectView with
        | none => some sample
        | some target => target.resolve table))
  | .bare _ content => .error (.noSuchMethod content.kind Method.objectView.name)

def requireHash : Given Sample → Outcome Unit
  | .text _ => .ok ()
  | .other sample => do
      let _ ← sample.hash
      return ()

def property (table : Table) (sample : Sample) (name : Given Sample) :
    Outcome (Option Sample) :=
  match sample with
  | .record _ _ properties _ => do
      requireHash name
      match name with
      | .text key => return (properties.lookup key).getD none
      | .other _ => return none
  | .mock _ script =>
      script.call .property do
        requireHash name
        match name with
        | .text key =>
            match (script.properties.getD []).lookup key with
            | none => return none
            | some (.leads target) => return target.resolve table
            | some (.raises kind text) => throw (raised kind text)
        | .other _ => return none
  | .simple _ _ _ => .error (.noSuchMethod sample.className.short Method.property.name)
  | .salted _ _ _ => .error (.noSuchMethod sample.className.short Method.property.name)
  | .bare _ content => .error (.noSuchMethod content.kind Method.property.name)

/-- A sample that declines to compare itself with a text differs from it. -/
def differsFromText (sample : Sample) (text : String) : Outcome Bool := do
  match ← sample.declares (some (.bare ⟨none, 0⟩ (.text text))) with
  | .notImplemented => return true
  | answer => return !answer.isTrue

def system (table : Table) : TypeSystem Sample where
  className := className
  text := text
  literal := literal
  offers := offers
  ask := ask
  objectView := objectView table
  property := property table
  isSubtypeOf := isSubtypeOf
  isEquivalentTo := isEquivalentTo
  declaresEqual := declares
  hash := hash
  absentHash := Value.absentHash
  identical := identical
  refines := refines
  differsFromText := differsFromText

end TypeLaws.Sample
