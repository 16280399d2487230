import TypeLaws.Value.Equality

/-!
Facts and failures. A fact is a label, with a value unless it is a bare statement. A failure is
the name of the assertion that reported it and its facts; its headline is the label of the first.
`layout` writes facts one to a line, the values in one column behind the longest label that has one.
-/

namespace TypeLaws

structure Fact where
  label : String
  value : Option Value

namespace Fact

def simple (label : String) : Fact :=
  ⟨label, none⟩

/-- A fact with a value. The null value is shown as text, so that it is not lost. -/
def of (label : String) : Value → Fact
  | .null => ⟨label, some (.text "None")⟩
  | value => ⟨label, some value⟩

/-- A fact as given, in which the null value makes a bare statement. -/
def raw (label : String) : Value → Fact
  | .null => ⟨label, none⟩
  | value => ⟨label, some value⟩

def isSimple (fact : Fact) : Bool :=
  fact.value.isNone

def equal (a b : Fact) : Bool :=
  a.label == b.label && a.value == b.value

def literal (fact : Fact) : String :=
  "Fact(label=" ++ Text.quote fact.label ++ ", value="
    ++ (fact.value.getD .null).literal ++ ")"

def columnWidth : List Fact → Nat
  | [] => 0
  | fact :: rest =>
      if fact.isSimple then columnWidth rest else max fact.label.length (columnWidth rest)

def pad (width : Nat) (label : String) : String :=
  label ++ String.ofList (List.replicate (width - label.length) ' ')

def entry (width : Nat) (fact : Fact) : Text :=
  match fact.value with
  | none => fact.label
  | some value => pad width fact.label ++ ": " ++ value.asText

def layout (facts : List Fact) : Text :=
  ("\n" : Text).intercalate (facts.map (entry (columnWidth facts)))

end Fact

structure Failure where
  name : String
  facts : List Fact

namespace Failure

def headline (failure : Failure) : String :=
  match failure.facts with
  | [] => failure.name
  | fact :: _ => fact.label

def render (failure : Failure) : Text :=
  Fact.layout failure.facts

def shownName (name : String) : String :=
  if name.isEmpty then "assertion" else name

def literal (failure : Failure) : String :=
  let facts := match failure.facts with
    | [fact] => "(" ++ fact.literal ++ ",)"
    | facts => "(" ++ ", ".intercalate (facts.map Fact.literal) ++ ")"
  "Failure(name=" ++ Text.quote failure.name ++ ", facts=" ++ facts ++ ")"

end Failure

end TypeLaws
