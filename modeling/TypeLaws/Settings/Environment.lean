import TypeLaws.Text.Encoding

/-!
Environments: named texts that settings may refer to. A name has at most one text, the one that
was assigned last. What an environment keeps are the bytes of a text, and they are read again
whenever it is asked for.
-/

namespace TypeLaws

structure Environment where
  entries : List (Text × Text)
  deriving Inhabited, DecidableEq

namespace Environment

def empty : Environment := ⟨[]⟩

def get? (env : Environment) (name : Text) : Option Text :=
  env.entries.lookup name

def assign (env : Environment) (name text : Text) : Environment :=
  ⟨(name, text.stored) :: env.entries.filter fun entry => entry.1 != name⟩

theorem get?_assign_other (env : Environment) {name other : Text} (text : Text)
    (distinct : other ≠ name) : (env.assign name text).get? other = env.get? other := by
  have notSame : (other == name) = false := by simpa using distinct
  simp only [assign, get?, List.lookup_cons, notSame]
  induction env.entries with
  | nil => rfl
  | cons entry rest ih =>
      obtain ⟨key, held⟩ := entry
      by_cases same : key = name
      · subst same
        simp [List.lookup_cons, notSame, ih]
      · simp [same, List.lookup_cons, ih]

end Environment

end TypeLaws
