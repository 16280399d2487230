import TypeLaws.Text.Quoted

/-!
The ways in which a call can fail, be it of a method of a type or of an assertion. Every method is
deterministic: it gives the same answer or the same fault whenever it is called.
-/

namespace TypeLaws

inductive Fault where
  /-- Raised on purpose. `aboutType` says that the error is a `TypeError`, be it of a class below. -/
  | raised (kind text : String) (aboutType : Bool)
  | noSuchMethod (owner method : String)
  /-- The owner has a value of that kind in place of the method. -/
  | notCallable (kind : String)
  /-- The call has more arguments than the method takes; both numbers count the owner. -/
  | tooManyArguments (method : String) (taken given : Nat)
  | missingArgument (method parameter : String)
  | notText (method kind : String)
  | unhashable (kind : String)
  | hashNotInteger

abbrev Outcome (α : Type) := Except Fault α

namespace Fault

/-- The text of a fault. Errors about a missing key quote the key. -/
def message : Fault → String
  | .raised kind text _ => if kind == "KeyError" then Text.quote text else text
  | .noSuchMethod owner method => "'" ++ owner ++ "' object has no attribute '" ++ method ++ "'"
  | .notCallable kind => "'" ++ kind ++ "' object is not callable"
  | .tooManyArguments method taken given =>
      method ++ "() takes " ++ Text.integer taken ++ " positional argument"
        ++ (if taken = 1 then "" else "s") ++ " but " ++ Text.integer given ++ " were given"
  | .missingArgument method parameter =>
      method ++ "() missing 1 required positional argument: '" ++ parameter ++ "'"
  | .notText method kind => method ++ " returned non-string (type " ++ kind ++ ")"
  | .unhashable kind => "unhashable type: '" ++ kind ++ "'"
  | .hashNotInteger => "__hash__ method should return an integer"

/-- A fault about the kind of a value; from a hash method it means that there is no hash. -/
def isTypeFault : Fault → Bool
  | .raised _ _ aboutType => aboutType
  | .noSuchMethod _ _ => false
  | .notCallable _ => true
  | .tooManyArguments _ _ _ => true
  | .missingArgument _ _ => true
  | .notText _ _ => true
  | .unhashable _ => true
  | .hashNotInteger => true

end Fault

end TypeLaws
