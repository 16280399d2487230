import TypeLaws.Value.Basic

/-!
Equality and hashes of plain values. Truth values, integers and floating-point numbers are equal
when they stand for the same number. `equal` is the equality of two values; `declare` is what one
of them says about the other by itself, and it says nothing about a value of a foreign kind.

Numbers have the hashes that the language gives them. Those of texts, of rows and of the absent value
change from one run of a program to the next; fixed ones stand in for them here, of which no more is
meant than that equal values share one.
-/

namespace TypeLaws.Value

def asInt? : Value → Option Int
  | .bool b => some (if b then 1 else 0)
  | .int n => some n
  | _ => none

mutual

def equal : Value → Value → Bool
  | .null, .null => true
  | .text a, .text b => a == b
  | .brokenText a _, .brokenText b _ => a == b
  | .bytes a, .bytes b => a == b
  | .list as, .list bs => as.length == bs.length && equalAll as bs
  | .tuple as, .tuple bs => as.length == bs.length && equalAll as bs
  | .dict as, .dict bs => as.length == bs.length && equalEntries as bs
  | .notImplemented, .notImplemented => true
  | .foreign k _ a _, .foreign l _ b _ => k == l && a == b
  | .float x, .float y => x.same y
  | .float x, b =>
      match b.asInt? with
      | some n => x.isInteger n
      | none => false
  | a, b =>
      match a.asInt?, b with
      | some m, .float y => y.isInteger m
      | some m, b => b.asInt? == some m
      | none, _ => false

def equalAll : List Value → List Value → Bool
  | [], [] => true
  | a :: as, b :: bs => a.equal b && equalAll as bs
  | _, _ => false

/-- Each entry of the first has its equal in the second, in whatever place. -/
def equalEntries : List (Value × Value) → List (Value × Value) → Bool
  | [], _ => true
  | (key, value) :: rest, bs =>
      (match bs.find? fun entry => key.equal entry.1 with
        | some entry => value.equal entry.2
        | none => false) && equalEntries rest bs

end

instance : BEq Value := ⟨equal⟩

/-- What a value says by itself about being equal to another; nothing for a foreign kind. -/
def declare (a b : Value) : Option Bool :=
  match a, b with
  | .bool _, .bool _ => some (a.equal b)
  | .bool _, .int _ => some (a.equal b)
  | .int _, .bool _ => some (a.equal b)
  | .int _, .int _ => some (a.equal b)
  | .float _, .float _ => some (a.equal b)
  | .float _, .int _ => some (a.equal b)
  | .float _, .bool _ => some (a.equal b)
  | .text _, .text _ => some (a.equal b)
  | .brokenText _ _, .brokenText _ _ => some (a.equal b)
  | .bytes _, .bytes _ => some (a.equal b)
  | .list _, .list _ => some (a.equal b)
  | .tuple _, .tuple _ => some (a.equal b)
  | .dict _, .dict _ => some (a.equal b)
  | _, _ => none

def modulus : Nat := (1 <<< 61) - 1

def absentHash : Int := 4238894208

def isWordSized (n : Int) : Bool :=
  Int64.minValue.toInt ≤ n && n ≤ Int64.maxValue.toInt

/-- The hash of an integer: its remainder with its sign, where minus one is not used. -/
def hashInt (n : Int) : Int :=
  let size : Int := (n.natAbs % modulus : Nat)
  let reduced := if n < 0 then -size else size
  if reduced = -1 then -2 else reduced

def hashPoints (points : Text) : Int :=
  (points.foldl (fun h point => (h * 31 + point.number) % modulus) 7 : Nat)

def hashText (s : String) : Int :=
  hashPoints s

def hashFloat : Binary64 → Int
  | .nan => 0
  | .infinite negative => if negative then -314159 else 314159
  | .finite negative significand exponent =>
      let size : Int := ((significand <<< (exponent % 61).toNat) % modulus : Nat)
      hashInt (if negative then -size else size)

mutual

/-- The hash of a value, or the kind in it that has none. -/
def hash : Value → Except String Int
  | .null => .ok absentHash
  | .bool b => .ok (if b then 1 else 0)
  | .int n => .ok (hashInt n)
  | .float x => .ok (hashFloat x)
  | .text s => .ok (hashText s)
  | .brokenText points _ => .ok (hashPoints points)
  | .bytes octets => .ok (hashText (String.ofList (octets.map fun o => Char.ofNat o.toNat)))
  | .tuple items => hashAll 17 items
  | .notImplemented => .ok 0
  | .foreign _ _ identity _ => .ok (hashText identity)
  | .list _ => .error "list"
  | .dict _ => .error "dict"

def hashAll (h : Int) : List Value → Except String Int
  | [] => .ok h
  | item :: rest => do
      let next ← item.hash
      hashAll ((h * 1000003 + next) % modulus) rest

end

/-- Puts something under a key. A key that is there keeps its place and its form. -/
def insertEntry {α : Type} (key : Value) (value : α) : List (Value × α) → List (Value × α)
  | [] => [(key, value)]
  | (k, v) :: rest =>
      if key.equal k then (k, value) :: rest else (k, v) :: insertEntry key value rest

/-- The dictionary of a row of entries; the last value under a key stays. -/
def ofEntries (entries : List (Value × Value)) : Value :=
  .dict (entries.foldl (fun kept entry => insertEntry entry.1 entry.2 kept) [])

end TypeLaws.Value
