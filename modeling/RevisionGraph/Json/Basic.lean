import RevisionGraph.Number.Binary64

/-!
# JSON values

`Json` is a document as a value.  Integers and floating point numbers are kept apart: `1` and
`1.0` are different values.  The members of an object are a list, in document order; a document
that was read from text has distinct keys in every object.

* **Kinds.**  `kindName` is the name of a value's kind as messages show it; a `Kind` is a kind that
  a reader asks for.
* **Members.**  `member?` looks a key up in an object.
* **Equality.**  `=` is decidable and exact; `agrees` compares numbers by value, `true` with 1 and
  `false` with 0, and forgets the order of members.
-/

set_option autoImplicit false

namespace RevisionGraph

/-- A document. -/
inductive Json where
  | null
  | bool (b : Bool)
  | int (i : Int)
  | float (x : Binary64)
  | text (s : String)
  | array (items : List Json)
  | object (members : List (String × Json))
  deriving Inhabited, Repr

namespace Json

/-! ## Exact equality -/

mutual

/-- Documents are equal or not. -/
def decEq : (a b : Json) → Decidable (a = b)
  | .null, .null => isTrue rfl
  | .bool x, .bool y => decidable_of_iff (x = y) (by simp)
  | .int x, .int y => decidable_of_iff (x = y) (by simp)
  | .float x, .float y => decidable_of_iff (x = y) (by simp)
  | .text x, .text y => decidable_of_iff (x = y) (by simp)
  | .array xs, .array ys =>
    match decEqItems xs ys with
    | isTrue h => isTrue (by rw [h])
    | isFalse h => isFalse fun e ↦ h (by injection e)
  | .object xs, .object ys =>
    match decEqMembers xs ys with
    | isTrue h => isTrue (by rw [h])
    | isFalse h => isFalse fun e ↦ h (by injection e)
  | .null, .bool _ | .null, .int _ | .null, .float _ | .null, .text _ | .null, .array _
  | .null, .object _ | .bool _, .null | .bool _, .int _ | .bool _, .float _ | .bool _, .text _
  | .bool _, .array _ | .bool _, .object _ | .int _, .null | .int _, .bool _ | .int _, .float _
  | .int _, .text _ | .int _, .array _ | .int _, .object _ | .float _, .null | .float _, .bool _
  | .float _, .int _ | .float _, .text _ | .float _, .array _ | .float _, .object _
  | .text _, .null | .text _, .bool _ | .text _, .int _ | .text _, .float _ | .text _, .array _
  | .text _, .object _ | .array _, .null | .array _, .bool _ | .array _, .int _
  | .array _, .float _ | .array _, .text _ | .array _, .object _ | .object _, .null
  | .object _, .bool _ | .object _, .int _ | .object _, .float _ | .object _, .text _
  | .object _, .array _ => isFalse nofun

/-- Equality of the items of arrays. -/
def decEqItems : (xs ys : List Json) → Decidable (xs = ys)
  | [], [] => isTrue rfl
  | [], _ :: _ | _ :: _, [] => isFalse nofun
  | x :: xs, y :: ys =>
    match decEq x y, decEqItems xs ys with
    | isTrue h, isTrue k => isTrue (by rw [h, k])
    | isFalse h, _ => isFalse fun e ↦ h (by injection e)
    | _, isFalse k => isFalse fun e ↦ k (by injection e)

/-- Equality of the members of objects. -/
def decEqMembers : (xs ys : List (String × Json)) → Decidable (xs = ys)
  | [], [] => isTrue rfl
  | [], _ :: _ | _ :: _, [] => isFalse nofun
  | (k, x) :: xs, (l, y) :: ys =>
    if hk : k = l then
      match decEq x y, decEqMembers xs ys with
      | isTrue h, isTrue t => isTrue (by rw [hk, h, t])
      | isFalse h, _ => isFalse fun e ↦ h (by injection e with e _; injection e)
      | _, isFalse t => isFalse fun e ↦ t (by injection e)
    else isFalse fun e ↦ hk (by injection e with e _; injection e)

end

instance : DecidableEq Json := decEq

/-! ## Kinds and members -/

/-- The name of the kind of a value, as messages show it. -/
def kindName : Json → String
  | .null => "NoneType"
  | .bool _ => "bool"
  | .int _ => "int"
  | .float _ => "float"
  | .text _ => "str"
  | .array _ => "list"
  | .object _ => "dict"

/-- A kind that a reader of documents asks for. -/
inductive Kind where
  | text
  | integer
  | array
  | object
  | float
  | truth
  deriving DecidableEq, Repr

/-- The name of a kind that was asked for. -/
def Kind.label : Kind → String
  | .text => "string"
  | .integer => "integer"
  | .array => "array"
  | .object => "object"
  | .float => "float"
  | .truth => "bool"

/-- The value is of the kind; a truth value is no integer. -/
def Kind.admits : Kind → Json → Bool
  | .text, .text _ => true
  | .integer, .int _ => true
  | .array, .array _ => true
  | .object, .object _ => true
  | .float, .float _ => true
  | .truth, .bool _ => true
  | _, _ => false

/-- The value under a key of an object. -/
def member? (key : String) : Json → Option Json
  | .object members => (members.find? fun m ↦ m.1 == key).map Prod.snd
  | _ => none

/-- The integer that a number or a truth value is worth, if it is one. -/
def worth? : Json → Option Int
  | .bool b => some (if b then 1 else 0)
  | .int i => some i
  | _ => none

/-! ## Agreement -/

mutual

/-- Numbers agree by value, `true` and `false` with 1 and 0, objects whatever the order of their
members. -/
def agrees : Json → Json → Bool
  | .null, .null => true
  | .text s, .text t => s == t
  | .array xs, .array ys => agreesItems xs ys
  | .object xs, .object ys => xs.length == ys.length && agreesMembers xs ys
  | .float x, .float y => x.equals y
  | .float x, b => match b.worth? with
    | some i => x.equalsInt i
    | none => false
  | a, .float y => match a.worth? with
    | some i => y.equalsInt i
    | none => false
  | a, b => match a.worth?, b.worth? with
    | some i, some j => i == j
    | _, _ => false

/-- The items of two arrays agree one by one. -/
def agreesItems : List Json → List Json → Bool
  | [], [] => true
  | x :: xs, y :: ys => agrees x y && agreesItems xs ys
  | _, _ => false

/-- Every member of the first list has an agreeing one in the second. -/
def agreesMembers : List (String × Json) → List (String × Json) → Bool
  | [], _ => true
  | (k, x) :: xs, ys =>
    (match ys.find? fun m ↦ m.1 == k with
      | some m => agrees x m.2
      | none => false) && agreesMembers xs ys

end

end Json

end RevisionGraph
