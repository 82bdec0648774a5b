import RoozDataCloud.Datasets
import Mathlib.Data.List.Sort

set_option autoImplicit false

/-!
# Documents

What the services do with decoded JSON: reading a member, asking for its type, and
`==` between two documents, which ignores the order of members and tells no number
from another of the same value.
-/
namespace RoozDataCloud.JsonDocuments
open Datasets (Json)

abbrev Members := List (String × Json)

-- Equality of documents is decided by recursion on the first.
mutual

def equal : Json → Json → Bool
  | .null, .null => true
  | .bool a, .bool b => a == b
  | .int a, .int b => a == b
  | .float f s, .float g t => f == g && s == t
  | .text s, .text t => s == t
  | .list xs, .list ys => equalItems xs ys
  | .object xs, .object ys => equalMembers xs ys
  | _, _ => false

def equalItems : List Json → List Json → Bool
  | [], [] => true
  | x :: xs, y :: ys => equal x y && equalItems xs ys
  | _, _ => false

def equalMembers : Members → Members → Bool
  | [], [] => true
  | (k, x) :: xs, (l, y) :: ys => k == l && equal x y && equalMembers xs ys
  | _, _ => false

end

mutual

theorem equal_iff : (a b : Json) → (equal a b = true ↔ a = b)
  | .null, b => by cases b <;> simp [equal]
  | .bool _, b => by cases b <;> simp [equal]
  | .int _, b => by cases b <;> simp [equal]
  | .float _ _, b => by cases b <;> simp [equal]
  | .text _, b => by cases b <;> simp [equal]
  | .list xs, b => by cases b <;> simp [equal, equalItems_iff xs]
  | .object xs, b => by cases b <;> simp [equal, equalMembers_iff xs]

theorem equalItems_iff : (xs ys : List Json) → (equalItems xs ys = true ↔ xs = ys)
  | [], ys => by cases ys <;> simp [equalItems]
  | x :: xs, ys => by cases ys <;> simp [equalItems, equal_iff x, equalItems_iff xs]

theorem equalMembers_iff : (xs ys : Members) → (equalMembers xs ys = true ↔ xs = ys)
  | [], ys => by cases ys <;> simp [equalMembers]
  | (k, x) :: xs, ys => by
    cases ys <;> simp [equalMembers, equal_iff x, equalMembers_iff xs, Prod.ext_iff]

end

instance decidableEqJson : DecidableEq Json :=
  fun a b => decidable_of_iff (equal a b = true) (equal_iff a b)

/-- The integer that a float is equal to, told by its text. -/
def wholeFloat (text : String) : Option ℤ :=
  match text.toList.reverse with
  | '0' :: '.' :: digits => (String.ofList digits.reverse).toInt?
  | _ => none

-- Equal documents have one normal form: `True` is 1, and members stand in the order of keys.
mutual

def normal : Json → Json
  | .bool b => .int (if b then 1 else 0)
  | .float finite text => (wholeFloat text).elim (.float finite text) .int
  | .list items => .list (normalItems items)
  | .object members => .object ((normalMembers members).insertionSort (fun a b => a.1 ≤ b.1))
  | value => value

def normalItems : List Json → List Json
  | [] => []
  | item :: items => normal item :: normalItems items

def normalMembers : Members → Members
  | [] => []
  | (key, value) :: members => (key, normal value) :: normalMembers members

end

/-- `==` between two documents. -/
def same (a b : Json) : Bool := equal a b || equal (normal a) (normal b)

theorem same_iff {a b : Json} : same a b = true ↔ normal a = normal b := by
  rw [same, Bool.or_eq_true, equal_iff, equal_iff]
  exact ⟨fun h => h.elim (congrArg normal) id, .inr⟩

@[simp]
theorem same_self (a : Json) : same a a = true := same_iff.2 rfl

/-- `document.get(key)` -/
def member (members : Members) (key : String) : Json := (members.lookup key).getD .null

theorem member_append (xs ys : Members) (key : String) :
    member (xs ++ ys) key = if (xs.lookup key).isSome then member xs key else member ys key := by
  rw [member, List.lookup_append]
  cases h : xs.lookup key <;> simp [member, h]

theorem member_append_of_none {xs ys : Members} {key : String} (h : xs.lookup key = none) :
    member (xs ++ ys) key = member ys key := by
  rw [member_append, h]
  rfl

/-- `set(document) == fields` -/
def hasExactly (members : Members) (fields : List String) : Bool :=
  members.all (fun entry => fields.contains entry.1) &&
    fields.all (fun field => (members.lookup field).isSome)

def text? : Json → Option String
  | .text s => some s
  | _ => none

def bool? : Json → Option Bool
  | .bool b => some b
  | _ => none

def object? : Json → Option Members
  | .object members => some members
  | _ => none

def list? : Json → Option (List Json)
  | .list items => some items
  | _ => none

/-- An `int` that is no `bool`. -/
def int? : Json → Option ℤ
  | .int n => some n
  | _ => none

theorem text?_eq {value : Json} {s : String} : text? value = some s ↔ value = .text s := by
  cases value <;> simp [text?]

theorem bool?_eq {value : Json} {b : Bool} : bool? value = some b ↔ value = .bool b := by
  cases value <;> simp [bool?]

theorem object?_eq {value : Json} {members : Members} :
    object? value = some members ↔ value = .object members := by
  cases value <;> simp [object?]

end RoozDataCloud.JsonDocuments
