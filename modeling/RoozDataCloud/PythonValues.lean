import Mathlib.Data.List.Lex
import Mathlib.Data.List.Sort
import Mathlib.Data.Fin.Basic

set_option autoImplicit false

/-!
# Values of Python

JSON-like values as Python has them: a text is a list of code points and may have
lone surrogates, which have no UTF-8 form. `json.dumps` keeps them when it escapes
nothing beyond the control characters.
-/
namespace RoozDataCloud.PythonValues

abbrev CodePoint := Fin 1114112

abbrev Text := List CodePoint

def point (c : Char) : CodePoint :=
  ⟨c.toNat, by
    have hvalid := c.valid
    simp only [UInt32.isValidChar, Nat.isValidChar] at hvalid
    change c.val.toNat < 1114112
    omega⟩

/-- A text that is written in the source. -/
def points (s : String) : Text := s.toList.map point

/-- A key of a dictionary: a text, or something else that can be hashed. -/
inductive Key where
  | text (s : Text)
  | other (n : ℕ)
  deriving DecidableEq

/-- A float is told by its text. -/
inductive Value where
  | none
  | bool (b : Bool)
  | int (n : ℤ)
  | float (finite : Bool) (repr : Text)
  | text (s : Text)
  | list (items : List Value)
  | dict (members : List (Key × Value))

/-- `value.get(name)` -/
def get (members : List (Key × Value)) (name : String) : Value :=
  (members.lookup (.text (points name))).getD .none

def text? : Value → Option Text
  | .text s => some s
  | _ => Option.none

section Utf8

def surrogate (c : CodePoint) : Bool := decide (55296 ≤ c.val ∧ c.val ≤ 57343)

def octets (c : CodePoint) : List UInt8 :=
  if c.val < 128 then [UInt8.ofNat c.val]
  else if c.val < 2048 then [UInt8.ofNat (192 + c.val / 64), UInt8.ofNat (128 + c.val % 64)]
  else if c.val < 65536 then
    [UInt8.ofNat (224 + c.val / 4096), UInt8.ofNat (128 + c.val / 64 % 64),
      UInt8.ofNat (128 + c.val % 64)]
  else
    [UInt8.ofNat (240 + c.val / 262144), UInt8.ofNat (128 + c.val / 4096 % 64),
      UInt8.ofNat (128 + c.val / 64 % 64), UInt8.ofNat (128 + c.val % 64)]

/-- `text.encode("utf-8")`, which raises at a surrogate. -/
def encodeUtf8 (text : Text) : Option (List UInt8) :=
  if text.any surrogate then none else some (text.flatMap octets)

/-- `text.encode("ascii")` -/
def encodeAscii (text : Text) : Option (List UInt8) :=
  if text.all (fun c => decide (c.val < 128)) then some (text.flatMap octets) else none

theorem encodeUtf8_none {text : Text} : encodeUtf8 text = none ↔ ∃ c ∈ text, surrogate c = true := by
  unfold encodeUtf8
  split
  next hany => simpa using List.any_eq_true.1 hany
  next hany =>
    constructor
    · nofun
    · rintro ⟨c, hc, hsurrogate⟩
      exact absurd (List.any_eq_true.2 ⟨c, hc, hsurrogate⟩) hany

end Utf8

section Dumps

/-- Texts by their code points. A dictionary with other keys is not written. -/
def keyLe : Key → Key → Bool
  | .text s, .text t => decide (s ≤ t)
  | .text _, .other _ => true
  | .other _, .text _ => false
  | .other m, .other n => decide (m ≤ n)

mutual

def sorted : Value → Value
  | .list items => .list (sortedItems items)
  | .dict members => .dict ((sortedMembers members).insertionSort (fun a b => keyLe a.1 b.1))
  | value => value

def sortedItems : List Value → List Value
  | [] => []
  | item :: items => sorted item :: sortedItems items

def sortedMembers : List (Key × Value) → List (Key × Value)
  | [] => []
  | (key, value) :: members => (key, sorted value) :: sortedMembers members

end

def hexDigit (n : ℕ) : Char := Char.ofNat (if n < 10 then 48 + n else 87 + n)

/-- The escapes of one letter, by code point. -/
def shortEscapes : List (ℕ × ℕ) :=
  [(34, 34), (92, 92), (8, 98), (12, 102), (10, 110), (13, 114), (9, 116)]

/-- A character of a text without `ensure_ascii`. -/
def escape (c : CodePoint) : Text :=
  match shortEscapes.lookup c.val with
  | some letter => [92, Fin.ofNat 1114112 letter]
  | none =>
    if c.val < 32 then
      [92, point 'u', point '0', point '0', point (hexDigit (c.val / 16)),
        point (hexDigit (c.val % 16))]
    else [c]

def writeText (s : Text) : Text := 34 :: s.flatMap escape ++ [34]

/-- The digits of an integer, which Python refuses to write from 4301 digits on. -/
def writeInt (n : ℤ) : Option Text :=
  if (toString n.natAbs).length ≤ 4300 then some (points (toString n)) else none

mutual

/-- What `json.dumps` writes, unless it raises a `TypeError` or a `ValueError`. -/
def write : Value → Option Text
  | .none => some (points "null")
  | .bool true => some (points "true")
  | .bool false => some (points "false")
  | .int n => writeInt n
  | .float true repr => some repr
  | .float false _ => none
  | .text s => some (writeText s)
  | .list [] => some (points "[]")
  | .list (item :: items) => do
    let first ← write item
    let rest ← writeItems items
    pure (point '[' :: first ++ rest)
  | .dict [] => some [123, 125]
  | .dict ((.text key, value) :: members) => do
    let first ← write value
    let rest ← writeMembers members
    pure (123 :: writeText key ++ point ':' :: first ++ rest)
  | .dict ((.other _, _) :: _) => none

def writeItems : List Value → Option Text
  | [] => some [point ']']
  | item :: items => do
    let first ← write item
    let rest ← writeItems items
    pure (point ',' :: first ++ rest)

def writeMembers : List (Key × Value) → Option Text
  | [] => some [125]
  | (.text key, value) :: members => do
    let first ← write value
    let rest ← writeMembers members
    pure (point ',' :: writeText key ++ point ':' :: first ++ rest)
  | (.other _, _) :: _ => none

end

/-- `json.dumps(value, sort_keys=True, ensure_ascii=False, allow_nan=False, separators=(",", ":"))` -/
def dumps (value : Value) : Option Text := write (sorted value)

end Dumps
end RoozDataCloud.PythonValues
