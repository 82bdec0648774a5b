import RoozDataCloud.JsonDocuments
import RoozDataCloud.KeyValueProtocol
import Mathlib.Data.Nat.Digits.Defs

set_option autoImplicit false

/-!
# Texts of documents

`json.dumps` with sorted keys and compact separators, with `ensure_ascii` and without.
A document without floats is determined by its text. The two options agree on a
document exactly when it has no character beyond the printable ASCII ones.
-/
namespace RoozDataCloud.JsonTexts
open JsonDocuments
open Datasets (Json)
open KeyValueProtocol (sorted sortedItems sortedMembers)

def quote : Char := Char.ofNat 34

def backslash : Char := Char.ofNat 92

def openBrace : Char := Char.ofNat 123

def closeBrace : Char := Char.ofNat 125

def hexDigit (n : ℕ) : Char := Char.ofNat (if n < 10 then 48 + n else 87 + n)

/-- `\uXXXX` -/
def hexEscape (n : ℕ) : List Char :=
  [backslash, 'u', hexDigit (n / 4096 % 16), hexDigit (n / 256 % 16), hexDigit (n / 16 % 16),
    hexDigit (n % 16)]

/-- The escapes of one letter. -/
def shortEscapes : List (Char × Char) :=
  [(quote, quote), (backslash, backslash), (Char.ofNat 8, 'b'), (Char.ofNat 12, 'f'),
    (Char.ofNat 10, 'n'), (Char.ofNat 13, 'r'), (Char.ofNat 9, 't')]

/-- A character of a string. Beyond the printable ASCII characters, `ensure_ascii` escapes it, with
a surrogate pair outside of the basic plane. -/
def escape (ascii : Bool) (c : Char) : List Char :=
  match shortEscapes.lookup c with
  | some letter => [backslash, letter]
  | none =>
    if c.toNat < 32 then hexEscape c.toNat
    else if c.toNat < 127 ∨ ascii = false then [c]
    else if c.toNat < 65536 then hexEscape c.toNat
    else hexEscape (55296 + (c.toNat - 65536) / 1024) ++ hexEscape (56320 + (c.toNat - 65536) % 1024)

def writeText (ascii : Bool) (s : String) : List Char :=
  quote :: s.toList.flatMap (escape ascii) ++ [quote]

mutual

def write (ascii : Bool) : Json → List Char
  | .null => ['n', 'u', 'l', 'l']
  | .bool true => ['t', 'r', 'u', 'e']
  | .bool false => ['f', 'a', 'l', 's', 'e']
  | .int n => (toString n).toList
  | .float _ text => text.toList
  | .text s => writeText ascii s
  | .list [] => ['[', ']']
  | .list (item :: items) => '[' :: write ascii item ++ writeItems ascii items
  | .object [] => [openBrace, closeBrace]
  | .object ((key, value) :: members) =>
    openBrace :: writeText ascii key ++ ':' :: write ascii value ++ writeMembers ascii members

def writeItems (ascii : Bool) : List Json → List Char
  | [] => [']']
  | item :: items => ',' :: write ascii item ++ writeItems ascii items

def writeMembers (ascii : Bool) : Members → List Char
  | [] => [closeBrace]
  | (key, value) :: members =>
    ',' :: writeText ascii key ++ ':' :: write ascii value ++ writeMembers ascii members

end

/-- `json.dumps(value, sort_keys=True, separators=(",", ":"))` -/
def dumps (ascii : Bool) (value : Json) : List Char := write ascii (sorted value)

section Reading

def hexValue (c : Char) : ℕ := if c.toNat < 58 then c.toNat - 48 else c.toNat - 87

theorem hexValue_hexDigit : ∀ n < 16, hexValue (hexDigit n) = n := by decide

/-- The number of a `\uXXXX`. -/
def readHex : List Char → Option (ℕ × List Char)
  | b :: u :: rest =>
    if b = backslash ∧ u = 'u' then
      match rest with
      | d₃ :: d₂ :: d₁ :: d₀ :: rest =>
        some (4096 * hexValue d₃ + 256 * hexValue d₂ + 16 * hexValue d₁ + hexValue d₀, rest)
      | _ => none
    else none
  | _ => none

theorem readHex_hexEscape {n : ℕ} (h : n < 65536) (rest : List Char) :
    readHex (hexEscape n ++ rest) = some (n, rest) := by
  have hdigit : ∀ k, hexValue (hexDigit (k % 16)) = k % 16 := fun k =>
    hexValue_hexDigit _ (Nat.mod_lt _ (by omega))
  simp only [hexEscape, List.cons_append, List.nil_append, readHex, and_self, if_true, hdigit,
    Option.some.injEq, Prod.mk.injEq, and_true]
  omega

/-- The first character of a string whose text this is. -/
def unescape : List Char → Option (Char × List Char)
  | [] => none
  | c :: rest =>
    if c ≠ backslash then some (c, rest)
    else match readHex (c :: rest) with
      | some (n, tail) =>
        if 55296 ≤ n ∧ n < 56320 then
          (readHex tail).map (fun (m, tail) =>
            (Char.ofNat (65536 + 1024 * (n - 55296) + (m - 56320)), tail))
        else some (Char.ofNat n, tail)
      | none => match rest with
        | [] => none
        | letter :: tail =>
          (shortEscapes.find? (fun entry => entry.2 = letter)).map (fun entry => (entry.1, tail))

theorem unescape_hexEscape {c : Char} (h : c.toNat < 65536) (rest : List Char) :
    unescape (hexEscape c.toNat ++ rest) = some (c, rest) := by
  have hscalar : ¬ (55296 ≤ c.toNat ∧ c.toNat < 56320) := by
    have hvalid := c.valid
    simp only [UInt32.isValidChar, Nat.isValidChar] at hvalid
    change c.val.toNat < 55296 ∨ _ at hvalid
    change ¬ (55296 ≤ c.val.toNat ∧ c.val.toNat < 56320)
    omega
  have hread := readHex_hexEscape h rest
  simp only [hexEscape, List.cons_append, List.nil_append] at hread ⊢
  simp only [unescape, hread, hscalar, ne_eq, not_true_eq_false, if_false, Char.ofNat_toNat]

theorem unescape_pair {c : Char} (h : ¬ c.toNat < 65536) (rest : List Char) :
    unescape (hexEscape (55296 + (c.toNat - 65536) / 1024) ++
      hexEscape (56320 + (c.toNat - 65536) % 1024) ++ rest) = some (c, rest) := by
  have hbound : c.toNat < 1114112 := by
    have hvalid := c.valid
    simp only [UInt32.isValidChar, Nat.isValidChar] at hvalid
    change c.val.toNat < 1114112
    omega
  have hfirst := readHex_hexEscape (n := 55296 + (c.toNat - 65536) / 1024) (by omega)
    (hexEscape (56320 + (c.toNat - 65536) % 1024) ++ rest)
  have hsecond := readHex_hexEscape (n := 56320 + (c.toNat - 65536) % 1024) (by omega) rest
  have hlead : 55296 ≤ 55296 + (c.toNat - 65536) / 1024 ∧
      55296 + (c.toNat - 65536) / 1024 < 56320 := by omega
  have hsum : 65536 + 1024 * (55296 + (c.toNat - 65536) / 1024 - 55296) +
      (56320 + (c.toNat - 65536) % 1024 - 56320) = c.toNat := by omega
  rw [List.append_assoc]
  generalize htail : hexEscape (56320 + (c.toNat - 65536) % 1024) ++ rest = tail at hfirst hsecond ⊢
  simp only [hexEscape, List.cons_append, List.nil_append] at hfirst ⊢
  simp only [unescape, hfirst, hsecond, hlead, hsum, ne_eq, not_true_eq_false, if_false, and_self,
    if_true, Option.map_some, Char.ofNat_toNat]

theorem unescape_escape (ascii : Bool) (c : Char) (rest : List Char) :
    unescape (escape ascii c ++ rest) = some (c, rest) := by
  unfold escape
  cases hshort : shortEscapes.lookup c with
  | some letter =>
    obtain ⟨before, after, hentries, -⟩ := List.lookup_eq_some_iff.1 hshort
    have hentry : (c, letter) ∈ shortEscapes := by simp [hentries]
    simp only [shortEscapes, List.mem_cons, Prod.mk.injEq, List.not_mem_nil, or_false] at hentry
    rcases hentry with ⟨rfl, rfl⟩ | ⟨rfl, rfl⟩ | ⟨rfl, rfl⟩ | ⟨rfl, rfl⟩ | ⟨rfl, rfl⟩ | ⟨rfl, rfl⟩ |
      ⟨rfl, rfl⟩ <;> rfl
  | none =>
    have hplain : c ≠ backslash := by
      rintro rfl
      revert hshort
      decide
    dsimp only
    split_ifs with hcontrol hprintable hplane
    · exact unescape_hexEscape (by omega) rest
    · simp [unescape, hplain]
    · exact unescape_hexEscape hplane rest
    · exact unescape_pair hplane rest

theorem escape_inj {ascii : Bool} {c c' : Char} {rest rest' : List Char}
    (h : escape ascii c ++ rest = escape ascii c' ++ rest') : c = c' ∧ rest = rest' := by
  have hread := unescape_escape ascii c rest
  rw [h, unescape_escape] at hread
  simpa [eq_comm] using hread

theorem escape_ne_quote (ascii : Bool) (c : Char) (rest rest' : List Char) :
    escape ascii c ++ rest ≠ quote :: rest' := by
  intro h
  have hread := unescape_escape ascii c rest
  have hquote : unescape (quote :: rest') = some (quote, rest') := rfl
  rw [h, hquote] at hread
  obtain rfl : quote = c := by simpa using congrArg (Option.map Prod.fst) hread
  have hhead : some backslash = some quote := congrArg List.head? h
  exact absurd hhead (by decide)

theorem characters_inj {ascii : Bool} : ∀ {cs cs' rest rest' : List Char},
    cs.flatMap (escape ascii) ++ quote :: rest = cs'.flatMap (escape ascii) ++ quote :: rest' →
      cs = cs' ∧ rest = rest'
  | [], [], _, _, h => ⟨rfl, List.tail_eq_of_cons_eq h⟩
  | [], c' :: cs', rest, rest', h => by
    rw [List.flatMap_cons, List.append_assoc] at h
    exact absurd h.symm (escape_ne_quote ascii c' _ rest)
  | c :: cs, [], rest, rest', h => by
    rw [List.flatMap_cons, List.append_assoc] at h
    exact absurd h (escape_ne_quote ascii c _ rest')
  | c :: cs, c' :: cs', rest, rest', h => by
    rw [List.flatMap_cons, List.flatMap_cons, List.append_assoc, List.append_assoc] at h
    obtain ⟨rfl, htail⟩ := escape_inj h
    obtain ⟨rfl, hrest⟩ := characters_inj htail
    exact ⟨rfl, hrest⟩

theorem writeText_inj {ascii : Bool} {s s' : String} {rest rest' : List Char}
    (h : writeText ascii s ++ rest = writeText ascii s' ++ rest') : s = s' ∧ rest = rest' := by
  simp only [writeText, List.cons_append, List.append_assoc, List.nil_append] at h
  obtain ⟨hcharacters, hrest⟩ := characters_inj (List.tail_eq_of_cons_eq h)
  exact ⟨String.toList_injective hcharacters, hrest⟩

/-- The characters of an integer. -/
def numeral (c : Char) : Bool := c.isDigit || c == '-'

theorem numeral_int (n : ℤ) : ∀ c ∈ (toString n).toList, numeral c = true := by
  have hdigits : ∀ m : ℕ, ∀ c ∈ Nat.toDigits 10 m, numeral c = true := by
    intro m c hc
    simp [numeral, Nat.isDigit_of_mem_toDigits (by decide) (by decide) hc]
  intro c hc
  rw [Int.toString_eq_repr, Int.repr_eq_if] at hc
  split at hc
  · exact hdigits _ c (by simpa using hc)
  · have hcases : c = '-' ∨ c ∈ Nat.toDigits 10 (-n).toNat := by simpa using hc
    rcases hcases with rfl | hc
    · rfl
    · exact hdigits _ c hc

theorem digits_inj {m m' : ℕ} (h : Nat.toDigits 10 m = Nat.toDigits 10 m') : m = m' := by
  rw [← Nat.ofDigitChars_ten_toDigits (n := m), h, Nat.ofDigitChars_ten_toDigits]

theorem digits_ne_sign (m : ℕ) (cs : List Char) : Nat.toDigits 10 m ≠ '-' :: cs := by
  intro h
  have hdigit : '-'.isDigit = true :=
    Nat.isDigit_of_mem_toDigits (by decide) (by decide) (h ▸ List.mem_cons_self)
  exact absurd hdigit (by decide)

theorem int_inj {n n' : ℤ} (h : (toString n).toList = (toString n').toList) : n = n' := by
  simp only [Int.toString_eq_repr, Int.repr_eq_if] at h
  split at h <;> split at h <;> simp at h
  · have := digits_inj h
    omega
  · exact absurd h (digits_ne_sign _ _)
  · exact absurd h.symm (digits_ne_sign _ _)
  · have := digits_inj h
    omega

/-- What may follow a value. -/
def Stops (rest : List Char) : Prop := ∀ c, rest.head? = some c → numeral c = false

theorem span_inj {ns ns' rest rest' : List Char} (hns : ∀ c ∈ ns, numeral c = true)
    (hns' : ∀ c ∈ ns', numeral c = true) (hrest : Stops rest) (hrest' : Stops rest')
    (h : ns ++ rest = ns' ++ rest') : ns = ns' ∧ rest = rest' := by
  induction ns generalizing ns' with
  | nil =>
    cases ns' with
    | nil => exact ⟨rfl, h⟩
    | cons c' ns' =>
      have hhead : rest.head? = some c' := by rw [← List.nil_append rest, h]; rfl
      exact absurd (hns' c' List.mem_cons_self) (by simp [hrest c' hhead])
  | cons c ns ih =>
    cases ns' with
    | nil =>
      have hhead : rest'.head? = some c := by rw [← List.nil_append rest', ← h]; rfl
      exact absurd (hns c List.mem_cons_self) (by simp [hrest' c hhead])
    | cons c' ns' =>
      obtain ⟨rfl, htail⟩ := List.cons_eq_cons.1 h
      obtain ⟨rfl, hrest⟩ := ih (fun c hc => hns c (List.mem_cons_of_mem _ hc))
        (fun c hc => hns' c (List.mem_cons_of_mem _ hc)) htail
      exact ⟨rfl, hrest⟩

end Reading

section Injectivity

mutual

def floatless : Json → Bool
  | .float _ _ => false
  | .list items => floatlessItems items
  | .object members => floatlessMembers members
  | _ => true

def floatlessItems : List Json → Bool
  | [] => true
  | item :: items => floatless item && floatlessItems items

def floatlessMembers : Members → Bool
  | [] => true
  | (_, value) :: members => floatless value && floatlessMembers members

end

/-- The shapes of values, told by the first character of their text. -/
inductive Shape where
  | null | yes | no | number | text | list | object
  deriving DecidableEq

def shapeOf : Json → Shape
  | .null => .null
  | .bool true => .yes
  | .bool false => .no
  | .int _ => .number
  | .float _ _ => .number
  | .text _ => .text
  | .list _ => .list
  | .object _ => .object

def leading (c : Char) : Option Shape :=
  if c = 'n' then some .null else if c = 't' then some .yes else if c = 'f' then some .no
  else if c = quote then some .text else if c = '[' then some .list
  else if c = openBrace then some .object else if numeral c then some .number else none

theorem leading_numeral {c : Char} (h : numeral c = true) : leading c = some .number := by
  have hne : ∀ d, numeral d = false → c ≠ d := by
    rintro d hd rfl
    rw [h] at hd
    cases hd
  simp only [leading, hne _ (rfl : numeral 'n' = false), hne _ (rfl : numeral 't' = false),
    hne _ (rfl : numeral 'f' = false), hne _ (rfl : numeral quote = false),
    hne _ (rfl : numeral '[' = false), hne _ (rfl : numeral openBrace = false), h, if_false, if_true]

theorem int_cons (n : ℤ) : ∃ c cs, (toString n).toList = c :: cs := by
  cases hcs : (toString n).toList with
  | cons c cs => exact ⟨c, cs, rfl⟩
  | nil =>
    have hempty : toString n = "" := String.toList_injective hcs
    rw [Int.toString_eq_repr, Int.repr_eq_if] at hempty
    split at hempty
    · exact absurd hempty (Nat.repr_ne_empty)
    · exact absurd (congrArg String.toList hempty) (by simp)

theorem write_lead (ascii : Bool) {v : Json} (h : floatless v = true) (rest : List Char) :
    (write ascii v ++ rest).head?.bind leading = some (shapeOf v) := by
  cases v with
  | null => rfl
  | bool b => cases b <;> rfl
  | int n =>
    obtain ⟨c, cs, hcs⟩ := int_cons n
    have hc : numeral c = true := numeral_int n c (hcs ▸ List.mem_cons_self)
    rw [write, hcs]
    exact leading_numeral hc
  | float finite text => cases h
  | text s => rfl
  | list items => cases items <;> rfl
  | object members => cases members <;> rfl

theorem shapeOf_eq {ascii : Bool} {v v' : Json} {rest rest' : List Char} (hv : floatless v = true)
    (hv' : floatless v' = true) (h : write ascii v ++ rest = write ascii v' ++ rest') :
    shapeOf v = shapeOf v' := by
  have hlead := write_lead ascii hv rest
  rw [h, write_lead ascii hv'] at hlead
  exact (Option.some.inj hlead).symm

theorem stops_items (ascii : Bool) (items : List Json) (rest : List Char) :
    Stops (writeItems ascii items ++ rest) := by
  cases items <;> rintro c ⟨⟩ <;> rfl

theorem stops_members (ascii : Bool) (members : Members) (rest : List Char) :
    Stops (writeMembers ascii members ++ rest) := by
  rcases members with - | ⟨⟨key, value⟩, members⟩ <;> rintro c ⟨⟩ <;> rfl

-- By recursion on the first document; the rest of the text is told apart by what may follow.
mutual

theorem write_inj {ascii : Bool} : (v v' : Json) → {rest rest' : List Char} →
    floatless v = true → floatless v' = true → Stops rest → Stops rest' →
    write ascii v ++ rest = write ascii v' ++ rest' → v = v' ∧ rest = rest'
  | .null, v', _, _, hv, hv', _, _, h => by
    have hshape := shapeOf_eq hv hv' h
    cases v' with
    | null => exact ⟨rfl, List.append_cancel_left h⟩
    | bool b => cases b <;> cases hshape
    | _ => cases hshape
  | .bool b, v', _, _, hv, hv', _, _, h => by
    have hshape := shapeOf_eq hv hv' h
    cases v' with
    | bool b' =>
      cases b <;> cases b' <;> first | exact ⟨rfl, List.append_cancel_left h⟩ | cases hshape
    | _ => cases b <;> cases hshape
  | .int n, v', _, _, hv, hv', hstop, hstop', h => by
    have hshape := shapeOf_eq hv hv' h
    cases v' with
    | int n' =>
      obtain ⟨htext, hrest⟩ := span_inj (numeral_int n) (numeral_int n') hstop hstop' h
      exact ⟨congrArg Json.int (int_inj htext), hrest⟩
    | float finite text => cases hv'
    | bool b => cases b <;> cases hshape
    | _ => cases hshape
  | .float _ _, _, _, _, hv, _, _, _, _ => by cases hv
  | .text s, v', _, _, hv, hv', _, _, h => by
    have hshape := shapeOf_eq hv hv' h
    cases v' with
    | text s' =>
      obtain ⟨rfl, hrest⟩ := writeText_inj h
      exact ⟨rfl, hrest⟩
    | bool b => cases b <;> cases hshape
    | _ => cases hshape
  | .list [], v', _, rest', hv, hv', _, _, h => by
    have hshape := shapeOf_eq hv hv' h
    cases v' with
    | list items' =>
      cases items' with
      | nil => exact ⟨rfl, List.append_cancel_left h⟩
      | cons item' items' =>
        simp only [floatless, floatlessItems, Bool.and_eq_true] at hv'
        have hlead := write_lead ascii hv'.1 (writeItems ascii items' ++ rest')
        simp only [write, List.cons_append, List.append_assoc, List.cons.injEq, true_and] at h
        rw [← h] at hlead
        cases hlead
    | bool b => cases b <;> cases hshape
    | _ => cases hshape
  | .list (item :: items), v', rest, _, hv, hv', _, _, h => by
    have hshape := shapeOf_eq hv hv' h
    cases v' with
    | list items' =>
      simp only [floatless, floatlessItems, Bool.and_eq_true] at hv
      cases items' with
      | nil =>
        have hlead := write_lead ascii hv.1 (writeItems ascii items ++ rest)
        simp only [write, List.cons_append, List.append_assoc, List.cons.injEq, true_and] at h
        rw [h] at hlead
        cases hlead
      | cons item' items' =>
        simp only [floatless, floatlessItems, Bool.and_eq_true] at hv'
        simp only [write, List.cons_append, List.append_assoc, List.cons.injEq, true_and] at h
        obtain ⟨rfl, htail⟩ := write_inj item item' hv.1 hv'.1 (stops_items _ _ _)
          (stops_items _ _ _) h
        obtain ⟨rfl, hrest⟩ := writeItems_inj items items' hv.2 hv'.2 htail
        exact ⟨rfl, hrest⟩
    | bool b => cases b <;> cases hshape
    | _ => cases hshape
  | .object [], v', _, _, hv, hv', _, _, h => by
    have hshape := shapeOf_eq hv hv' h
    cases v' with
    | object members' =>
      rcases members' with - | ⟨⟨key', value'⟩, members'⟩
      · exact ⟨rfl, List.append_cancel_left h⟩
      · have hsecond : some closeBrace = some quote := congrArg (fun cs => (cs.drop 1).head?) h
        exact absurd hsecond (by decide)
    | bool b => cases b <;> cases hshape
    | _ => cases hshape
  | .object ((key, value) :: members), v', _, _, hv, hv', _, _, h => by
    have hshape := shapeOf_eq hv hv' h
    cases v' with
    | object members' =>
      rcases members' with - | ⟨⟨key', value'⟩, members'⟩
      · have hsecond : some quote = some closeBrace := congrArg (fun cs => (cs.drop 1).head?) h
        exact absurd hsecond (by decide)
      · simp only [floatless, floatlessMembers, Bool.and_eq_true] at hv hv'
        simp only [write, List.cons_append, List.append_assoc, List.cons.injEq, true_and] at h
        obtain ⟨rfl, hvalue⟩ := writeText_inj h
        obtain ⟨rfl, htail⟩ := write_inj value value' hv.1 hv'.1 (stops_members _ _ _)
          (stops_members _ _ _) (List.tail_eq_of_cons_eq hvalue)
        obtain ⟨rfl, hrest⟩ := writeMembers_inj members members' hv.2 hv'.2 htail
        exact ⟨rfl, hrest⟩
    | bool b => cases b <;> cases hshape
    | _ => cases hshape

theorem writeItems_inj {ascii : Bool} : (items items' : List Json) → {rest rest' : List Char} →
    floatlessItems items = true → floatlessItems items' = true →
    writeItems ascii items ++ rest = writeItems ascii items' ++ rest' → items = items' ∧ rest = rest'
  | [], items', _, _, _, _, h => by
    cases items' with
    | nil => exact ⟨rfl, List.append_cancel_left h⟩
    | cons item' items' => exact absurd (congrArg List.head? h) (by simp [writeItems])
  | item :: items, items', _, _, hv, hv', h => by
    cases items' with
    | nil => exact absurd (congrArg List.head? h) (by simp [writeItems])
    | cons item' items' =>
      simp only [floatlessItems, Bool.and_eq_true] at hv hv'
      simp only [writeItems, List.cons_append, List.append_assoc, List.cons.injEq, true_and] at h
      obtain ⟨rfl, htail⟩ := write_inj item item' hv.1 hv'.1 (stops_items _ _ _) (stops_items _ _ _) h
      obtain ⟨rfl, hrest⟩ := writeItems_inj items items' hv.2 hv'.2 htail
      exact ⟨rfl, hrest⟩

theorem writeMembers_inj {ascii : Bool} : (members members' : Members) → {rest rest' : List Char} →
    floatlessMembers members = true → floatlessMembers members' = true →
    writeMembers ascii members ++ rest = writeMembers ascii members' ++ rest' →
    members = members' ∧ rest = rest'
  | [], members', _, _, _, _, h => by
    cases members' with
    | nil => exact ⟨rfl, List.append_cancel_left h⟩
    | cons member' members' =>
      exact absurd (congrArg List.head? h) (by simp [writeMembers, closeBrace])
  | (key, value) :: members, members', _, _, hv, hv', h => by
    rcases members' with - | ⟨⟨key', value'⟩, members'⟩
    · exact absurd (congrArg List.head? h) (by simp [writeMembers, closeBrace])
    · simp only [floatlessMembers, Bool.and_eq_true] at hv hv'
      simp only [writeMembers, List.cons_append, List.append_assoc, List.cons.injEq, true_and] at h
      obtain ⟨rfl, hvalue⟩ := writeText_inj h
      obtain ⟨rfl, htail⟩ := write_inj value value' hv.1 hv'.1 (stops_members _ _ _)
        (stops_members _ _ _)
        (List.tail_eq_of_cons_eq hvalue)
      obtain ⟨rfl, hrest⟩ := writeMembers_inj members members' hv.2 hv'.2 htail
      exact ⟨rfl, hrest⟩

end

theorem floatlessMembers_iff {members : Members} :
    floatlessMembers members = true ↔ ∀ entry ∈ members, floatless entry.2 = true := by
  induction members with
  | nil => simp [floatlessMembers]
  | cons entry members ih => simp [floatlessMembers, ih]

mutual

theorem floatless_sorted : (v : Json) → floatless (sorted v) = floatless v
  | .null | .bool _ | .int _ | .float _ _ | .text _ => rfl
  | .list items => floatless_sortedItems items
  | .object members => by
    rw [sorted, floatless, floatless, ← floatless_sortedMembers members, Bool.eq_iff_iff,
      floatlessMembers_iff, floatlessMembers_iff]
    simp only [(List.perm_insertionSort _ _).mem_iff]

theorem floatless_sortedItems : (items : List Json) →
    floatlessItems (sortedItems items) = floatlessItems items
  | [] => rfl
  | item :: items => by
    rw [sortedItems, floatlessItems, floatlessItems, floatless_sorted item,
      floatless_sortedItems items]

theorem floatless_sortedMembers : (members : Members) →
    floatlessMembers (sortedMembers members) = floatlessMembers members
  | [] => rfl
  | (key, value) :: members => by
    rw [sortedMembers, floatlessMembers, floatlessMembers, floatless_sorted value,
      floatless_sortedMembers members]

end

theorem dumps_inj {ascii : Bool} {v v' : Json} (hv : floatless v = true) (hv' : floatless v' = true)
    (h : dumps ascii v = dumps ascii v') : sorted v = sorted v' := by
  have hstops : Stops [] := fun c hc => by cases hc
  have htexts : write ascii (sorted v) ++ [] = write ascii (sorted v') ++ [] := by
    rw [List.append_nil, List.append_nil]
    exact h
  rw [← floatless_sorted] at hv hv'
  exact (write_inj (sorted v) (sorted v') hv hv' hstops hstops htexts).1

end Injectivity

section Options

/-- A character that both options write alike. -/
def plain (c : Char) : Bool := decide (c.toNat < 127)

theorem escape_plain {c : Char} (h : plain c = true) : escape true c = escape false c := by
  have hbound : c.toNat < 127 := of_decide_eq_true h
  unfold escape
  cases shortEscapes.lookup c with
  | some letter => rfl
  | none => simp [hbound]

def plainText (s : String) : Bool := s.toList.all plain

mutual

/-- No text of the document has a character beyond the printable ASCII ones. -/
def plainDocument : Json → Bool
  | .text s => plainText s
  | .list items => plainItems items
  | .object members => plainMembers members
  | _ => true

def plainItems : List Json → Bool
  | [] => true
  | item :: items => plainDocument item && plainItems items

def plainMembers : Members → Bool
  | [] => true
  | (key, value) :: members => plainText key && plainDocument value && plainMembers members

end

theorem writeText_plain {s : String} (h : plainText s = true) :
    writeText true s = writeText false s := by
  have hcharacters : s.toList.flatMap (escape true) = s.toList.flatMap (escape false) :=
    List.flatMap_congr (fun c hc => escape_plain (List.all_eq_true.1 h c hc))
  rw [writeText, writeText, hcharacters]

mutual

theorem write_plain : (v : Json) → plainDocument v = true → write true v = write false v
  | .null, _ | .int _, _ | .float _ _, _ => rfl
  | .bool b, _ => by cases b <;> rfl
  | .text s, h => writeText_plain h
  | .list [], _ => rfl
  | .list (item :: items), h => by
    simp only [plainDocument, plainItems, Bool.and_eq_true] at h
    rw [write, write, write_plain item h.1, writeItems_plain items h.2]
  | .object [], _ => rfl
  | .object ((key, value) :: members), h => by
    simp only [plainDocument, plainMembers, Bool.and_eq_true] at h
    rw [write, write, writeText_plain h.1.1, write_plain value h.1.2, writeMembers_plain members h.2]

theorem writeItems_plain : (items : List Json) → plainItems items = true →
    writeItems true items = writeItems false items
  | [], _ => rfl
  | item :: items, h => by
    simp only [plainItems, Bool.and_eq_true] at h
    rw [writeItems, writeItems, write_plain item h.1, writeItems_plain items h.2]

theorem writeMembers_plain : (members : Members) → plainMembers members = true →
    writeMembers true members = writeMembers false members
  | [], _ => rfl
  | (key, value) :: members, h => by
    simp only [plainMembers, Bool.and_eq_true] at h
    rw [writeMembers, writeMembers, writeText_plain h.1.1, write_plain value h.1.2,
      writeMembers_plain members h.2]

end

theorem hexEscape_ascii (n : ℕ) : ∀ c ∈ hexEscape n, plain c = true := by
  have hdigit : ∀ k < 16, plain (hexDigit k) = true := by decide
  intro c hc
  simp only [hexEscape, List.mem_cons, List.not_mem_nil, or_false] at hc
  rcases hc with rfl | rfl | rfl | rfl | rfl | rfl
  · rfl
  · rfl
  all_goals exact hdigit _ (Nat.mod_lt _ (by omega))

theorem escape_ascii (c : Char) : ∀ d ∈ escape true c, plain d = true := by
  have hletters : ∀ entry ∈ shortEscapes, plain entry.2 = true := by decide
  intro d hd
  unfold escape at hd
  cases hshort : shortEscapes.lookup c with
  | some letter =>
    obtain ⟨before, after, hentries, -⟩ := List.lookup_eq_some_iff.1 hshort
    rw [hshort] at hd
    rcases List.mem_cons.1 hd with rfl | hd
    · rfl
    · rw [List.mem_singleton.1 hd]
      exact hletters (c, letter) (by simp [hentries])
  | none =>
    rw [hshort] at hd
    dsimp only at hd
    split_ifs at hd with hcontrol hprintable hplane
    · exact hexEscape_ascii _ d hd
    · rw [List.mem_singleton.1 hd]
      exact decide_eq_true (by simpa using hprintable)
    · exact hexEscape_ascii _ d hd
    · rcases List.mem_append.1 hd with hd | hd
      · exact hexEscape_ascii _ d hd
      · exact hexEscape_ascii _ d hd

theorem writeText_ascii (s : String) : ∀ c ∈ writeText true s, plain c = true := by
  intro c hc
  simp only [writeText, List.cons_append, List.mem_cons, List.mem_append, List.mem_flatMap,
    List.not_mem_nil, or_false] at hc
  rcases hc with rfl | ⟨d, -, hc⟩ | rfl
  · rfl
  · exact escape_ascii d c hc
  · rfl

theorem mem_writeText {s : String} (h : plainText s = false) :
    ∃ c ∈ writeText false s, plain c = false := by
  obtain ⟨c, hc, hplain⟩ := List.all_eq_false.1 h
  have hbound : ¬ c.toNat < 127 := by simpa [plain] using hplain
  have hraw : escape false c = [c] := by
    have hshort : shortEscapes.lookup c = none := by
      rw [List.lookup_eq_none_iff]
      have hsmall : ∀ entry ∈ shortEscapes, entry.1.toNat < 127 := by decide
      intro entry hentry
      rw [bne_iff_ne]
      rintro rfl
      exact hbound (hsmall entry hentry)
    have hcontrol : ¬ c.toNat < 32 := by omega
    simp [escape, hshort, hcontrol]
  refine ⟨c, ?_, by simpa using hplain⟩
  simp only [writeText, List.cons_append, List.mem_cons, List.mem_append, List.mem_flatMap]
  exact .inr (.inl ⟨c, hc, by simp [hraw]⟩)

mutual

theorem write_ascii : (v : Json) → floatless v = true → ∀ c ∈ write true v, plain c = true
  | .null, _ => List.all_eq_true.1 (by decide)
  | .bool true, _ => List.all_eq_true.1 (by decide)
  | .bool false, _ => List.all_eq_true.1 (by decide)
  | .int n, _ => fun c hc => by
    have hnumeral := numeral_int n c hc
    simp only [numeral, Bool.or_eq_true, beq_iff_eq] at hnumeral
    rcases hnumeral with hdigit | rfl
    · simp only [Char.isDigit, Bool.and_eq_true, decide_eq_true_eq] at hdigit
      exact decide_eq_true (lt_of_le_of_lt hdigit.2 (by decide))
    · rfl
  | .float _ _, h => by cases h
  | .text s, _ => writeText_ascii s
  | .list [], _ => List.all_eq_true.1 (by decide)
  | .list (item :: items), h => fun c hc => by
    simp only [floatless, floatlessItems, Bool.and_eq_true] at h
    simp only [write, List.cons_append, List.mem_cons, List.mem_append] at hc
    rcases hc with rfl | hc | hc
    · rfl
    · exact write_ascii item h.1 c hc
    · exact writeItems_ascii items h.2 c hc
  | .object [], _ => List.all_eq_true.1 (by decide)
  | .object ((key, value) :: members), h => fun c hc => by
    simp only [floatless, floatlessMembers, Bool.and_eq_true] at h
    simp only [write, List.cons_append, List.mem_cons, List.mem_append] at hc
    rcases hc with rfl | (hc | rfl | hc) | hc
    · rfl
    · exact writeText_ascii key c hc
    · rfl
    · exact write_ascii value h.1 c hc
    · exact writeMembers_ascii members h.2 c hc

theorem writeItems_ascii : (items : List Json) → floatlessItems items = true →
    ∀ c ∈ writeItems true items, plain c = true
  | [], _ => List.all_eq_true.1 (by decide)
  | item :: items, h => fun c hc => by
    simp only [floatlessItems, Bool.and_eq_true] at h
    simp only [writeItems, List.cons_append, List.mem_cons, List.mem_append] at hc
    rcases hc with rfl | hc | hc
    · rfl
    · exact write_ascii item h.1 c hc
    · exact writeItems_ascii items h.2 c hc

theorem writeMembers_ascii : (members : Members) → floatlessMembers members = true →
    ∀ c ∈ writeMembers true members, plain c = true
  | [], _ => List.all_eq_true.1 (by decide)
  | (key, value) :: members, h => fun c hc => by
    simp only [floatlessMembers, Bool.and_eq_true] at h
    simp only [writeMembers, List.cons_append, List.mem_cons, List.mem_append] at hc
    rcases hc with rfl | (hc | rfl | hc) | hc
    · rfl
    · exact writeText_ascii key c hc
    · rfl
    · exact write_ascii value h.1 c hc
    · exact writeMembers_ascii members h.2 c hc

end

mutual

theorem mem_write : (v : Json) → plainDocument v = false → ∃ c ∈ write false v, plain c = false
  | .null, h | .bool _, h | .int _, h | .float _ _, h => by cases h
  | .text s, h => mem_writeText h
  | .list [], h => by cases h
  | .list (item :: items), h => by
    simp only [plainDocument, plainItems, Bool.and_eq_false_iff] at h
    rcases h with h | h
    · obtain ⟨c, hc, hplain⟩ := mem_write item h
      exact ⟨c, by simp [write, hc], hplain⟩
    · obtain ⟨c, hc, hplain⟩ := mem_writeItems items h
      exact ⟨c, by simp [write, hc], hplain⟩
  | .object [], h => by cases h
  | .object ((key, value) :: members), h => by
    simp only [plainDocument, plainMembers, Bool.and_eq_false_iff] at h
    rcases h with (h | h) | h
    · obtain ⟨c, hc, hplain⟩ := mem_writeText h
      exact ⟨c, by simp [write, hc], hplain⟩
    · obtain ⟨c, hc, hplain⟩ := mem_write value h
      exact ⟨c, by simp [write, hc], hplain⟩
    · obtain ⟨c, hc, hplain⟩ := mem_writeMembers members h
      exact ⟨c, by simp [write, hc], hplain⟩

theorem mem_writeItems : (items : List Json) → plainItems items = false →
    ∃ c ∈ writeItems false items, plain c = false
  | [], h => by cases h
  | item :: items, h => by
    simp only [plainItems, Bool.and_eq_false_iff] at h
    rcases h with h | h
    · obtain ⟨c, hc, hplain⟩ := mem_write item h
      exact ⟨c, by simp [writeItems, hc], hplain⟩
    · obtain ⟨c, hc, hplain⟩ := mem_writeItems items h
      exact ⟨c, by simp [writeItems, hc], hplain⟩

theorem mem_writeMembers : (members : Members) → plainMembers members = false →
    ∃ c ∈ writeMembers false members, plain c = false
  | [], h => by cases h
  | (key, value) :: members, h => by
    simp only [plainMembers, Bool.and_eq_false_iff] at h
    rcases h with (h | h) | h
    · obtain ⟨c, hc, hplain⟩ := mem_writeText h
      exact ⟨c, by simp [writeMembers, hc], hplain⟩
    · obtain ⟨c, hc, hplain⟩ := mem_write value h
      exact ⟨c, by simp [writeMembers, hc], hplain⟩
    · obtain ⟨c, hc, hplain⟩ := mem_writeMembers members h
      exact ⟨c, by simp [writeMembers, hc], hplain⟩

end

theorem plainMembers_iff {members : Members} : plainMembers members = true ↔
    ∀ entry ∈ members, plainText entry.1 = true ∧ plainDocument entry.2 = true := by
  induction members with
  | nil => simp [plainMembers]
  | cons entry members ih => simp [plainMembers, ih]

mutual

theorem plain_sorted : (v : Json) → plainDocument (sorted v) = plainDocument v
  | .null | .bool _ | .int _ | .float _ _ | .text _ => rfl
  | .list items => plain_sortedItems items
  | .object members => by
    rw [sorted, plainDocument, plainDocument, ← plain_sortedMembers members, Bool.eq_iff_iff,
      plainMembers_iff, plainMembers_iff]
    simp only [(List.perm_insertionSort _ _).mem_iff]

theorem plain_sortedItems : (items : List Json) →
    plainItems (sortedItems items) = plainItems items
  | [] => rfl
  | item :: items => by
    rw [sortedItems, plainItems, plainItems, plain_sorted item, plain_sortedItems items]

theorem plain_sortedMembers : (members : Members) →
    plainMembers (sortedMembers members) = plainMembers members
  | [] => rfl
  | (key, value) :: members => by
    rw [sortedMembers, plainMembers, plainMembers, plain_sorted value, plain_sortedMembers members]

end

theorem plain_of_dumps {v v' : Json} (h : floatless v = true) (hsame : dumps true v = dumps false v') :
    plainDocument v' = true := by
  rw [← plain_sorted]
  rw [← floatless_sorted] at h
  by_contra hunplain
  obtain ⟨c, hc, hplain⟩ := mem_write (sorted v') (by simpa using hunplain)
  have hascii := write_ascii (sorted v) h c (by
    change c ∈ dumps true v
    rw [hsame]
    exact hc)
  rw [hplain] at hascii
  cases hascii

/-- The two options write a document alike exactly when it is plain. -/
theorem dumps_options {v : Json} (h : floatless v = true) :
    dumps true v = dumps false v ↔ plainDocument v = true := by
  refine ⟨plain_of_dumps h, fun hplain => write_plain _ ?_⟩
  rwa [plain_sorted]

end Options

example : dumps true (.object [("v", .int 1), ("id", .text "é")]) =
    [openBrace, quote, 'i', 'd', quote, ':', quote, backslash, 'u', '0', '0', 'e', '9', quote, ',',
      quote, 'v', quote, ':', '1', closeBrace] := by
  decide +kernel

end RoozDataCloud.JsonTexts
