import RoozDataCloud.WebFetchContract
import RoozDataCloud.HostTexts

set_option autoImplicit false

/-!
# Host names of egress policies

The API and the worker normalise the names of hosts with rules of their own. A name
that the API gives back unchanged is one that the worker gives back unchanged.
-/
namespace RoozDataCloud.HostNames
open FallibleSteps WorkerEgress JsonTexts WebFetchContract

/-- A label that both rules accept. -/
structure GoodLabel (label : List Char) : Prop where
  sized : label ≠ [] ∧ label.length ≤ 63
  ends : label.head? ≠ some '-' ∧ label.getLast? ≠ some '-'
  characters : label.all labelCharacter = true

instance decidableGoodLabel (label : List Char) : Decidable (GoodLabel label) :=
  decidable_of_iff ((label ≠ [] ∧ label.length ≤ 63) ∧
    (label.head? ≠ some '-' ∧ label.getLast? ≠ some '-') ∧ label.all labelCharacter = true)
    ⟨fun h => ⟨h.1, h.2.1, h.2.2⟩, fun h => ⟨h.sized, h.ends, h.characters⟩⟩

theorem checkLabel_ok {label : List Char} {u : Unit} : checkLabel label = .ok u ↔ GoodLabel label := by
  simp only [checkLabel, bind_ok, require_ok, exists_const]
  constructor
  · rintro ⟨hsized, hends, hcharacters⟩
    exact ⟨hsized, hends, hcharacters⟩
  · rintro ⟨hsized, hends, hcharacters⟩
    exact ⟨hsized, hends, hcharacters⟩

/-- `text.strip("[]")` -/
def stripBrackets (text : String) : String :=
  let bracket := fun c => decide (c ∈ ['[', ']'])
  String.ofList ((text.toList.dropWhile bracket).rdropWhile bracket)

/-- `normalize_hostname` of the API. The message of an `EgressPolicyProtocolError` stands for it. -/
def normalizeHostname (web : WebLibrary) (value : String) : Except String String := do
  let candidate := web.foldHost value
  -- A name with "://" has a "/".
  require (candidate ≠ "" ∧ candidate.length ≤ 253 ∧ ∀ c ∈ ['/', '@', '*'], c ∉ candidate.toList)
    "Allowed hosts must be exact HTTPS hostnames."
  require (web.isIpAddress (stripBrackets candidate) = false)
    "IP literals are not allowed in egress policies."
  let ascii ← demand (web.encodeIdna candidate) "Allowed host is not a valid hostname."
  require (2 ≤ (labels ascii).length ∧ ∀ label ∈ labels ascii, GoodLabel label)
    "Allowed host is not a valid public hostname."
  require (ascii ≠ "localhost" ∧ endsWithAny ascii forbiddenSuffixes = false)
    "Special-use hostnames are not allowed."
  pure ascii

/-- A character of a name is a dot, or one of a label. -/
theorem host_character {host : String} (h : ∀ label ∈ labels host, GoodLabel label) {c : Char}
    (hc : c ∈ host.toList) : c = '.' ∨ labelCharacter c = true := by
  rcases HostTexts.mem_of_splitOn hc with hdot | ⟨label, hlabel, hc⟩
  · exact .inl hdot
  · exact .inr (List.all_eq_true.1 (h label hlabel).characters c hc)

theorem dropWhile_none {α : Type} {p : α → Bool} {items : List α} (h : ∀ item ∈ items, p item = false) :
    items.dropWhile p = items := by
  cases items with
  | nil => rfl
  | cons item items => rw [List.dropWhile_cons, h item List.mem_cons_self, if_neg Bool.false_ne_true]

theorem stripBrackets_none {text : String}
    (h : ∀ c ∈ text.toList, decide (c ∈ ['[', ']']) = false) : stripBrackets text = text := by
  have hleft : text.toList.dropWhile (fun c => decide (c ∈ ['[', ']'])) = text.toList :=
    dropWhile_none h
  have hright : text.toList.rdropWhile (fun c => decide (c ∈ ['[', ']'])) = text.toList := by
    rw [List.rdropWhile, dropWhile_none (fun c hc => h c (List.mem_reverse.1 hc)),
      List.reverse_reverse]
  rw [stripBrackets, hleft, hright, String.ofList_toList]

end RoozDataCloud.HostNames
