import Mathlib.Data.List.Basic
import Mathlib.Data.List.Forall2

set_option autoImplicit false

/-!
# Host names as texts

The IDNA codec of the standard library, over the tables it takes from Unicode, and
the texts that are IPv4 addresses. The codec reads four signs as a dot, and a label
that is not ASCII as `nameprep` prepares it: compatibility characters become the
characters they stand for.
-/
namespace RoozDataCloud.HostTexts

def ascii (c : Char) : Bool := decide (c.toNat < 128)

/-- What the codec takes from the Unicode tables. `nameprep` folds case and keeps the ASCII signs
that nothing combines with; Punycode keeps the ASCII characters of its label. -/
structure Stringprep where
  nameprep : List Char → Option (List Char)
  punycode : List Char → List Char
  nameprep_lowered : ∀ label prepared, nameprep label = some prepared →
    ∀ c ∈ prepared, c.isUpper = false
  nameprep_signs : ∀ label prepared, nameprep label = some prepared →
    ∀ c ∈ ['/', '@', '[', ']'], c ∈ label → c ∈ prepared
  punycode_ascii : ∀ label, ∀ c ∈ punycode label, ascii c = true
  punycode_lowered : ∀ label, (∀ c ∈ label, c.isUpper = false) →
    ∀ c ∈ punycode label, c.isUpper = false
  punycode_basic : ∀ label, ∀ c ∈ label, ascii c = true → c ∈ punycode label

section Pieces
variable {α : Type}

theorem mem_intersperse {sep item : α} {items : List α} (h : item ∈ items.intersperse sep) :
    item = sep ∨ item ∈ items := by
  induction items with
  | nil => cases h
  | cons first items ih =>
    cases items with
    | nil => exact .inr h
    | cons second rest =>
      simp only [List.intersperse_cons_cons, List.mem_cons] at h
      rcases h with rfl | rfl | h
      · exact .inr List.mem_cons_self
      · exact .inl rfl
      · exact (ih h).imp_right (List.mem_cons_of_mem first)

theorem mem_intersperse_of_mem {sep item : α} {items : List α} (h : item ∈ items) :
    item ∈ items.intersperse sep := by
  induction items with
  | nil => cases h
  | cons first items ih =>
    cases items with
    | nil => exact h
    | cons second rest =>
      rw [List.intersperse_cons_cons, List.mem_cons, List.mem_cons]
      rcases List.mem_cons.1 h with rfl | h
      · exact .inl rfl
      · exact .inr (.inr (ih h))

theorem mem_intercalate {sep c : α} {pieces : List (List α)} (h : c ∈ [sep].intercalate pieces) :
    c = sep ∨ ∃ piece ∈ pieces, c ∈ piece := by
  rw [List.intercalate, List.mem_flatten] at h
  obtain ⟨part, hpart, hc⟩ := h
  rcases mem_intersperse hpart with rfl | hpiece
  · exact .inl (List.mem_singleton.1 hc)
  · exact .inr ⟨part, hpiece, hc⟩

theorem mem_intercalate_of_mem {sep c : α} {pieces : List (List α)} {piece : List α}
    (hpiece : piece ∈ pieces) (hc : c ∈ piece) : c ∈ [sep].intercalate pieces := by
  rw [List.intercalate, List.mem_flatten]
  exact ⟨piece, mem_intersperse_of_mem hpiece, hc⟩

/-- A character of a text is the separator, or one of a piece. -/
theorem mem_of_splitOn [BEq α] [LawfulBEq α] {sep c : α} {text : List α} (hc : c ∈ text) :
    c = sep ∨ ∃ piece ∈ text.splitOn sep, c ∈ piece := by
  rw [← text.intercalate_splitOn sep] at hc
  exact mem_intercalate hc

theorem mem_of_splitOnP {p : α → Bool} {c : α} {text : List α} (hc : c ∈ text) (hp : p c = false) :
    ∃ piece ∈ text.splitOnP p, c ∈ piece := by
  induction text with
  | nil => cases hc
  | cons first text ih =>
    obtain ⟨head, pieces, hpieces⟩ := List.exists_cons_of_ne_nil (text.splitOnP_ne_nil p)
    rw [List.splitOnP_cons_eq_if_modifyHead, hpieces]
    rw [hpieces] at ih
    cases hfirst : p first with
    | true =>
      rcases List.mem_cons.1 hc with rfl | hc
      · rw [hp] at hfirst
        cases hfirst
      · obtain ⟨piece, hpiece, hmem⟩ := ih hc
        exact ⟨piece, List.mem_cons_of_mem [] hpiece, hmem⟩
    | false =>
      rcases List.mem_cons.1 hc with rfl | hc
      · exact ⟨c :: head, List.mem_cons_self, List.mem_cons_self⟩
      · obtain ⟨piece, hpiece, hmem⟩ := ih hc
        rcases List.mem_cons.1 hpiece with rfl | hpiece
        · exact ⟨first :: piece, List.mem_cons_self, List.mem_cons_of_mem first hmem⟩
        · exact ⟨piece, List.mem_cons_of_mem _ hpiece, hmem⟩

end Pieces

section Addresses

/-- A decimal number up to 255 without leading zeros. -/
def octet (text : List Char) : Bool :=
  !text.isEmpty && text.all Char.isDigit && decide (text.length ≤ 3) &&
    (text == ['0'] || text.head? != some '0') &&
    decide (text.foldl (fun n c => 10 * n + (c.toNat - 48)) 0 ≤ 255)

/-- The text of an IPv4 address, as `ipaddress` reads it. -/
def dottedQuad (text : List Char) : Bool :=
  decide ((text.splitOn '.').length = 4) && (text.splitOn '.').all octet

theorem dottedQuad_character {text : List Char} (h : dottedQuad text = true) {c : Char}
    (hc : c ∈ text) : c = '.' ∨ c.isDigit = true := by
  rw [dottedQuad, Bool.and_eq_true, List.all_eq_true] at h
  rcases mem_of_splitOn hc with hdot | ⟨piece, hpiece, hc⟩
  · exact .inl hdot
  · have hoctet := h.2 piece hpiece
    simp only [octet, Bool.and_eq_true, List.all_eq_true] at hoctet
    exact .inr (hoctet.1.1.1.2 c hc)

end Addresses

section Codec
variable (prep : Stringprep)

def sized (label : List Char) : Option (List Char) :=
  if label ≠ [] ∧ label.length < 64 then some label else none

def aceStart : List Char := ['x', 'n', '-', '-']

def toAscii (label : List Char) : Option (List Char) :=
  if label.all ascii then sized label
  else
    (prep.nameprep label).bind (fun prepared =>
      if prepared.all ascii then sized prepared
      else if aceStart.isPrefixOf prepared then none
      else sized (aceStart ++ prep.punycode prepared))

/-- The full stop, the ideographic one, and the fullwidth and halfwidth forms of these. -/
def isDot (c : Char) : Bool := decide (c ∈ ['.', '。', '．', '｡'])

def encodeLabels (labels : List (List Char)) : Option (List Char) :=
  (labels.mapM (toAscii prep)).map (['.'].intercalate ·)

/-- The codec. An ASCII name is kept, once its labels have been measured. -/
def encode (text : List Char) : Option (List Char) :=
  if text.all ascii then
    let labels := text.splitOn '.'
    if (∀ label ∈ labels.dropLast, label ≠ [] ∧ label.length < 64) ∧
      (labels.getLastD []).length < 64 then some text else none
  else
    let labels := text.splitOnP isDot
    if labels.getLast? = some [] then (encodeLabels prep labels.dropLast).map (· ++ ['.'])
    else encodeLabels prep labels

/-- The label with its characters as `nameprep` reads them. -/
def prepared (label : List Char) : List Char :=
  if label.all ascii then label else (prep.nameprep label).getD label

/-- The name with its signs and characters as the codec reads them. -/
def spelled (text : List Char) : List Char :=
  if text.all ascii then text else ['.'].intercalate ((text.splitOnP isDot).map (prepared prep))

variable {prep}

theorem sized_some {label out : List Char} : sized label = some out ↔
    (label ≠ [] ∧ label.length < 64) ∧ label = out := by
  simp [sized]

/-- The ASCII form of a label: what it is read as where that is ASCII, and else a text in
Punycode. -/
theorem toAscii_some {label out : List Char} (h : toAscii prep label = some out) :
    ((prepared prep label).all ascii = true ∧ out = prepared prep label) ∨
      ((prepared prep label).all ascii = false ∧
        out = aceStart ++ prep.punycode (prepared prep label) ∧
        prep.nameprep label = some (prepared prep label)) := by
  unfold toAscii at h
  split at h
  next hascii =>
    obtain ⟨-, rfl⟩ := sized_some.1 h
    exact .inl ⟨by simp only [prepared, hascii, if_true], by simp only [prepared, hascii, if_true]⟩
  next hascii =>
    obtain ⟨label', hprep, h⟩ := Option.bind_eq_some_iff.1 h
    have hprepared : prepared prep label = label' := by
      simp only [prepared, if_neg hascii, hprep, Option.getD_some]
    rw [hprepared]
    split at h
    next hout =>
      obtain ⟨-, rfl⟩ := sized_some.1 h
      exact .inl ⟨hout, rfl⟩
    next hout =>
      split at h
      next => cases h
      next =>
        obtain ⟨-, rfl⟩ := sized_some.1 h
        exact .inr ⟨Bool.not_eq_true _ ▸ hout, rfl, hprep⟩

theorem toAscii_ascii {label out : List Char} (h : toAscii prep label = some out) :
    ∀ c ∈ out, ascii c = true := by
  rcases toAscii_some h with ⟨hascii, rfl⟩ | ⟨-, rfl, -⟩
  · exact List.all_eq_true.1 hascii
  · intro c hc
    rcases List.mem_append.1 hc with hstart | hc
    · simp only [aceStart, List.mem_cons, List.not_mem_nil, or_false] at hstart
      rcases hstart with rfl | rfl | rfl | rfl <;> decide
    · exact prep.punycode_ascii _ c hc

theorem prepared_lowered (prep : Stringprep) {label : List Char} (h : ∀ c ∈ label, c.isUpper = false) :
    ∀ c ∈ prepared prep label, c.isUpper = false := by
  intro c hc
  unfold prepared at hc
  split at hc
  next => exact h c hc
  next =>
    cases hprep : prep.nameprep label with
    | none =>
      rw [hprep] at hc
      exact h c hc
    | some label' =>
      rw [hprep] at hc
      exact prep.nameprep_lowered label label' hprep c hc

theorem toAscii_lowered {label out : List Char} (h : toAscii prep label = some out)
    (hlabel : ∀ c ∈ label, c.isUpper = false) : ∀ c ∈ out, c.isUpper = false := by
  have hprepared := prepared_lowered prep hlabel
  rcases toAscii_some h with ⟨-, rfl⟩ | ⟨-, rfl, -⟩
  · exact hprepared
  · intro c hc
    rcases List.mem_append.1 hc with hstart | hc
    · simp only [aceStart, List.mem_cons, List.not_mem_nil, or_false] at hstart
      rcases hstart with rfl | rfl | rfl | rfl <;> decide
    · exact prep.punycode_lowered _ hprepared c hc

theorem toAscii_signs {label out : List Char} (h : toAscii prep label = some out) {c : Char}
    (hsign : c ∈ ['/', '@', '[', ']']) (hc : c ∈ label) : c ∈ out := by
  have hascii : ascii c = true := by
    simp only [List.mem_cons, List.not_mem_nil, or_false] at hsign
    rcases hsign with rfl | rfl | rfl | rfl <;> decide
  have hprepared : c ∈ prepared prep label := by
    unfold prepared
    split
    next => exact hc
    next =>
      cases hprep : prep.nameprep label with
      | none => exact hc
      | some label' => exact prep.nameprep_signs label label' hprep c hsign hc
  rcases toAscii_some h with ⟨-, rfl⟩ | ⟨-, rfl, -⟩
  · exact hprepared
  · exact List.mem_append_right _ (prep.punycode_basic _ c hprepared hascii)

theorem mapM_pieces {labels outs : List (List Char)} (h : labels.mapM (toAscii prep) = some outs) :
    List.Forall₂ (fun label out => toAscii prep label = some out) labels outs := by
  induction labels generalizing outs with
  | nil =>
    obtain rfl : [] = outs := Option.some.inj h
    exact .nil
  | cons label labels ih =>
    rw [List.mapM_cons] at h
    obtain ⟨out, hout, h⟩ := Option.bind_eq_some_iff.1 h
    obtain ⟨rest, hrest, h⟩ := Option.bind_eq_some_iff.1 h
    obtain rfl : out :: rest = outs := Option.some.inj h
    exact .cons hout (ih hrest)

/-- A name whose ASCII form has no empty label is kept if it is ASCII, and else goes through the
codec label by label. -/
theorem encode_some {text out : List Char} (h : encode prep text = some out)
    (hlabels : ∀ label ∈ out.splitOn '.', label ≠ []) :
    (text.all ascii = true ∧ out = text) ∨
      (text.all ascii = false ∧ ∃ outs, out = ['.'].intercalate outs ∧
        List.Forall₂ (fun label out => toAscii prep label = some out) (text.splitOnP isDot)
          outs) := by
  unfold encode at h
  split at h
  next hascii =>
    dsimp only at h
    split at h
    next => exact .inl ⟨hascii, (Option.some.inj h).symm⟩
    next => cases h
  next hascii =>
    refine .inr ⟨Bool.not_eq_true _ ▸ hascii, ?_⟩
    dsimp only at h
    split at h
    next =>
      -- a dot at the end leaves an empty label
      obtain ⟨start, -, rfl⟩ := Option.map_eq_some_iff.1 h
      refine absurd rfl (hlabels [] ?_)
      rw [List.splitOn_append_cons_self]
      exact List.mem_append_right _ List.mem_cons_self
    next =>
      obtain ⟨outs, houts, rfl⟩ := Option.map_eq_some_iff.1 h
      exact ⟨outs, rfl, mapM_pieces houts⟩

theorem forall₂_right {α β : Type} {R : α → β → Prop} {as : List α} {bs : List β}
    (h : List.Forall₂ R as bs) {b : β} (hb : b ∈ bs) : ∃ a ∈ as, R a b := by
  induction h with
  | nil => cases hb
  | cons hab _ ih =>
    rcases List.mem_cons.1 hb with rfl | hb
    · exact ⟨_, List.mem_cons_self, hab⟩
    · obtain ⟨a, ha, hab⟩ := ih hb
      exact ⟨a, List.mem_cons_of_mem _ ha, hab⟩

theorem mem_of_piece {α : Type} {p : α → Bool} {text piece : List α} {c : α}
    (hpiece : piece ∈ text.splitOnP p) (hc : c ∈ piece) : c ∈ text := by
  induction text generalizing piece with
  | nil =>
    rw [List.splitOnP_nil, List.mem_singleton] at hpiece
    rw [hpiece] at hc
    cases hc
  | cons first text ih =>
    obtain ⟨head, pieces, hpieces⟩ := List.exists_cons_of_ne_nil (text.splitOnP_ne_nil p)
    rw [List.splitOnP_cons_eq_if_modifyHead, hpieces] at hpiece
    rw [hpieces] at ih
    split at hpiece
    · rcases List.mem_cons.1 hpiece with rfl | hpiece
      · cases hc
      · exact List.mem_cons_of_mem first (ih hpiece hc)
    · rcases List.mem_cons.1 hpiece with rfl | hpiece
      · rcases List.mem_cons.1 hc with rfl | hc
        · exact List.mem_cons_self
        · exact List.mem_cons_of_mem first (ih List.mem_cons_self hc)
      · exact List.mem_cons_of_mem first (ih (List.mem_cons_of_mem head hpiece) hc)

theorem prepared_pieces {labels outs : List (List Char)}
    (h : List.Forall₂ (fun label out => toAscii prep label = some out) labels outs)
    (hall : ∀ label ∈ labels, (prepared prep label).all ascii = true) :
    outs = labels.map (prepared prep) := by
  induction h with
  | nil => rfl
  | cons hout _ ih =>
    obtain ⟨hfirst, hrest⟩ := List.forall_mem_cons.1 hall
    rw [List.map_cons, ih hrest]
    rcases toAscii_some hout with ⟨-, rfl⟩ | ⟨hnone, -⟩
    · rfl
    · rw [hfirst] at hnone
      cases hnone

section Encoded
variable {text out : List Char} (h : encode prep text = some out)
  (hlabels : ∀ label ∈ out.splitOn '.', label ≠ [])
include h hlabels

theorem encode_ascii : ∀ c ∈ out, ascii c = true := by
  rcases encode_some h hlabels with ⟨hascii, rfl⟩ | ⟨-, outs, rfl, houts⟩
  · exact List.all_eq_true.1 hascii
  · intro c hc
    rcases mem_intercalate hc with rfl | ⟨piece, hpiece, hc⟩
    · decide
    · obtain ⟨label, -, hlabel⟩ := forall₂_right houts hpiece
      exact toAscii_ascii hlabel c hc

theorem encode_lowered (htext : ∀ c ∈ text, c.isUpper = false) : ∀ c ∈ out, c.isUpper = false := by
  rcases encode_some h hlabels with ⟨-, rfl⟩ | ⟨-, outs, rfl, houts⟩
  · exact htext
  · intro c hc
    rcases mem_intercalate hc with rfl | ⟨piece, hpiece, hc⟩
    · decide
    · obtain ⟨label, hmem, hlabel⟩ := forall₂_right houts hpiece
      exact toAscii_lowered hlabel (fun d hd => htext d (mem_of_piece hmem hd)) c hc

theorem encode_signs {c : Char} (hsign : c ∈ ['/', '@', '[', ']']) (hc : c ∈ text) : c ∈ out := by
  rcases encode_some h hlabels with ⟨-, rfl⟩ | ⟨-, outs, rfl, houts⟩
  · exact hc
  · have hdot : isDot c = false := by
      simp only [List.mem_cons, List.not_mem_nil, or_false] at hsign
      rcases hsign with rfl | rfl | rfl | rfl <;> decide
    obtain ⟨piece, hpiece, hc⟩ := mem_of_splitOnP hc hdot
    obtain ⟨out, hout, hlabel⟩ := forall₂_right houts.flip hpiece
    exact mem_intercalate_of_mem hout (toAscii_signs hlabel hsign hc)

/-- The ASCII form is an address exactly when the name is spelled as one. -/
theorem encode_address : dottedQuad out = dottedQuad (spelled prep text) := by
  rcases encode_some h hlabels with ⟨hascii, rfl⟩ | ⟨hascii, outs, rfl, houts⟩
  · rw [spelled, if_pos hascii]
  rw [spelled, if_neg (by simp [hascii])]
  by_cases hall : ∀ label ∈ text.splitOnP isDot, (prepared prep label).all ascii = true
  · rw [prepared_pieces houts hall]
  · -- a label in Punycode has letters, and what it stands for is not ASCII
    simp only [not_forall, Bool.not_eq_true] at hall
    obtain ⟨label, hlabel, hforeign⟩ := hall
    obtain ⟨out, hout, hascii'⟩ := forall₂_right houts.flip hlabel
    have hx : dottedQuad (['.'].intercalate outs) = false := by
      rw [← Bool.not_eq_true]
      intro hquad
      rcases toAscii_some hascii' with ⟨hnone, -⟩ | ⟨-, rfl, -⟩
      · rw [hforeign] at hnone
        cases hnone
      · have hmem : 'x' ∈ ['.'].intercalate outs :=
          mem_intercalate_of_mem hout (List.mem_append_left _ (by decide))
        rcases dottedQuad_character hquad hmem with heq | hdigit
        · exact absurd heq (by decide)
        · exact absurd hdigit (by decide)
    rw [hx, eq_comm, ← Bool.not_eq_true]
    intro hquad
    obtain ⟨c, hc, hcforeign⟩ := List.all_eq_false.1 hforeign
    have hmem : c ∈ ['.'].intercalate ((text.splitOnP isDot).map (prepared prep)) :=
      mem_intercalate_of_mem (List.mem_map_of_mem hlabel) hc
    rcases dottedQuad_character hquad hmem with rfl | hdigit
    · exact hcforeign (by decide)
    · refine hcforeign (decide_eq_true ?_)
      simp only [Char.isDigit, Bool.and_eq_true, decide_eq_true_eq] at hdigit
      exact Nat.lt_of_le_of_lt hdigit.2 (by decide)

end Encoded

/-- An ASCII name with labels of the right size is its own ASCII form. -/
theorem encode_kept {text : List Char} (hascii : ∀ c ∈ text, ascii c = true)
    (hlabels : ∀ label ∈ text.splitOn '.', label ≠ [] ∧ label.length < 64) :
    encode prep text = some text := by
  have hsizes : (∀ label ∈ (text.splitOn '.').dropLast, label ≠ [] ∧ label.length < 64) ∧
      ((text.splitOn '.').getLastD []).length < 64 := by
    refine ⟨fun label hlabel => hlabels label (List.dropLast_subset _ hlabel), ?_⟩
    have hne : text.splitOn '.' ≠ [] := List.splitOnP_ne_nil _ _
    rw [List.getLastD_eq_getLast?, List.getLast?_eq_some_getLast hne]
    exact (hlabels _ (List.getLast_mem hne)).2
  rw [encode, if_pos (List.all_eq_true.2 hascii)]
  exact if_pos hsizes

end Codec
end RoozDataCloud.HostTexts
