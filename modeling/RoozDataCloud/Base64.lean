import Mathlib.Data.List.Basic

set_option autoImplicit false

/-!
# Base64 for URLs

The encoding of bytes in the URL-safe alphabet without padding, and its reading.
-/
namespace RoozDataCloud.Base64

/-- The groups of six bits of the bytes. -/
def sextets : List UInt8 → List ℕ
  | a :: b :: c :: rest =>
    a.toNat / 4 :: (a.toNat % 4 * 16 + b.toNat / 16) :: (b.toNat % 16 * 4 + c.toNat / 64) ::
      c.toNat % 64 :: sextets rest
  | [a, b] => [a.toNat / 4, a.toNat % 4 * 16 + b.toNat / 16, b.toNat % 16 * 4]
  | [a] => [a.toNat / 4, a.toNat % 4 * 16]
  | [] => []

def bytes : List ℕ → List UInt8
  | w :: x :: y :: z :: rest =>
    UInt8.ofNat (w * 4 + x / 16) :: UInt8.ofNat (x % 16 * 16 + y / 4) ::
      UInt8.ofNat (y % 4 * 64 + z) :: bytes rest
  | [w, x, y] => [UInt8.ofNat (w * 4 + x / 16), UInt8.ofNat (x % 16 * 16 + y / 4)]
  | [w, x] => [UInt8.ofNat (w * 4 + x / 16)]
  | _ => []

def letter (n : ℕ) : Char :=
  Char.ofNat (if n < 26 then 65 + n else if n < 52 then 71 + n else if n < 62 then n - 4
    else if n = 62 then 45 else 95)

def value (c : Char) : ℕ :=
  if c.toNat = 45 then 62 else if c.toNat = 95 then 63 else if c.toNat < 58 then c.toNat + 4
  else if c.toNat < 91 then c.toNat - 65 else c.toNat - 71

theorem value_letter : ∀ n < 64, value (letter n) = n := by decide

theorem letter_ascii : ∀ n < 64, (letter n).toNat < 128 := by decide

def encode (input : List UInt8) : String := String.ofList ((sextets input).map letter)

def decode (text : String) : List UInt8 := bytes (text.toList.map value)

theorem sextets_lt (input : List UInt8) : ∀ n ∈ sextets input, n < 64 := by
  induction input using sextets.induct with
  | case1 a b c rest ih =>
    have ha := a.toNat_lt
    have hb := b.toNat_lt
    have hc := c.toNat_lt
    simp only [sextets, List.forall_mem_cons]
    exact ⟨by omega, by omega, by omega, by omega, ih⟩
  | case2 a b =>
    have ha := a.toNat_lt
    have hb := b.toNat_lt
    simp only [sextets, List.forall_mem_cons]
    exact ⟨by omega, by omega, by omega, by simp⟩
  | case3 a =>
    have ha := a.toNat_lt
    simp only [sextets, List.forall_mem_cons]
    exact ⟨by omega, by omega, by simp⟩
  | case4 => simp [sextets]

theorem bytes_sextets (input : List UInt8) : bytes (sextets input) = input := by
  have hbyte : ∀ (a : UInt8) (n : ℕ), n = a.toNat → UInt8.ofNat n = a := by
    rintro a n rfl
    exact UInt8.ofNat_toNat
  induction input using sextets.induct with
  | case1 a b c rest ih =>
    have ha := a.toNat_lt
    have hb := b.toNat_lt
    have hc := c.toNat_lt
    simp only [sextets, bytes, ih, List.cons.injEq, and_true]
    exact ⟨hbyte a _ (by omega), hbyte b _ (by omega), hbyte c _ (by omega)⟩
  | case2 a b =>
    have ha := a.toNat_lt
    have hb := b.toNat_lt
    simp only [sextets, bytes, List.cons.injEq, and_true]
    exact ⟨hbyte a _ (by omega), hbyte b _ (by omega)⟩
  | case3 a =>
    have ha := a.toNat_lt
    simp only [sextets, bytes, List.cons.injEq, and_true]
    exact hbyte a _ (by omega)
  | case4 => rfl

theorem decode_encode (input : List UInt8) : decode (encode input) = input := by
  have hvalues : ((sextets input).map letter).map value = sextets input := by
    rw [List.map_map]
    conv_rhs => rw [← List.map_id (sextets input)]
    exact List.map_congr_left (fun n hn => value_letter n (sextets_lt input n hn))
  rw [decode, encode, String.toList_ofList, hvalues, bytes_sextets]

theorem encode_length (input : List UInt8) : 3 * (encode input).length ≤ 4 * input.length + 2 := by
  have hsextets : 3 * (sextets input).length ≤ 4 * input.length + 2 := by
    induction input using sextets.induct with
    | case1 a b c rest ih =>
      simp only [sextets, List.length_cons]
      omega
    | case2 a b => simp [sextets]
    | case3 a => simp [sextets]
    | case4 => simp [sextets]
  simpa [encode] using hsextets

theorem encode_ascii (input : List UInt8) : ∀ c ∈ (encode input).toList, c.toNat < 128 := by
  intro c hc
  rw [encode, String.toList_ofList, List.mem_map] at hc
  obtain ⟨n, hn, rfl⟩ := hc
  exact letter_ascii n (sextets_lt input n hn)

theorem encode_ne_empty {input : List UInt8} (h : input ≠ []) : encode input ≠ "" := by
  intro hempty
  have hdecoded := decode_encode input
  rw [hempty] at hdecoded
  exact h hdecoded.symm

end RoozDataCloud.Base64
