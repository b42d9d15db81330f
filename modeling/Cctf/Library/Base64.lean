import Mathlib.Data.List.Basic

/-!
# Base64 without padding

The URL-safe alphabet of base64, the digits of a byte string in it, and the strict
reader: no padding, no other character, no bit left over at the end.

* `encode`, `decode` — the two directions, over characters.
* `decode_encoded` — reading back what was written.
* `mem_alphabet_of_decode` — only letters of the alphabet are read.
-/

namespace Base64

/-- The URL-safe alphabet. -/
def alphabet : List Char :=
  ['A', 'B', 'C', 'D', 'E', 'F', 'G', 'H', 'I', 'J', 'K', 'L', 'M',
   'N', 'O', 'P', 'Q', 'R', 'S', 'T', 'U', 'V', 'W', 'X', 'Y', 'Z',
   'a', 'b', 'c', 'd', 'e', 'f', 'g', 'h', 'i', 'j', 'k', 'l', 'm',
   'n', 'o', 'p', 'q', 'r', 's', 't', 'u', 'v', 'w', 'x', 'y', 'z',
   '0', '1', '2', '3', '4', '5', '6', '7', '8', '9', '-', '_']

/-- The letter of a sextet. -/
def letter (n : ℕ) : Char := alphabet.getD n 'A'

/-- The sextet of a letter. -/
def value (c : Char) : Option ℕ := alphabet.findIdx? fun a => a.toNat == c.toNat

/-- The sextets of a byte string; the last one is filled up with zero bits. -/
def sextets : List UInt8 → List ℕ
  | [] => []
  | [a] => [a.toNat / 4, a.toNat % 4 * 16]
  | [a, b] => [a.toNat / 4, a.toNat % 4 * 16 + b.toNat / 16, b.toNat % 16 * 4]
  | a :: b :: c :: bytes =>
    a.toNat / 4 :: (a.toNat % 4 * 16 + b.toNat / 16) :: (b.toNat % 16 * 4 + c.toNat / 64) ::
      c.toNat % 64 :: sextets bytes

/-- The bytes of sextets, if their number and the bits left over at the end allow it. -/
def unsextets : List ℕ → Option (List UInt8)
  | [] => some []
  | [_] => none
  | [x, y] => if y % 16 = 0 then some [.ofNat (x * 4 + y / 16)] else none
  | [x, y, z] =>
    if z % 4 = 0 then some [.ofNat (x * 4 + y / 16), .ofNat (y % 16 * 16 + z / 4)] else none
  | x :: y :: z :: w :: rest =>
    (unsextets rest).map fun bytes =>
      .ofNat (x * 4 + y / 16) :: .ofNat (y % 16 * 16 + z / 4) :: .ofNat (z % 4 * 64 + w) :: bytes

/-- Base64, without padding. -/
def encode (bytes : List UInt8) : List Char := (sextets bytes).map letter

/-- Read base64 without padding. -/
def decode (cs : List Char) : Option (List UInt8) := (cs.mapM value).bind unsextets

/-! ## Reading back -/

theorem value_letter : ∀ n < 64, value (letter n) = some n := by decide

theorem sextets_lt (bytes : List UInt8) : ∀ n ∈ sextets bytes, n < 64 := by
  induction bytes using sextets.induct with
  | case1 => simp [sextets]
  | case2 a =>
    have ha := a.toNat_lt
    simp [sextets]
    omega
  | case3 a b =>
    have ha := a.toNat_lt
    have hb := b.toNat_lt
    simp [sextets]
    omega
  | case4 a b c bytes ih =>
    have ha := a.toNat_lt
    have hb := b.toNat_lt
    have hc := c.toNat_lt
    simp only [sextets, List.forall_mem_cons]
    exact ⟨by omega, by omega, by omega, by omega, ih⟩

/-- A byte from two numbers that put it together again. -/
theorem ofNat_eq {n : ℕ} {a : UInt8} (h : n = a.toNat) : UInt8.ofNat n = a := by
  rw [h, UInt8.ofNat_toNat]

theorem unsextets_sextets (bytes : List UInt8) : unsextets (sextets bytes) = some bytes := by
  induction bytes using sextets.induct with
  | case1 => rfl
  | case2 a =>
    rw [sextets, unsextets, if_pos (by omega), ofNat_eq (a := a) (by omega)]
  | case3 a b =>
    have hb := b.toNat_lt
    rw [sextets, unsextets, if_pos (by omega), ofNat_eq (a := a) (by omega),
      ofNat_eq (a := b) (by omega)]
  | case4 a b c bytes ih =>
    have hb := b.toNat_lt
    have hc := c.toNat_lt
    rw [sextets, unsextets, ih, Option.map_some, ofNat_eq (a := a) (by omega),
      ofNat_eq (a := b) (by omega), ofNat_eq (a := c) (by omega)]

theorem mapM_value_letter {ns : List ℕ} (h : ∀ n ∈ ns, n < 64) :
    (ns.map letter).mapM value = some ns := by
  induction ns with
  | nil => rfl
  | cons n ns ih =>
    rw [List.forall_mem_cons] at h
    simp [value_letter n h.1, ih h.2]

/-- What was written is read back. -/
theorem decode_encoded (bytes : List UInt8) : decode (encode bytes) = some bytes := by
  rw [decode, encode, mapM_value_letter (sextets_lt bytes), Option.bind_some, unsextets_sextets]

/-! ## What is read -/

theorem mem_alphabet_of_value {c : Char} {n : ℕ} (h : value c = some n) : c ∈ alphabet := by
  rw [value, List.findIdx?_eq_some_iff_getElem] at h
  obtain ⟨hlt, heq, -⟩ := h
  rw [beq_iff_eq, Char.toNat_inj] at heq
  exact heq ▸ List.getElem_mem hlt

/-- Only letters of the alphabet are read. -/
theorem mem_alphabet_of_decode {cs : List Char} {bytes : List UInt8}
    (h : decode cs = some bytes) : ∀ c ∈ cs, c ∈ alphabet := by
  obtain ⟨ns, hns, -⟩ := Option.bind_eq_some_iff.mp h
  clear h
  induction cs generalizing ns with
  | nil => intro c hc; cases hc
  | cons d cs ih =>
    rw [List.mapM_cons] at hns
    obtain ⟨n, hn, hrest⟩ := Option.bind_eq_some_iff.mp hns
    obtain ⟨ms, hms, -⟩ := Option.bind_eq_some_iff.mp hrest
    exact List.forall_mem_cons.mpr ⟨mem_alphabet_of_value hn, ih ms hms⟩

end Base64
