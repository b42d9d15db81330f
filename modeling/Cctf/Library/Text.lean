import Mathlib.Algebra.GroupWithZero.Nat
import Mathlib.Algebra.Ring.Int.Defs
import Mathlib.Data.List.DropRight
import Mathlib.Data.List.Infix

/-!
# Text operations

The string operations programs written in Rust lean on, over characters:
trimming Unicode whitespace, splitting at a character, and reading a decimal
number.

* `trim` — surrounding whitespace removed.
* `splitOn` — the pieces between the occurrences of a character.
* `contains`, `replace` — looking for a pattern, and replacing its occurrences.
* `parseU32`, `parseI64` — an optional sign, at least one ASCII digit, no
  overflow; a `-` for the signed type only.
* `splitOn_eq_three_iff`, `append_cons_inj` — what the separators of a text determine.
* `mem_toString_int`, `toString_int_inj` — the letters of a decimal integer, and its value.
* `parseI64_toString`, `parseI64_bounds` — a decimal integer that fits is read back, and only
  such a one is read.
-/

namespace Text

/-- The characters with the Unicode `White_Space` property. -/
def isWhitespace (c : Char) : Bool :=
  (0x9 ≤ c.val && c.val ≤ 0xD) || c.val == 0x20 || c.val == 0x85 || c.val == 0xA0 ||
    c.val == 0x1680 || (0x2000 ≤ c.val && c.val ≤ 0x200A) || c.val == 0x2028 ||
    c.val == 0x2029 || c.val == 0x202F || c.val == 0x205F || c.val == 0x3000

/-- Drop the whitespace at both ends. -/
def trimChars (cs : List Char) : List Char := (cs.dropWhile isWhitespace).rdropWhile isWhitespace

/-- `str::trim`. -/
def trim (s : String) : String := String.ofList (trimChars s.toList)

/-- `str::split` at one character. -/
def splitOn (sep : Char) (s : String) : List String :=
  (s.toList.splitOn sep).map String.ofList

/-- `str::contains`. -/
def contains (s pattern : String) : Bool := decide (pattern.toList <:+: s.toList)

/-- Replace the occurrences of a non-empty pattern, from the left; `skip` characters of
the last occurrence are still to be dropped. -/
def replaceChars (pattern new : List Char) : ℕ → List Char → List Char
  | _, [] => []
  | skip + 1, _ :: cs => replaceChars pattern new skip cs
  | 0, c :: cs =>
    if pattern.isPrefixOf (c :: cs) then new ++ replaceChars pattern new (pattern.length - 1) cs
    else c :: replaceChars pattern new 0 cs

/-- `str::replace`. -/
def replace (s pattern new : String) : String :=
  String.ofList (replaceChars pattern.toList new.toList 0 s.toList)

/-- The value of a decimal digit. -/
def digit (c : Char) : Option ℕ := if c.isDigit then some (c.toNat - '0'.toNat) else none

/-- Read decimal digits onto an accumulator; `none` at the first other character. -/
def readDigits : ℕ → List Char → Option ℕ
  | acc, [] => some acc
  | acc, c :: cs => (digit c).bind fun d => readDigits (10 * acc + d) cs

/-- A non-empty run of decimal digits, after an optional `+`. -/
def readNat (cs : List Char) : Option ℕ :=
  let ds := if cs.head? = some '+' then cs.tail else cs
  if ds.isEmpty then none else readDigits 0 ds

/-- `str::parse::<u32>`, an error being `none`. -/
def parseU32 (s : String) : Option UInt32 :=
  (readNat s.toList).bind fun n => if n < 2 ^ 32 then some (UInt32.ofNat n) else none

/-- `str::parse::<i64>`, an error being `none`. -/
def parseI64 (s : String) : Option ℤ :=
  match s.toList with
  | '-' :: ds =>
    if ds.isEmpty then none
    else (readDigits 0 ds).bind fun n => if n ≤ 2 ^ 63 then some (-(n : ℤ)) else none
  | cs => (readNat cs).bind fun n => if n < 2 ^ 63 then some (n : ℤ) else none

/-! ## Trimming -/

theorem trimChars_trimChars (cs : List Char) : trimChars (trimChars cs) = trimChars cs := by
  have hstart : ∀ ds : List Char, ds.dropWhile isWhitespace = ds →
      (ds.rdropWhile isWhitespace).dropWhile isWhitespace = ds.rdropWhile isWhitespace := by
    intro ds hds
    cases hend : ds.rdropWhile isWhitespace with
    | nil => rfl
    | cons d rest =>
      obtain ⟨tail, htail⟩ := ds.rdropWhile_prefix isWhitespace
      have hd : isWhitespace d = false := by
        rw [← htail, hend, List.cons_append, List.dropWhile_cons] at hds
        by_contra hspace
        rw [Bool.not_eq_false] at hspace
        rw [if_pos hspace] at hds
        have hlength := (List.dropWhile_suffix isWhitespace (l := rest ++ tail)).length_le
        rw [hds, List.length_cons] at hlength
        omega
      rw [List.dropWhile_cons, if_neg (by simp [hd])]
  rw [trimChars, trimChars, hstart _ (List.dropWhile_idempotent isWhitespace cs),
    List.rdropWhile_idempotent]

@[simp] theorem trim_trim (s : String) : trim (trim s) = trim s := by
  rw [trim, trim, String.toList_ofList, trimChars_trimChars]

/-! ## The pieces of a text -/

theorem not_mem_of_mem_splitOn {sep : Char} {cs piece : List Char} (h : piece ∈ cs.splitOn sep) :
    sep ∉ piece := by
  induction cs generalizing piece with
  | nil =>
    rw [List.splitOn_nil, List.mem_singleton] at h
    simp [h]
  | cons c cs ih =>
    rw [List.splitOn_cons_eq_if_modifyHead] at h
    split at h
    · rcases List.mem_cons.1 h with rfl | hrest
      · simp
      · exact ih hrest
    · rename_i hne
      obtain ⟨first, rest, hsplit⟩ := List.exists_cons_of_ne_nil (List.splitOn_ne_nil sep cs)
      rw [hsplit, List.modifyHead_cons] at h
      rcases List.mem_cons.1 h with rfl | hrest
      · rw [List.mem_cons, not_or]
        exact ⟨fun heq => hne (by simp [heq]), ih (by simp [hsplit])⟩
      · exact ih (by simp [hsplit, hrest])

/-- A text with two separators, cut in three. -/
theorem splitOn_eq_three_iff {sep : Char} {s a b c : String} :
    splitOn sep s = [a, b, c] ↔
      s.toList = a.toList ++ sep :: (b.toList ++ sep :: c.toList) ∧
        sep ∉ a.toList ∧ sep ∉ b.toList ∧ sep ∉ c.toList := by
  have hjoin : [sep].intercalate [a.toList, b.toList, c.toList] =
      a.toList ++ sep :: (b.toList ++ sep :: c.toList) := by
    simp [List.intercalate, List.intersperse]
  constructor
  · intro h
    have hpieces : s.toList.splitOn sep = [a.toList, b.toList, c.toList] := by
      rw [← List.map_id (s.toList.splitOn sep),
        show [a.toList, b.toList, c.toList] = (splitOn sep s).map String.toList by rw [h]; rfl,
        splitOn, List.map_map]
      exact List.map_congr_left fun piece _ => (String.toList_ofList (l := piece)).symm
    have hnot : ∀ piece ∈ [a.toList, b.toList, c.toList], sep ∉ piece := fun piece hpiece =>
      not_mem_of_mem_splitOn (hpieces ▸ hpiece)
    refine ⟨?_, hnot _ (by simp), hnot _ (by simp), hnot _ (by simp)⟩
    rw [← hjoin, ← hpieces, List.intercalate_splitOn]
  · rintro ⟨hs, ha, hb, hc⟩
    rw [splitOn, hs, ← hjoin, List.splitOn_intercalate sep ?_ (by simp)]
    · simp
    · simp [ha, hb, hc]

/-- Where the separator of two texts is in neither second half, the halves are equal. -/
theorem append_cons_inj {sep : Char} {a b a' b' : List Char} (hb : sep ∉ b) (hb' : sep ∉ b')
    (h : a ++ sep :: b = a' ++ sep :: b') : a = a' ∧ b = b' := by
  rcases List.append_eq_append_iff.mp h with ⟨mid, ha', hmid⟩ | ⟨mid, ha, hmid⟩
  · cases mid with
    | nil =>
      rw [List.nil_append, List.cons.injEq] at hmid
      exact ⟨by simpa using ha'.symm, hmid.2⟩
    | cons d mid =>
      rw [List.cons_append, List.cons.injEq] at hmid
      exact absurd (by simp [hmid.2]) hb
  · cases mid with
    | nil =>
      rw [List.nil_append, List.cons.injEq] at hmid
      exact ⟨by simpa using ha, hmid.2.symm⟩
    | cons d mid =>
      rw [List.cons_append, List.cons.injEq] at hmid
      exact absurd (by simp [hmid.2]) hb'

/-- Three texts put together with separators, and cut in three again, are the same three when
the last one has no separator. -/
theorem eq_of_splitOn_eq_three {sep : Char} {s x y z a b c : String}
    (hs : s.toList = x.toList ++ sep :: (y.toList ++ sep :: z.toList)) (hz : sep ∉ z.toList)
    (h : splitOn sep s = [a, b, c]) : a = x ∧ b = y ∧ c = z := by
  obtain ⟨hcut, ha, hb, hc⟩ := splitOn_eq_three_iff.1 h
  have hlast : (a.toList ++ sep :: b.toList) ++ sep :: c.toList =
      (x.toList ++ sep :: y.toList) ++ sep :: z.toList := by
    rw [List.append_assoc, List.append_assoc, List.cons_append, List.cons_append, ← hcut, hs]
  obtain ⟨hfirst, hclast⟩ := append_cons_inj hc hz hlast
  -- one separator on the left, so there is no other one on the right
  have hcount := congrArg (List.count sep) hfirst
  rw [List.count_append, List.count_cons_self, List.count_append, List.count_cons_self,
    List.count_eq_zero.2 ha, List.count_eq_zero.2 hb] at hcount
  have hy : sep ∉ y.toList := List.count_eq_zero.1 (by omega)
  obtain ⟨hax, hby⟩ := append_cons_inj hb hy hfirst
  exact ⟨String.toList_injective hax, String.toList_injective hby, String.toList_injective hclast⟩

/-! ## Decimal numbers -/

theorem isDigit_of_mem_repr {n : ℕ} {c : Char} (h : c ∈ n.repr.toList) : c.isDigit = true :=
  Nat.isDigit_of_mem_toDigits (by decide) (by decide) (Nat.toList_repr ▸ h)

/-- The number that decimal digits are for. -/
theorem repr_inj {m n : ℕ} (h : m.repr.toList = n.repr.toList) : m = n := by
  have hdigits : Nat.toDigits 10 m = Nat.toDigits 10 n := by
    rw [← Nat.toList_repr, ← Nat.toList_repr, h]
  calc
    m = Nat.ofDigitChars 10 (Nat.toDigits 10 m) 0 := Nat.ofDigitChars_ten_toDigits.symm
    _ = Nat.ofDigitChars 10 (Nat.toDigits 10 n) 0 := by rw [hdigits]
    _ = n := Nat.ofDigitChars_ten_toDigits

theorem toList_toString_negSucc (n : ℕ) :
    (toString (Int.negSucc n)).toList = '-' :: (n + 1).repr.toList := by
  rw [show toString (Int.negSucc n) = "-" ++ (n + 1).repr from rfl, String.toList_append]
  rfl

/-- A decimal integer has digits, and a sign at most. -/
theorem mem_toString_int {n : ℤ} {c : Char} (h : c ∈ (toString n).toList) :
    c.isDigit = true ∨ c = '-' := by
  cases n with
  | ofNat n => exact .inl (isDigit_of_mem_repr h)
  | negSucc n =>
    rw [toList_toString_negSucc] at h
    rcases List.mem_cons.mp h with rfl | hdigit
    · exact .inr rfl
    · exact .inl (isDigit_of_mem_repr hdigit)

/-- The integer that a decimal integer is for. -/
theorem toString_int_inj {m n : ℤ} (h : (toString m).toList = (toString n).toList) : m = n := by
  have hsign : ∀ a b : ℕ, a.repr.toList ≠ '-' :: b.repr.toList := by
    intro a b heq
    have hdigit : '-'.isDigit = true := isDigit_of_mem_repr (n := a) (heq ▸ List.mem_cons_self ..)
    exact absurd hdigit (by decide)
  cases m with
  | ofNat m =>
    cases n with
    | ofNat n => exact congrArg Int.ofNat (repr_inj h)
    | negSucc n =>
      rw [toList_toString_negSucc] at h
      exact absurd h (hsign m (n + 1))
  | negSucc m =>
    cases n with
    | ofNat n =>
      rw [toList_toString_negSucc] at h
      exact absurd h.symm (hsign n (m + 1))
    | negSucc n =>
      rw [toList_toString_negSucc, toList_toString_negSucc, List.cons.injEq] at h
      exact congrArg Int.negSucc (Nat.succ.inj (repr_inj h.2))

/-! ## Reading a number back -/

theorem readDigits_eq {cs : List Char} (h : ∀ c ∈ cs, c.isDigit = true) (acc : ℕ) :
    readDigits acc cs = some (Nat.ofDigitChars 10 cs acc) := by
  induction cs generalizing acc with
  | nil => rw [readDigits, Nat.ofDigitChars_nil]
  | cons c cs ih =>
    rw [readDigits, digit, if_pos (h c List.mem_cons_self), Option.bind_some,
      ih (fun d hd => h d (List.mem_cons_of_mem c hd)), Nat.ofDigitChars_cons]

theorem readDigits_repr (n : ℕ) : readDigits 0 n.repr.toList = some n := by
  rw [readDigits_eq fun _ => isDigit_of_mem_repr, Nat.toList_repr, Nat.ofDigitChars_ten_toDigits]

/-- A decimal number starts with a digit. -/
theorem exists_repr_cons (n : ℕ) : ∃ d ds, n.repr.toList = d :: ds ∧ d.isDigit = true := by
  cases hdigits : n.repr.toList with
  | nil => exact absurd (Nat.toList_repr ▸ hdigits) Nat.toDigits_ne_nil
  | cons d ds => exact ⟨d, ds, rfl, isDigit_of_mem_repr (hdigits ▸ List.mem_cons_self : d ∈ n.repr.toList)⟩

theorem readNat_repr (n : ℕ) : readNat n.repr.toList = some n := by
  have hread := readDigits_repr n
  obtain ⟨d, ds, hdigits, hd⟩ := exists_repr_cons n
  have hplus : d ≠ '+' := by
    rintro rfl
    exact absurd hd (by decide)
  rw [hdigits] at hread ⊢
  simp [readNat, hplus, hread]

/-- **A number that fits is read back.** -/
theorem parseI64_toString {n : ℤ} (hlow : -2 ^ 63 ≤ n) (hhigh : n < 2 ^ 63) :
    parseI64 (toString n) = some n := by
  cases n with
  | ofNat n =>
    have hread := readNat_repr n
    obtain ⟨d, ds, hdigits, hd⟩ := exists_repr_cons n
    have hminus : d ≠ '-' := by
      rintro rfl
      exact absurd hd (by decide)
    have hlt : n < 2 ^ 63 := by
      have : (n : ℤ) < 2 ^ 63 := hhigh
      omega
    rw [parseI64, show (toString (Int.ofNat n)).toList = n.repr.toList from rfl]
    rw [hdigits] at hread ⊢
    split
    · rename_i heq
      exact absurd (List.cons.inj heq).1 hminus
    · rw [hread, Option.bind_some, if_pos hlt]
      rfl
  | negSucc n =>
    have hle : n + 1 ≤ 2 ^ 63 := by omega
    obtain ⟨d, ds, hdigits, -⟩ := exists_repr_cons (n + 1)
    have hnonempty : (n + 1).repr.toList.isEmpty = false := by rw [hdigits]; rfl
    rw [parseI64, toList_toString_negSucc]
    simp only [hnonempty, Bool.false_eq_true, if_false]
    rw [readDigits_repr, Option.bind_some, if_pos hle, Int.negSucc_eq]
    simp

/-- A number that is read fits. -/
theorem parseI64_bounds {s : String} {n : ℤ} (h : parseI64 s = some n) :
    -2 ^ 63 ≤ n ∧ n < 2 ^ 63 := by
  rw [parseI64] at h
  split at h
  · split_ifs at h
    obtain ⟨m, -, hm⟩ := Option.bind_eq_some_iff.mp h
    split_ifs at hm with hle
    obtain rfl := Option.some.inj hm
    omega
  · obtain ⟨m, -, hm⟩ := Option.bind_eq_some_iff.mp h
    split_ifs at hm with hlt
    obtain rfl := Option.some.inj hm
    omega

end Text
