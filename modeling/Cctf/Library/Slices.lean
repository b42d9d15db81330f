import Cctf.Library.Lines
import Cctf.Library.Text

/-!
# Slices of strings

The string operations of Rust that cut a string in pieces, over lists of characters.  A
slice is taken at a byte offset, and one inside a character panics.

* `byteLen`, `splitAtByte` — the length in bytes, and the cut at a byte offset.
* `trimEol`, `trimStart` — line endings dropped at the end, whitespace at the start.
* `splitOnce`, `words`, `lines` — the first occurrence of a pattern, the words, and the
  lines of a text.
* `Boundary`, `Whole` — where a string can be cut, and where a test of the length and then a
  cut do not panic: `splitAtByte_eq_some_iff`, `isSome_splitAtByte`.
* `splitAtByte_append`, `trimEol_append`, `splitInclusive_line`, `splitOnce_skip` — what each
  finds in a text that was put together; `splitOnce_eq_some_iff` — the first occurrence.
-/

namespace Text

/-! ## Operations -/

/-- `str::len`, in bytes. -/
def byteLen (cs : List Char) : ℕ := (cs.map Char.utf8Size).sum

/-- The parts of a string before and after a byte offset; `none` where slicing panics. -/
def splitAtByte : ℕ → List Char → Option (List Char × List Char)
  | 0, cs => some ([], cs)
  | _ + 1, [] => none
  | n + 1, c :: cs =>
    if c.utf8Size ≤ n + 1 then
      (splitAtByte (n + 1 - c.utf8Size) cs).map fun r => (c :: r.1, r.2)
    else none

/-- A carriage return or a line feed. -/
def isEol (c : Char) : Bool := c == '\r' || c == '\n'

/-- `str::trim_end_matches(['\r', '\n'])`. -/
def trimEol (cs : List Char) : List Char := cs.rdropWhile isEol

/-- `str::trim_start`. -/
def trimStart (cs : List Char) : List Char := cs.dropWhile isWhitespace

/-- `str::eq_ignore_ascii_case`. -/
def eqIgnoreAsciiCase (cs ds : List Char) : Bool := cs.map Char.toLower == ds.map Char.toLower

/-- `str::split_whitespace`. -/
def words (cs : List Char) : List (List Char) :=
  (cs.splitOnP isWhitespace).filter fun w => !w.isEmpty

/-- `str::split_once`, for a non-empty pattern: what is before and after its first
occurrence. -/
def splitOnce (pattern : List Char) : List Char → Option (List Char × List Char)
  | [] => none
  | c :: cs =>
    if pattern.isPrefixOf (c :: cs) then some ([], (c :: cs).drop pattern.length)
    else (splitOnce pattern cs).map fun r => (c :: r.1, r.2)

/-- `str::strip_prefix` of a character, or the string itself. -/
def stripPrefix (c : Char) : List Char → List Char
  | [] => []
  | d :: cs => if d = c then cs else d :: cs

/-- `str::strip_suffix` of a character, or the string itself. -/
def stripSuffix (c : Char) (cs : List Char) : List Char :=
  if cs.getLast? = some c then cs.dropLast else cs

/-- `str::split_inclusive('\n')`: the lines with their terminators. -/
def splitInclusive : List Char → List (List Char)
  | [] => []
  | c :: cs =>
    if c = '\n' then [c] :: splitInclusive cs
    else
      match splitInclusive cs with
      | [] => [[c]]
      | line :: rest => (c :: line) :: rest

/-- A line without its terminator, which is LF or CR LF. -/
def chompLine (line : List Char) : List Char :=
  if line.getLast? = some '\n' then stripSuffix '\r' line.dropLast else line

/-- `str::lines`. -/
def lines (cs : List Char) : List (List Char) := (splitInclusive cs).map chompLine

/-- `str::parse::<u16>`, an error being `none`. -/
def parseU16 (cs : List Char) : Option UInt16 :=
  (readNat cs).bind fun n => if n < 2 ^ 16 then some (UInt16.ofNat n) else none

/-- `[T]::join`. -/
def join (sep : List Char) : List (List Char) → List Char
  | [] => []
  | [cs] => cs
  | cs :: rest => cs ++ sep ++ join sep rest

/-! ## Bytes -/

@[simp] theorem byteLen_nil : byteLen [] = 0 := rfl

@[simp] theorem byteLen_cons (c : Char) (cs : List Char) :
    byteLen (c :: cs) = c.utf8Size + byteLen cs := rfl

@[simp] theorem byteLen_append (cs ds : List Char) :
    byteLen (cs ++ ds) = byteLen cs + byteLen ds := by
  simp [byteLen]

theorem byteLen_eq_zero {cs : List Char} : byteLen cs = 0 ↔ cs = [] := by
  cases cs with
  | nil => simp
  | cons c cs =>
    have hpos := c.utf8Size_pos
    rw [byteLen_cons]
    exact iff_of_false (by omega) (List.cons_ne_nil c cs)

theorem length_le_byteLen (cs : List Char) : cs.length ≤ byteLen cs := by
  induction cs with
  | nil => exact le_rfl
  | cons c cs ih =>
    have hpos := c.utf8Size_pos
    rw [List.length_cons, byteLen_cons]
    omega

/-- Bytes are characters in a text of one-byte characters only. -/
theorem byteLen_eq_length_iff {cs : List Char} :
    byteLen cs = cs.length ↔ ∀ c ∈ cs, c.utf8Size = 1 := by
  induction cs with
  | nil => simp
  | cons c cs ih =>
    have hpos := c.utf8Size_pos
    have hle := length_le_byteLen cs
    rw [List.forall_mem_cons, ← ih, List.length_cons, byteLen_cons]
    omega

theorem utf8ByteSize_ofList (cs : List Char) : (String.ofList cs).utf8ByteSize = byteLen cs := by
  induction cs with
  | nil => rfl
  | cons c cs ih =>
    rw [← List.singleton_append, String.ofList_append, String.utf8ByteSize_append, ih,
      byteLen_append]
    exact congrArg (· + byteLen cs) String.utf8ByteSize_singleton

theorem utf8ByteSize_eq (s : String) : s.utf8ByteSize = byteLen s.toList := by
  rw [← utf8ByteSize_ofList, String.ofList_toList]

/-- **A cut between two parts finds them.** -/
theorem splitAtByte_append (cs ds : List Char) :
    splitAtByte (byteLen cs) (cs ++ ds) = some (cs, ds) := by
  induction cs with
  | nil => rw [byteLen_nil, splitAtByte, List.nil_append]
  | cons c cs ih =>
    obtain ⟨n, hn⟩ : ∃ n, byteLen (c :: cs) = n + 1 :=
      Nat.exists_eq_succ_of_ne_zero (by have := c.utf8Size_pos; rw [byteLen_cons]; omega)
    have hle : c.utf8Size ≤ n + 1 := by rw [← hn, byteLen_cons]; omega
    have hrest : n + 1 - c.utf8Size = byteLen cs := by rw [← hn, byteLen_cons]; omega
    rw [hn, List.cons_append, splitAtByte, if_pos hle, hrest, ih]
    rfl

/-- `str::is_char_boundary`: a character starts at a byte offset, or the string ends there. -/
def Boundary (n : ℕ) (cs : List Char) : Prop :=
  ∃ before after, cs = before ++ after ∧ byteLen before = n

/-- The cut is at the offset. -/
theorem splitAtByte_eq_some_iff {n : ℕ} {cs before after : List Char} :
    splitAtByte n cs = some (before, after) ↔ cs = before ++ after ∧ byteLen before = n := by
  constructor
  · intro h
    induction cs generalizing n before after with
    | nil =>
      cases n with
      | zero =>
        obtain ⟨rfl, rfl⟩ : [] = before ∧ [] = after := by simpa [splitAtByte] using h
        exact ⟨rfl, rfl⟩
      | succ n => exact absurd h nofun
    | cons c cs ih =>
      cases n with
      | zero =>
        obtain ⟨rfl, rfl⟩ : [] = before ∧ c :: cs = after := by simpa [splitAtByte] using h
        exact ⟨rfl, rfl⟩
      | succ n =>
        rw [splitAtByte] at h
        split at h
        · rename_i hle
          obtain ⟨⟨before', after'⟩, hcut, hpair⟩ := Option.map_eq_some_iff.1 h
          obtain ⟨rfl, rfl⟩ : c :: before' = before ∧ after' = after := by simpa using hpair
          obtain ⟨rfl, hlen⟩ := ih hcut
          exact ⟨rfl, by rw [byteLen_cons, hlen]; omega⟩
        · exact absurd h nofun
  · rintro ⟨rfl, rfl⟩
    exact splitAtByte_append before after

/-- **A slice panics inside a character, and nowhere else.** -/
theorem isSome_splitAtByte {n : ℕ} {cs : List Char} :
    (splitAtByte n cs).isSome = true ↔ Boundary n cs := by
  constructor
  · intro h
    obtain ⟨⟨before, after⟩, hcut⟩ := Option.isSome_iff_exists.1 h
    exact ⟨before, after, splitAtByte_eq_some_iff.1 hcut⟩
  · rintro ⟨before, after, hcut⟩
    rw [splitAtByte_eq_some_iff.2 hcut]
    rfl

theorem splitAtByte_eq_none_iff {n : ℕ} {cs : List Char} :
    splitAtByte n cs = none ↔ ¬ Boundary n cs := by
  rw [← isSome_splitAtByte, Option.not_isSome_iff_eq_none]

instance decidableBoundary (n : ℕ) (cs : List Char) : Decidable (Boundary n cs) :=
  decidable_of_iff _ isSome_splitAtByte

/-- A string is shorter than an offset, or can be cut there. -/
def Whole (n : ℕ) (cs : List Char) : Prop := byteLen cs < n ∨ Boundary n cs

instance decidableWhole (n : ℕ) (cs : List Char) : Decidable (Whole n cs) :=
  inferInstanceAs (Decidable (_ ∨ _))

theorem Whole.boundary {n : ℕ} {cs : List Char} (h : Whole n cs) (hlen : ¬ byteLen cs < n) :
    Boundary n cs := h.resolve_left hlen

/-! ## Line endings -/

-- The characters of a text are checked one by one, not as all characters that there are.
instance decidableForallMem (p : Char → Prop) [DecidablePred p] (cs : List Char) :
    Decidable (∀ c ∈ cs, p c) :=
  List.decidableBAll p cs

/-- A string without line endings. -/
def Clean (cs : List Char) : Prop := ∀ c ∈ cs, isEol c = false

instance (cs : List Char) : Decidable (Clean cs) := inferInstanceAs (Decidable (∀ c ∈ cs, _))

theorem clean_append {cs ds : List Char} : Clean (cs ++ ds) ↔ Clean cs ∧ Clean ds :=
  List.forall_mem_append

theorem Clean.not_mem {cs : List Char} (h : Clean cs) : '\n' ∉ cs := by
  intro hmem
  exact absurd (h _ hmem) (by decide)

theorem trimEol_of_clean {cs : List Char} (h : Clean cs) : trimEol cs = cs := by
  rw [trimEol, List.rdropWhile_eq_self_iff]
  intro hne
  rw [h _ (List.getLast_mem hne)]
  exact Bool.false_ne_true

/-- Line endings at the end are dropped. -/
theorem trimEol_append_eol (cs : List Char) {ds : List Char} (h : ∀ c ∈ ds, isEol c = true) :
    trimEol (cs ++ ds) = trimEol cs := by
  induction ds using List.reverseRecOn with
  | nil => rw [List.append_nil]
  | append_singleton ds d ih =>
    rw [List.forall_mem_append] at h
    rw [← List.append_assoc, trimEol, List.rdropWhile_concat_pos _ _ _ (h.2 d (by simp))]
    exact ih h.1

/-- **What is before a character that ends no line stays.** -/
theorem trimEol_append (cs : List Char) {c : Char} (h : isEol c = false) (ds : List Char) :
    trimEol (cs ++ c :: ds) = cs ++ c :: trimEol ds := by
  induction ds using List.reverseRecOn with
  | nil =>
    rw [trimEol, List.rdropWhile_concat_neg]
    · rfl
    · rw [h]
      exact Bool.false_ne_true
  | append_singleton ds d ih =>
    rw [← List.cons_append, ← List.append_assoc]
    by_cases hd : isEol d = true
    · rw [trimEol_append_eol _ (by simpa using hd), ih, trimEol_append_eol _ (by simpa using hd)]
    · rw [trimEol, List.rdropWhile_concat_neg _ _ _ hd, trimEol, List.rdropWhile_concat_neg _ _ _ hd]
      simp

/-! ## Pieces -/

theorem splitInclusive_line {line : List Char} (h : '\n' ∉ line) (rest : List Char) :
    splitInclusive (line ++ '\n' :: rest) = (line ++ ['\n']) :: splitInclusive rest := by
  induction line with
  | nil => rw [List.nil_append, splitInclusive, if_pos rfl, List.nil_append]
  | cons c line ih =>
    rw [List.mem_cons, not_or] at h
    rw [List.cons_append, splitInclusive, if_neg (Ne.symm h.1), ih h.2]
    rfl

/-- The first line of a text, which does not end in a carriage return. -/
theorem lines_cons {line : List Char} (h : Clean line) (rest : List Char) :
    lines (line ++ '\n' :: rest) = line :: lines rest := by
  have hlast : line.getLast? ≠ some '\r' := by
    intro hr
    exact absurd (h _ (List.mem_of_getLast? hr)) (by decide)
  rw [lines, splitInclusive_line h.not_mem, List.map_cons, chompLine, List.getLast?_concat,
    if_pos rfl, List.dropLast_concat, stripSuffix, if_neg hlast, lines]

/-- Text without the first character of a pattern is passed over. -/
theorem splitOnce_skip {p : Char} {ps before : List Char} (h : p ∉ before) (rest : List Char) :
    splitOnce (p :: ps) (before ++ rest) =
      (splitOnce (p :: ps) rest).map fun r => (before ++ r.1, r.2) := by
  induction before with
  | nil => simp
  | cons c before ih =>
    rw [List.mem_cons, not_or] at h
    have hno : ¬ (p :: ps).isPrefixOf (c :: (before ++ rest)) = true := by simp [h.1]
    rw [List.cons_append, splitOnce, if_neg hno, ih h.2, Option.map_map]
    rfl

theorem splitOnce_here {p : Char} (ps rest : List Char) :
    splitOnce (p :: ps) (p :: ps ++ rest) = some ([], rest) := by
  have hpre : (p :: ps).isPrefixOf (p :: (ps ++ rest)) = true :=
    List.isPrefixOf_iff_prefix.2 (List.prefix_append (p :: ps) rest)
  rw [List.cons_append, splitOnce, if_pos hpre, ← List.cons_append, List.drop_left]

/-- What is before and after an occurrence that no other one begins before. -/
theorem splitOnce_spec {p : Char} {ps cs before after : List Char}
    (h : splitOnce (p :: ps) cs = some (before, after)) :
    cs = before ++ (p :: ps) ++ after ∧
      ∀ b a, cs = b ++ (p :: ps) ++ a → before.length ≤ b.length := by
  induction cs generalizing before with
  | nil => exact absurd h nofun
  | cons c cs ih =>
    rw [splitOnce] at h
    split at h
    · rename_i hpre
      obtain ⟨rfl, rfl⟩ : [] = before ∧ (c :: cs).drop (p :: ps).length = after := by simpa using h
      obtain ⟨rest, hrest⟩ := List.isPrefixOf_iff_prefix.1 hpre
      refine ⟨?_, fun _ _ _ => Nat.zero_le _⟩
      rw [← hrest, List.drop_left, List.nil_append]
    · rename_i hno
      obtain ⟨⟨before', after'⟩, hcut, hpair⟩ := Option.map_eq_some_iff.1 h
      obtain ⟨rfl, rfl⟩ : c :: before' = before ∧ after' = after := by simpa using hpair
      obtain ⟨rfl, hfirst⟩ := ih hcut
      refine ⟨rfl, fun b a hba => ?_⟩
      cases b with
      | nil =>
        rw [List.nil_append] at hba
        exact absurd (List.isPrefixOf_iff_prefix.2 ⟨a, hba.symm⟩) hno
      | cons d b =>
        rw [List.cons_append, List.cons_append, List.cons.injEq] at hba
        exact Nat.succ_le_succ (hfirst b a hba.2)

theorem splitOnce_eq_none {pattern cs : List Char} (h : ¬ pattern <:+: cs) :
    splitOnce pattern cs = none := by
  induction cs with
  | nil => rfl
  | cons c cs ih =>
    have hno : ¬ pattern.isPrefixOf (c :: cs) = true := by
      rw [List.isPrefixOf_iff_prefix]
      exact fun hpre => h hpre.isInfix
    rw [splitOnce, if_neg hno, ih fun hin => h (hin.trans (List.suffix_cons c cs).isInfix)]
    rfl

theorem splitOnce_eq_none_iff {p : Char} {ps cs : List Char} :
    splitOnce (p :: ps) cs = none ↔ ¬ (p :: ps) <:+: cs := by
  refine ⟨fun h hin => ?_, splitOnce_eq_none⟩
  induction cs with
  | nil => simp at hin
  | cons c cs ih =>
    rw [splitOnce] at h
    split at h
    · exact absurd h nofun
    · rename_i hno
      rcases List.infix_cons_iff.1 hin with hpre | hrest
      · exact hno (List.isPrefixOf_iff_prefix.2 hpre)
      · exact ih (Option.map_eq_none_iff.1 h) hrest

/-- **A text is split at the first occurrence.** -/
theorem splitOnce_eq_some_iff {p : Char} {ps cs before after : List Char} :
    splitOnce (p :: ps) cs = some (before, after) ↔ cs = before ++ (p :: ps) ++ after ∧
      ∀ b a, cs = b ++ (p :: ps) ++ a → before.length ≤ b.length := by
  refine ⟨splitOnce_spec, ?_⟩
  rintro ⟨hcut, hfirst⟩
  cases hsplit : splitOnce (p :: ps) cs with
  | none => exact absurd ⟨before, after, hcut.symm⟩ (splitOnce_eq_none_iff.1 hsplit)
  | some r =>
    obtain ⟨before', after'⟩ := r
    obtain ⟨hcut', hfirst'⟩ := splitOnce_spec hsplit
    have hlength := Nat.le_antisymm (hfirst' _ _ hcut) (hfirst _ _ hcut')
    rw [hcut', List.append_assoc, List.append_assoc] at hcut
    obtain ⟨rfl, hrest⟩ := List.append_inj hcut hlength
    obtain rfl := List.append_cancel_left hrest
    rfl

end Text
