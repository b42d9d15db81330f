import Cctf.Library.Text
import Mathlib.Logic.Function.Basic

/-!
# Replacing in a text

`Text.replace` goes through a text from the left.  What it makes of a text that is put
together follows from where the pattern can occur: in one of the parts, or across a seam.

* `replaceChars_append` — **two parts with no occurrence across the seam** are replaced apart.
* `marker` — a placeholder, a name in double braces.
* `Piece`, `spell`, `scan` — a text cut in letters and placeholders, and its text when the
  placeholders have values; `exists_hole` — every occurrence of a placeholder is cut out.
* `Foreign` — a value that cannot help to form a placeholder.
* `replaceChars_spell` — **replacing a placeholder gives it a value**, whatever was replaced
  before by foreign values.
-/

namespace Text

/-! ## Two parts -/

section

theorem toList_replace (s pattern new : String) :
    (replace s pattern new).toList = replaceChars pattern.toList new.toList 0 s.toList :=
  String.toList_ofList

variable {pattern new : List Char}

theorem replaceChars_skip (cs ds : List Char) :
    replaceChars pattern new cs.length (cs ++ ds) = replaceChars pattern new 0 ds := by
  induction cs with
  | nil => rfl
  | cons c cs ih => rw [List.length_cons, List.cons_append, replaceChars, ih]

/-- An occurrence at the start is replaced. -/
theorem replaceChars_here (h : pattern ≠ []) (cs : List Char) :
    replaceChars pattern new 0 (pattern ++ cs) = new ++ replaceChars pattern new 0 cs := by
  cases pattern with
  | nil => exact absurd rfl h
  | cons p ps =>
    have hprefix : (p :: ps).isPrefixOf (p :: (ps ++ cs)) = true :=
      List.isPrefixOf_iff_prefix.mpr ⟨cs, rfl⟩
    rw [List.cons_append, replaceChars, if_pos hprefix, List.length_cons, Nat.add_sub_cancel,
      replaceChars_skip]

/-- Where the pattern does not start, a letter is kept. -/
theorem replaceChars_cons {c : Char} {cs : List Char} (h : ¬ pattern <+: c :: cs) :
    replaceChars pattern new 0 (c :: cs) = c :: replaceChars pattern new 0 cs := by
  rw [replaceChars, if_neg fun hprefix => h (List.isPrefixOf_iff_prefix.mp hprefix)]

/-- A part in which the pattern starts nowhere is kept. -/
theorem replaceChars_keep {cs ds : List Char}
    (h : ∀ s t, cs = s ++ t → t ≠ [] → ¬ pattern <+: t ++ ds) :
    replaceChars pattern new 0 (cs ++ ds) = cs ++ replaceChars pattern new 0 ds := by
  induction cs with
  | nil => rfl
  | cons c cs ih =>
    have hhere : ¬ pattern <+: c :: (cs ++ ds) := h [] (c :: cs) rfl (List.cons_ne_nil c cs)
    rw [List.cons_append, replaceChars_cons hhere, ih, List.cons_append]
    intro s t hst ht
    exact h (c :: s) t (by rw [hst, List.cons_append]) ht

/-- The pattern may occur across the seam of two texts. -/
def Straddles (pattern cs ds : List Char) : Prop :=
  ∃ x y, pattern = x ++ y ∧ x ≠ [] ∧ y ≠ [] ∧ x <:+ cs ∧ y <+: ds

theorem Straddles.of_suffix {cs cs' ds : List Char} (hsuffix : cs' <:+ cs)
    (h : Straddles pattern cs' ds) : Straddles pattern cs ds := by
  obtain ⟨x, y, hxy, hx, hy, hxs, hyd⟩ := h
  exact ⟨x, y, hxy, hx, hy, hxs.trans hsuffix, hyd⟩

/-- **Two parts with no occurrence across the seam** are replaced apart. -/
theorem replaceChars_append (hpattern : pattern ≠ []) {cs ds : List Char}
    (h : ¬ Straddles pattern cs ds) :
    replaceChars pattern new 0 (cs ++ ds) =
      replaceChars pattern new 0 cs ++ replaceChars pattern new 0 ds := by
  induction hlength : cs.length using Nat.strong_induction_on generalizing cs with
  | _ n ih =>
    cases cs with
    | nil => rfl
    | cons c cs =>
      by_cases hhere : pattern <+: c :: cs
      · -- an occurrence in the first part
        obtain ⟨rest, hrest⟩ := hhere
        rw [← hrest] at h hlength ⊢
        have hshort : rest.length < n := by
          rw [← hlength, List.length_append]
          have := List.length_pos_iff.mpr hpattern
          omega
        rw [List.append_assoc, replaceChars_here hpattern, replaceChars_here hpattern,
          ih rest.length hshort (fun hs => h (hs.of_suffix (List.suffix_append pattern rest))) rfl,
          List.append_assoc]
      · have hnot : ¬ pattern <+: c :: (cs ++ ds) := by
          intro hprefix
          rw [← List.cons_append] at hprefix
          rcases List.prefix_or_prefix_of_prefix hprefix (List.prefix_append (c :: cs) ds) with
            hin | ⟨y, hy⟩
          · exact hhere hin
          · rw [← hy, List.prefix_append_right_inj] at hprefix
            refine h ⟨c :: cs, y, hy.symm, List.cons_ne_nil c cs, ?_, List.suffix_rfl, hprefix⟩
            rintro rfl
            exact hhere (by rw [← hy, List.append_nil])
        rw [List.cons_append, replaceChars_cons hnot, replaceChars_cons hhere, List.cons_append,
          ih cs.length (by rw [← hlength, List.length_cons]; omega)
            (fun hs => h (hs.of_suffix (List.suffix_cons c cs))) rfl]

/-- A text without the first letter of the pattern is kept. -/
theorem replaceChars_of_not_mem {p : Char} {ps cs : List Char} (h : p ∉ cs) :
    replaceChars (p :: ps) new 0 cs = cs := by
  induction cs with
  | nil => rfl
  | cons c cs ih =>
    rw [List.mem_cons, not_or] at h
    rw [replaceChars_cons, ih h.2]
    exact fun hprefix => h.1 (List.cons_prefix_cons.mp hprefix).1

end

/-! ## Placeholders -/

/-- A placeholder: a name in double braces. -/
def marker (name : List Char) : List Char := '\x7b' :: '\x7b' :: (name ++ ['\x7d', '\x7d'])

/-- There is no brace in a text. -/
def Braceless (cs : List Char) : Prop := '\x7b' ∉ cs ∧ '\x7d' ∉ cs

instance (cs : List Char) : Decidable (Braceless cs) := inferInstanceAs (Decidable (_ ∧ _))

theorem marker_ne_nil (name : List Char) : marker name ≠ [] := List.cons_ne_nil _ _

/-- A placeholder ends where its name does. -/
theorem marker_append_inj {name name' u v : List Char} (h : Braceless name) (h' : Braceless name')
    (heq : marker name ++ u = marker name' ++ v) : name = name' ∧ u = v := by
  have hnames : name ++ '\x7d' :: '\x7d' :: u = name' ++ '\x7d' :: '\x7d' :: v := by
    simpa [marker] using heq
  rcases List.append_eq_append_iff.mp hnames with ⟨mid, hname', hmid⟩ | ⟨mid, hname, hmid⟩
  · cases mid with
    | nil => exact ⟨by simpa using hname'.symm, by simpa using hmid⟩
    | cons d mid =>
      rw [List.cons_append, List.cons.injEq] at hmid
      exact absurd (by rw [hname', hmid.1]; simp) h'.2
  · cases mid with
    | nil => exact ⟨by simpa using hname, by simpa using hmid.symm⟩
    | cons d mid =>
      rw [List.cons_append, List.cons.injEq] at hmid
      exact absurd (by rw [hname, hmid.1]; simp) h.2

/-- **No placeholder starts inside another one.** -/
theorem not_marker_inside {name name' x s u v : List Char} (h : Braceless name)
    (hmarker : marker name = x ++ s) (hx : x ≠ []) (hs : s ≠ []) (heq : s ++ u = marker name' ++ v) :
    False := by
  have hopen : '\x7b' ∉ name ++ ['\x7d', '\x7d'] := by simpa using h.1
  cases x with
  | nil => exact hx rfl
  | cons c x =>
    rw [marker, List.cons_append, List.cons.injEq] at hmarker
    cases x with
    | nil =>
      -- one brace further on: the next letter is not a brace
      rw [List.nil_append] at hmarker
      rw [← hmarker.2, marker, List.cons_append, List.cons_append, List.cons.injEq] at heq
      have hmem : '\x7b' ∈ name ++ ['\x7d', '\x7d'] := by
        cases name with
        | nil => simp at heq
        | cons d name =>
          rw [List.cons_append, List.cons_append, List.cons_append, List.cons.injEq] at heq
          simp [heq.2.1]
      exact hopen hmem
    | cons c' x =>
      rw [List.cons_append, List.cons.injEq] at hmarker
      cases s with
      | nil => exact hs rfl
      | cons d s =>
        rw [marker, List.cons_append, List.cons_append, List.cons.injEq] at heq
        exact hopen (by rw [hmarker.2.2, heq.1]; simp)

/-- Two braces do not close a text with one at its end. -/
theorem not_infix_close {cs : List Char} (h : '\x7d' ∉ cs) :
    ¬ ['\x7d', '\x7d'] <:+: cs ++ ['\x7d'] := by
  intro hinfix
  rcases List.infix_concat_iff.mp hinfix with ⟨s, hs⟩ | hin
  · have hcs : s ++ ['\x7d'] = cs :=
      (List.append_inj' (by rw [List.append_assoc]; exact hs) rfl).1
    exact h (by rw [← hcs]; simp)
  · exact h (hin.subset List.mem_cons_self)

/-- A placeholder that goes on in a second text ends with a brace at its start, or with two. -/
theorem not_straddles_marker {name cs ds : List Char} (hstart : ds.head? ≠ some '\x7d')
    (hclose : ¬ ['\x7d', '\x7d'] <:+: ds) : ¬ Straddles (marker name) cs ds := by
  rintro ⟨x, y, hxy, -, hy, -, hyd⟩
  have hsuffix : y <:+ marker name := ⟨x, hxy.symm⟩
  have hbraces : ['\x7d', '\x7d'] <:+ marker name := ⟨'\x7b' :: '\x7b' :: name, rfl⟩
  rcases List.suffix_or_suffix_of_suffix hsuffix hbraces with hshort | hlong
  · -- at most two braces are left
    obtain ⟨d, y, rfl⟩ := List.exists_cons_of_ne_nil hy
    have hd : d = '\x7d' := by simpa using hshort.subset (List.mem_cons_self (l := y))
    obtain ⟨rest, rfl⟩ := hyd
    exact hstart (by rw [hd]; rfl)
  · exact hclose (hlong.isInfix.trans hyd.isInfix)

/-! ## Texts with placeholders -/

/-- A part of a text: a letter, or the placeholder of a name. -/
inductive Piece where
  | letter (c : Char)
  | hole (name : List Char)
  deriving DecidableEq

/-- The text of some pieces, with a value for every placeholder. -/
def spell (value : List Char → List Char) : List Piece → List Char
  | [] => []
  | .letter c :: rest => c :: spell value rest
  | .hole name :: rest => value name ++ spell value rest

section

variable {value : List Char → List Char}

@[simp] theorem spell_append (as bs : List Piece) :
    spell value (as ++ bs) = spell value as ++ spell value bs := by
  induction as with
  | nil => rfl
  | cons a as ih =>
    cases a with
    | letter c => rw [List.cons_append, spell, ih, spell, List.cons_append]
    | hole name => rw [List.cons_append, spell, ih, spell, List.append_assoc]

/-- The value of a placeholder is in the text. -/
theorem infix_spell {name : List Char} {pieces : List Piece} (h : .hole name ∈ pieces) :
    value name <:+: spell value pieces := by
  obtain ⟨before, after, rfl⟩ := List.append_of_mem h
  exact ⟨spell value before, spell value after, by rw [spell_append, spell, List.append_assoc]⟩

theorem spell_congr {value' : List Char → List Char} {pieces : List Piece}
    (h : ∀ name, .hole name ∈ pieces → value name = value' name) :
    spell value pieces = spell value' pieces := by
  induction pieces with
  | nil => rfl
  | cons piece pieces ih =>
    have hrest := ih fun name hname => h name (List.mem_cons_of_mem piece hname)
    cases piece with
    | letter c => rw [spell, spell, hrest]
    | hole name => rw [spell, spell, hrest, h name List.mem_cons_self]

theorem spell_marker_eq_nil {pieces : List Piece} : spell marker pieces = [] ↔ pieces = [] := by
  cases pieces with
  | nil => exact iff_of_true rfl rfl
  | cons piece pieces =>
    cases piece with
    | letter c => exact iff_of_false (List.cons_ne_nil _ _) (List.cons_ne_nil _ _)
    | hole name => exact iff_of_false (List.cons_ne_nil _ _) (List.cons_ne_nil _ _)

/-- **The values can be read off the text** if their lengths are known. -/
theorem spell_inj {value' : List Char → List Char}
    (hlength : ∀ name, (value name).length = (value' name).length) {pieces : List Piece}
    (heq : spell value pieces = spell value' pieces) {name : List Char}
    (h : .hole name ∈ pieces) : value name = value' name := by
  induction pieces with
  | nil => exact absurd h List.not_mem_nil
  | cons piece pieces ih =>
    cases piece with
    | letter c =>
      rw [spell, spell, List.cons.injEq] at heq
      rcases List.mem_cons.mp h with hletter | hrest
      · cases hletter
      · exact ih heq.2 hrest
    | hole name' =>
      rw [spell, spell] at heq
      obtain ⟨hvalue, hrest⟩ := List.append_inj heq (hlength name')
      rcases List.mem_cons.mp h with hname | hmem
      · rw [Piece.hole.inj hname]
        exact hvalue
      · exact ih hrest hmem

end

section

variable {names : List (List Char)}

/-- Cut a text at the placeholders of some names, from the left; `skip` letters of the last one
are still to be dropped. -/
def scan (names : List (List Char)) : ℕ → List Char → List Piece
  | _, [] => []
  | skip + 1, _ :: cs => scan names skip cs
  | 0, c :: cs =>
    match names.find? fun name => (marker name).isPrefixOf (c :: cs) with
    | some name => .hole name :: scan names ((marker name).length - 1) cs
    | none => .letter c :: scan names 0 cs

/-- Pieces of which no letter starts a placeholder. -/
def Scanned (names : List (List Char)) : List Piece → Prop
  | [] => True
  | .letter c :: rest =>
    (∀ name ∈ names, ¬ marker name <+: c :: spell marker rest) ∧ Scanned names rest
  | .hole name :: rest => name ∈ names ∧ Scanned names rest

theorem Scanned.mem {pieces : List Piece} (h : Scanned names pieces) {name : List Char}
    (hname : .hole name ∈ pieces) : name ∈ names := by
  induction pieces with
  | nil => exact absurd hname List.not_mem_nil
  | cons piece pieces ih =>
    cases piece with
    | letter c =>
      rcases List.mem_cons.mp hname with hletter | hrest
      · cases hletter
      · exact ih h.2 hrest
    | hole name' =>
      rcases List.mem_cons.mp hname with hfirst | hrest
      · rw [Piece.hole.inj hfirst]
        exact h.1
      · exact ih h.2 hrest

/-- A placeholder that is found is the start of the text. -/
theorem of_find_marker {cs name : List Char}
    (h : (names.find? fun name => (marker name).isPrefixOf cs) = some name) :
    name ∈ names ∧ marker name <+: cs := by
  have hprefix : (marker name).isPrefixOf cs = true :=
    List.find?_some (p := fun name => (marker name).isPrefixOf cs) h
  exact ⟨List.mem_of_find?_eq_some h, List.isPrefixOf_iff_prefix.mp hprefix⟩

/-- **The pieces of a text are the text.** -/
theorem spell_scan (names : List (List Char)) (skip : ℕ) (cs : List Char) :
    spell marker (scan names skip cs) = cs.drop skip := by
  induction cs generalizing skip with
  | nil => rw [scan, List.drop_nil]; rfl
  | cons c cs ih =>
    cases skip with
    | succ skip => rw [scan, ih, List.drop_succ_cons]
    | zero =>
      rw [scan, List.drop_zero]
      cases hfind : names.find? fun name => (marker name).isPrefixOf (c :: cs) with
      | none => exact congrArg (c :: ·) (ih 0)
      | some name =>
        have hprefix := List.prefix_iff_eq_append.mp (of_find_marker hfind).2
        refine (congrArg (marker name ++ ·) (ih _)).trans ?_
        rwa [marker, List.length_cons, List.drop_succ_cons] at hprefix

theorem scanned_scan (names : List (List Char)) (skip : ℕ) (cs : List Char) :
    Scanned names (scan names skip cs) := by
  induction cs generalizing skip with
  | nil => rw [scan]; trivial
  | cons c cs ih =>
    cases skip with
    | succ skip => exact ih skip
    | zero =>
      rw [scan]
      cases hfind : names.find? fun name => (marker name).isPrefixOf (c :: cs) with
      | some name => exact ⟨(of_find_marker hfind).1, ih _⟩
      | none =>
        refine ⟨fun name hname hprefix => ?_, ih 0⟩
        rw [spell_scan, List.drop_zero] at hprefix
        exact List.find?_eq_none.mp hfind name hname (List.isPrefixOf_iff_prefix.mpr hprefix)

/-- **Every occurrence of a placeholder is cut out.** -/
theorem exists_hole (hnames : ∀ name ∈ names, Braceless name) {name : List Char}
    (hname : name ∈ names) {pieces : List Piece} (hscanned : Scanned names pieces)
    {a b : List Char} (h : spell marker pieces = a ++ marker name ++ b) :
    ∃ before after, pieces = before ++ .hole name :: after ∧ spell marker before = a ∧
      spell marker after = b := by
  induction pieces generalizing a with
  | nil =>
    have hnil : marker name = [] := by simp_all [spell]
    exact absurd hnil (marker_ne_nil name)
  | cons piece rest ih =>
    cases piece with
    | letter c =>
      cases a with
      | nil => exact absurd ⟨b, h.symm⟩ (hscanned.1 name hname)
      | cons d a =>
        rw [spell, List.cons_append, List.cons_append, List.cons.injEq] at h
        obtain ⟨before, after, rfl, hbefore, hafter⟩ := ih hscanned.2 h.2
        exact ⟨.letter c :: before, after, rfl, by rw [spell, hbefore, h.1], hafter⟩
    | hole name' =>
      have hname' : Braceless name' := hnames name' hscanned.1
      rw [spell, List.append_assoc] at h
      rcases List.append_eq_append_iff.mp h with ⟨a', ha, hrest⟩ | ⟨s, hmarker, hs⟩
      · rw [← List.append_assoc] at hrest
        obtain ⟨before, after, rfl, hbefore, hafter⟩ := ih hscanned.2 hrest
        exact ⟨.hole name' :: before, after, rfl, by rw [spell, hbefore, ha], hafter⟩
      · cases a with
        | nil =>
          rw [List.nil_append] at h
          obtain ⟨rfl, hb⟩ := marker_append_inj hname' (hnames name hname) h
          exact ⟨[], rest, rfl, rfl, hb⟩
        | cons d a =>
          cases s with
          | nil =>
            obtain ⟨before, after, rfl, hbefore, hafter⟩ := ih (a := []) hscanned.2 (by
              rw [List.nil_append, hs, List.nil_append])
            refine ⟨.hole name' :: before, after, rfl, ?_, hafter⟩
            rw [spell, hbefore, hmarker, List.append_nil, List.append_nil]
          | cons e s =>
            exact (not_marker_inside hname' hmarker (List.cons_ne_nil d a)
              (List.cons_ne_nil e s) hs.symm).elim

/-! ## Values -/

/-- **A value that cannot help to form a placeholder**: it has no brace, and is no part of the
name. -/
structure Foreign (name value : List Char) : Prop where
  braceless : Braceless value
  notInfix : ¬ value <:+: name

instance (name value : List Char) : Decidable (Foreign name value) :=
  decidable_of_iff (Braceless value ∧ ¬ value <:+: name) ⟨fun h => ⟨h.1, h.2⟩, fun h => ⟨h.1, h.2⟩⟩

theorem Foreign.ne_nil {name value : List Char} (h : Foreign name value) : value ≠ [] := by
  rintro rfl
  exact h.notInfix (List.nil_infix)

/-- A text without braces in a placeholder is in its name. -/
theorem infix_of_infix_marker {name cs : List Char} (hcs : Braceless cs) (hne : cs ≠ [])
    (h : cs <:+: marker name) : cs <:+: name := by
  obtain ⟨c, rest, rfl⟩ := List.exists_cons_of_ne_nil hne
  have hopen : ∀ ds : List Char, ¬ c :: rest <+: '\x7b' :: ds := fun ds hprefix =>
    hcs.1 (by rw [(List.cons_prefix_cons.mp hprefix).1]; exact List.mem_cons_self)
  have hclose : ∀ ds : List Char, ¬ c :: rest <:+ ds ++ ['\x7d'] := by
    intro ds hsuffix
    obtain ⟨s, hs⟩ := hsuffix
    obtain ⟨init, last, hlast⟩ := List.eq_nil_or_concat (c :: rest) |>.resolve_left hne
    rw [List.concat_eq_append] at hlast
    rw [hlast, ← List.append_assoc] at hs
    exact hcs.2 (by rw [hlast, (List.append_inj' hs rfl).2]; simp)
  rw [marker, List.infix_cons_iff, List.infix_cons_iff] at h
  have hbody := (h.resolve_left (hopen _)).resolve_left (hopen _)
  rw [show name ++ ['\x7d', '\x7d'] = name ++ ['\x7d'] ++ ['\x7d'] by simp,
    List.infix_concat_iff, List.infix_concat_iff] at hbody
  exact (hbody.resolve_left (hclose _)).resolve_left (hclose _)

/-- Placeholders are themselves, or have a value that cannot help to form one of a name. -/
def Harmless (name : List Char) (names : List (List Char)) (value : List Char → List Char) : Prop :=
  ∀ name' ∈ names, value name' = marker name' ∨ Foreign name (value name')

variable {value : List Char → List Char} {name : List Char}

/-- A placeholder ends with a brace. -/
theorem close_mem_of_marker {x q : List Char} (h : marker name = x ++ q) (hq : q ≠ []) :
    '\x7d' ∈ q := by
  have hlast : (marker name).getLast? = some '\x7d' :=
    List.getLast?_append_of_ne_nil ('\x7b' :: '\x7b' :: name) (List.cons_ne_nil '\x7d' ['\x7d'])
  rw [h, List.getLast?_append_of_ne_nil x hq] at hlast
  exact List.mem_of_getLast? hlast

/-- The rest of a placeholder is in the text with values only if it is in the text itself. -/
theorem prefix_spell (hbraceless : Braceless name) (hharmless : Harmless name names value)
    {pieces : List Piece} (hscanned : Scanned names pieces) {x q : List Char}
    (hmarker : marker name = x ++ q) (hx : x ≠ []) (h : q <+: spell value pieces) :
    q <+: spell marker pieces := by
  induction pieces generalizing x q with
  | nil => exact h
  | cons piece rest ih =>
    cases q with
    | nil => exact List.nil_prefix
    | cons d q =>
      cases piece with
      | letter c =>
        rw [spell, List.cons_prefix_cons] at h
        have hnext : marker name = (x ++ [d]) ++ q := by rw [hmarker, List.append_assoc]; rfl
        exact List.cons_prefix_cons.mpr ⟨h.1, ih hscanned.2 hnext (by simp) h.2⟩
      | hole name' =>
        rw [spell] at h
        rcases hharmless name' hscanned.1 with hsame | hforeign
        · rw [hsame] at h
          obtain ⟨u, hu⟩ := h
          exact (not_marker_inside hbraceless hmarker hx (List.cons_ne_nil d q) hu).elim
        · rcases List.prefix_or_prefix_of_prefix h (List.prefix_append (value name') _) with
            hin | hover
          · -- the placeholder ends in the value, with a brace
            have hend := close_mem_of_marker hmarker (List.cons_ne_nil d q)
            exact absurd (hin.subset hend) hforeign.braceless.2
          · have hinfix : value name' <:+: marker name := by
              rw [hmarker]
              exact hover.isInfix.trans (List.suffix_append x (d :: q)).isInfix
            exact absurd (infix_of_infix_marker hforeign.braceless hforeign.ne_nil hinfix)
              hforeign.notInfix

/-- No placeholder of a name begins in what stands for one of another. -/
theorem not_prefix_in_value (hnames : ∀ name ∈ names, Braceless name) (hname : name ∈ names)
    (hharmless : Harmless name names value) {name' : List Char} (hname' : name' ∈ names)
    (hne : name' ≠ name) {s t : List Char} (hst : value name' = s ++ t) (ht : t ≠ [])
    (rest : List Char) : ¬ marker name <+: t ++ rest := by
  rintro ⟨v, hv⟩
  rcases hharmless name' hname' with hsame | hforeign
  · cases s with
    | nil =>
      rw [List.nil_append] at hst
      rw [← hst, hsame] at hv
      exact hne (marker_append_inj (hnames name hname) (hnames name' hname') hv).1.symm
    | cons d s =>
      exact not_marker_inside (hnames name' hname') (hsame ▸ hst) (List.cons_ne_nil d s) ht hv.symm
  · cases t with
    | nil => exact ht rfl
    | cons d t =>
      rw [List.cons_append, marker, List.cons_append, List.cons.injEq] at hv
      exact hforeign.braceless.1 (by rw [hst, ← hv.1]; simp)

/-- **Replacing a placeholder gives it a value**, and leaves everything else. -/
theorem replaceChars_spell (hnames : ∀ name ∈ names, Braceless name) (hname : name ∈ names)
    (hself : value name = marker name) (hharmless : Harmless name names value)
    (new : List Char) {pieces : List Piece} (hscanned : Scanned names pieces) :
    replaceChars (marker name) new 0 (spell value pieces) =
      spell (Function.update value name new) pieces := by
  induction pieces with
  | nil => rfl
  | cons piece rest ih =>
    cases piece with
    | letter c =>
      have hnot : ¬ marker name <+: c :: spell value rest := by
        intro hprefix
        obtain ⟨hc, hrest⟩ := List.cons_prefix_cons.mp hprefix
        refine hscanned.1 name hname (List.cons_prefix_cons.mpr ⟨hc, ?_⟩)
        exact prefix_spell (x := ['\x7b']) (hnames name hname) hharmless hscanned.2 rfl
          (List.cons_ne_nil _ _) hrest
      rw [spell, replaceChars_cons hnot, ih hscanned.2, spell]
    | hole name' =>
      rw [spell, spell]
      by_cases heq : name' = name
      · rw [heq, hself, replaceChars_here (marker_ne_nil name), ih hscanned.2,
          Function.update_self]
      · rw [Function.update_of_ne heq, replaceChars_keep, ih hscanned.2]
        intro s t hst ht
        exact not_prefix_in_value hnames hname hharmless hscanned.1 heq hst ht _

end

end Text
