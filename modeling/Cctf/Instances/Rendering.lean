import Cctf.Library.Replacing
import Cctf.Library.Slices
import Cctf.Services.Instancer

/-!
# The flag of an instance

A template says with placeholders where the random part of a flag goes, and the id of the
challenge.  Without a placeholder for the random part it goes before the last brace, or at the
end.

* `describedFlag` — the flag that a template describes, all placeholders at once.
* `toList_render_placeholders`, `toList_render_brace`, `toList_render_end` — what
  `renderInstancedFlag` makes of a template, by its three branches.
* `Clear` — the template does not end in the placeholder of the challenge, nor in an empty pair
  of braces after a character of several bytes.
* `describedFlag_eq_iff` — **the flag is the one described exactly if there is a placeholder for
  the random part or the template is clear**.
-/

namespace Cctf

open Text

namespace FlagTemplate

/-! ## What a template describes -/

/-- The names of the placeholders. -/
def random : List Char := "random".toList

def uuid : List Char := "uuid".toList

def challenge : List Char := "challenge".toList

/-- The placeholders of a template. -/
def names : List (List Char) := [random, uuid, challenge]

/-- What the placeholders stand for. -/
def value (challengeId randomPart name : List Char) : List Char :=
  if name = challenge then challengeId
  else if name = random ∨ name = uuid then randomPart
  else marker name

/-- The parts of a template. -/
def pieces (template : String) : List Piece := scan names 0 template.toList

/-- Does a template say where the random part goes? -/
def Placed (template : String) : Prop :=
  marker random <:+: template.toList ∨ marker uuid <:+: template.toList

/-- Does a template end in an empty pair of braces? -/
def EndsEmpty (template : String) : Prop := ['\x7b', '\x7d'] <:+ template.toList

instance (template : String) : Decidable (Placed template) := inferInstanceAs (Decidable (_ ∨ _))

instance (template : String) : Decidable (EndsEmpty template) :=
  inferInstanceAs (Decidable (_ <:+ _))

end FlagTemplate

open FlagTemplate in
/-- **The flag that a template describes.**  `none` if the random part is to go before a brace
that is the last one of a placeholder, which is not there any more when it has a value. -/
def describedFlag (template challengeId randomPart : String) : Option String :=
  let text := spell (value challengeId.toList randomPart.toList)
  if Placed template then some (String.ofList (text (pieces template)))
  else if template.toList.getLast? = some '\x7d' ∧ 1 < template.toList.length then
    if (pieces template).getLast? = some (.letter '\x7d') then
      some (String.ofList (text (pieces template).dropLast ++
        (if EndsEmpty template then [] else ['_']) ++ randomPart.toList ++ ['\x7d']))
    else none
  else some (String.ofList (text (pieces template) ++ randomPart.toList))

/-- The template does not end in the placeholder of the challenge, nor in an empty pair of braces
after a character of several bytes. -/
structure FlagTemplate.Clear (template : String) : Prop where
  noChallenge : ¬ marker challenge <:+ template.toList
  oneByte : EndsEmpty template → ∀ c ∈ template.toList, c.utf8Size = 1

/-- A random part that cannot help to form a placeholder. -/
structure FlagTemplate.Inert (randomPart : String) : Prop where
  forUuid : Foreign uuid randomPart.toList
  forChallenge : Foreign challenge randomPart.toList

namespace FlagTemplate

/-! ## Placeholders of a template -/

section

variable {template : String}

theorem braceless_names : ∀ name ∈ names, Braceless name := by decide

theorem spell_pieces (template : String) : spell marker (pieces template) = template.toList :=
  spell_scan names 0 template.toList

theorem scanned_pieces (template : String) : Scanned names (pieces template) :=
  scanned_scan names 0 template.toList

/-- A placeholder that was cut out is in the template. -/
theorem infix_of_mem_pieces {name : List Char} (h : .hole name ∈ pieces template) :
    marker name <:+: template.toList := by
  rw [← spell_pieces template]
  exact infix_spell h

/-- Without a placeholder for the random part, only the challenge has one. -/
theorem eq_challenge_of_mem_pieces (hplaced : ¬ Placed template) {name : List Char}
    (h : .hole name ∈ pieces template) : name = challenge := by
  have hin := infix_of_mem_pieces h
  rcases List.mem_cons.mp ((scanned_pieces template).mem h) with rfl | hrest
  · exact absurd (.inl hin) hplaced
  · rcases List.mem_cons.mp hrest with rfl | hlast
    · exact absurd (.inr hin) hplaced
    · exact List.mem_singleton.mp hlast

/-- The last part is a letter unless the template ends in the placeholder of the challenge. -/
theorem getLast_pieces (hplaced : ¬ Placed template) (hend : template.toList.getLast? = some '\x7d') :
    (pieces template).getLast? = some (.letter '\x7d') ↔
      ¬ marker challenge <:+ template.toList := by
  constructor
  · rintro hletter ⟨a, ha⟩
    have hspell : spell marker (pieces template) = a ++ marker challenge ++ [] := by
      rw [spell_pieces, ← ha, List.append_nil]
    obtain ⟨before, after, hpieces, -, hafter⟩ :=
      exists_hole braceless_names (by decide) (scanned_pieces template) hspell
    rw [hpieces, spell_marker_eq_nil.mp hafter, List.getLast?_append_of_ne_nil before
      (List.cons_ne_nil _ _)] at hletter
    cases hletter
  · intro hnot
    obtain hnil | ⟨init, piece, hpieces⟩ := List.eq_nil_or_concat (pieces template)
    · have hempty := spell_pieces template
      rw [hnil, spell] at hempty
      rw [← hempty] at hend
      cases hend
    · rw [List.concat_eq_append] at hpieces
      have hspell := spell_pieces template
      rw [hpieces, spell_append] at hspell
      cases piece with
      | letter c =>
        rw [spell, spell] at hspell
        rw [← hspell, List.getLast?_concat] at hend
        rw [hpieces, List.getLast?_concat, Option.some.inj hend]
      | hole name =>
        have hmem : .hole name ∈ pieces template := by rw [hpieces]; simp
        obtain rfl := eq_challenge_of_mem_pieces hplaced hmem
        rw [spell, spell, List.append_nil] at hspell
        exact absurd ⟨_, hspell⟩ hnot

/-! ## What is rendered -/

variable {challengeId randomPart : String}

theorem contains_or_eq (template : String) :
    (Text.contains template "\x7b\x7brandom\x7d\x7d" ||
      Text.contains template "\x7b\x7buuid\x7d\x7d") = decide (Placed template) := by
  rw [Text.contains, Text.contains, ← Bool.decide_or]
  rfl

/-- With all placeholders replaced one after the other. -/
theorem update_eq_value (challengeId randomPart : List Char) :
    Function.update (Function.update (Function.update marker random randomPart) uuid randomPart)
      challenge challengeId = value challengeId randomPart := by
  funext name
  simp only [Function.update_apply, value]
  split_ifs <;> simp_all

theorem Inert.harmless (h : Inert randomPart) :
    Harmless challenge names
      (Function.update (Function.update marker random randomPart.toList) uuid randomPart.toList) := by
  intro name hname
  by_cases huuid : name = uuid
  · exact .inr (by rw [huuid, Function.update_self]; exact h.forChallenge)
  · rw [Function.update_of_ne huuid]
    by_cases hrandom : name = random
    · exact .inr (by rw [hrandom, Function.update_self]; exact h.forChallenge)
    · exact .inl (Function.update_of_ne hrandom _ _)

theorem Inert.harmless_uuid (h : Inert randomPart) :
    Harmless uuid names (Function.update marker random randomPart.toList) := by
  intro name hname
  by_cases hrandom : name = random
  · exact .inr (by rw [hrandom, Function.update_self]; exact h.forUuid)
  · exact .inl (Function.update_of_ne hrandom _ _)

/-- **With a placeholder for the random part**, every placeholder gets its value. -/
theorem toList_render_placeholders (hplaced : Placed template) (hinert : Inert randomPart) :
    (renderInstancedFlag template challengeId randomPart).toList =
      spell (value challengeId.toList randomPart.toList) (pieces template) := by
  have hscanned := scanned_pieces template
  have hrandom : replaceChars (marker random) randomPart.toList 0 template.toList =
      spell (Function.update marker random randomPart.toList) (pieces template) := by
    rw [← spell_pieces template]
    exact replaceChars_spell braceless_names (by decide) rfl (fun _ _ => .inl rfl) _ hscanned
  have huuid : replaceChars (marker uuid) randomPart.toList 0
      (spell (Function.update marker random randomPart.toList) (pieces template)) =
      spell (Function.update (Function.update marker random randomPart.toList) uuid
        randomPart.toList) (pieces template) :=
    replaceChars_spell braceless_names (by decide) (Function.update_of_ne (by decide) _ _)
      hinert.harmless_uuid _ hscanned
  have hchallenge : replaceChars (marker challenge) challengeId.toList 0
      (spell (Function.update (Function.update marker random randomPart.toList) uuid
        randomPart.toList) (pieces template)) =
      spell (value challengeId.toList randomPart.toList) (pieces template) := by
    rw [← update_eq_value]
    refine replaceChars_spell braceless_names (by decide) ?_ hinert.harmless _ hscanned
    rw [Function.update_of_ne (by decide), Function.update_of_ne (by decide)]
  rw [renderInstancedFlag, contains_or_eq, if_pos (decide_eq_true hplaced), toList_replace,
    toList_replace, toList_replace, ← hchallenge, ← huuid, ← hrandom]
  rfl

/-- The template with the id of the challenge in it. -/
def expanded (template challengeId : String) : List Char :=
  replaceChars (marker challenge) challengeId.toList 0 template.toList

/-- Without a placeholder for the random part, this is what the template describes of the rest. -/
theorem expanded_eq_spell (hplaced : ¬ Placed template) (challengeId randomPart : String) :
    expanded template challengeId =
      spell (value challengeId.toList randomPart.toList) (pieces template) := by
  have hchallenge : expanded template challengeId =
      spell (Function.update marker challenge challengeId.toList) (pieces template) := by
    rw [expanded, ← spell_pieces template]
    exact replaceChars_spell braceless_names (by decide) rfl (fun _ _ => .inl rfl) _
      (scanned_pieces template)
  refine hchallenge.trans (spell_congr fun name hname => ?_)
  rw [eq_challenge_of_mem_pieces hplaced hname, Function.update_self, value, if_pos rfl]

/-- A random part does not end a placeholder that begins before it. -/
theorem not_straddles_randomPart (hinert : Braceless randomPart.toList) (cs : List Char) :
    ¬ Straddles (marker challenge) cs randomPart.toList := by
  refine not_straddles_marker (fun hhead => ?_) fun hin => ?_
  · exact hinert.2 (List.mem_of_head? hhead)
  · exact hinert.2 (hin.subset List.mem_cons_self)

/-- **Without a placeholder or a last brace**, the random part comes at the end. -/
theorem toList_render_end (hplaced : ¬ Placed template)
    (hend : ¬ (template.toList.getLast? = some '\x7d' ∧ 1 < template.utf8ByteSize))
    (hinert : Braceless randomPart.toList) :
    (renderInstancedFlag template challengeId randomPart).toList =
      expanded template challengeId ++ randomPart.toList := by
  have hkept : replaceChars (marker challenge) challengeId.toList 0 randomPart.toList =
      randomPart.toList := replaceChars_of_not_mem hinert.1
  rw [renderInstancedFlag, contains_or_eq, if_neg (by simpa using hplaced), if_neg hend,
    toList_replace, String.toList_append]
  refine (replaceChars_append (marker_ne_nil challenge)
    (not_straddles_randomPart hinert template.toList)).trans ?_
  rw [hkept, expanded]

/-- What the code puts between the template and the random part. -/
def separator (template : String) : List Char :=
  if template.toList[template.utf8ByteSize - 2]? = some '\x7b' then [] else ['_']

theorem braceless_separator (template : String) : Braceless (separator template) := by
  rw [separator]
  split_ifs <;> decide

/-- The template up to its last letter, with the id of the challenge in it. -/
def expandedBody (template challengeId : String) : List Char :=
  replaceChars (marker challenge) challengeId.toList 0 template.toList.dropLast

/-- **Without a placeholder, before a last brace.** -/
theorem toList_render_brace (hplaced : ¬ Placed template)
    (hend : template.toList.getLast? = some '\x7d' ∧ 1 < template.utf8ByteSize)
    (hinert : Braceless randomPart.toList) (hne : randomPart.toList ≠ []) :
    (renderInstancedFlag template challengeId randomPart).toList =
      expandedBody template challengeId ++ (separator template ++ randomPart.toList ++ ['\x7d']) := by
  have hseparator := braceless_separator template
  -- the random part keeps the last brace from closing a placeholder
  have hseam : ¬ Straddles (marker challenge) template.toList.dropLast
      (separator template ++ randomPart.toList ++ ['\x7d']) := by
    refine not_straddles_marker (fun hhead => ?_) (not_infix_close ?_)
    · obtain ⟨c, cs, hcs⟩ := List.exists_cons_of_ne_nil hne
      have hmem : '\x7d' ∈ separator template ++ randomPart.toList := by
        rw [List.head?_append_of_ne_nil _ (by simp [hcs])] at hhead
        exact List.mem_of_head? hhead
      rcases List.mem_append.mp hmem with hs | hr
      · exact hseparator.2 hs
      · exact hinert.2 hr
    · simp [hseparator.2, hinert.2]
  have hkept : replaceChars (marker challenge) challengeId.toList 0
      (separator template ++ randomPart.toList ++ ['\x7d']) =
      separator template ++ randomPart.toList ++ ['\x7d'] :=
    replaceChars_of_not_mem (by simp [hseparator.1, hinert.1])
  have hrendered : (if template.toList[template.utf8ByteSize - 2]? = some '\x7b' then
        String.ofList template.toList.dropLast ++ randomPart ++ "\x7d"
      else String.ofList template.toList.dropLast ++ "_" ++ randomPart ++ "\x7d").toList =
      template.toList.dropLast ++ (separator template ++ randomPart.toList ++ ['\x7d']) := by
    rw [separator]
    split_ifs
    · simp
    · simp
  rw [renderInstancedFlag, contains_or_eq, if_neg (by simpa using hplaced), if_pos hend,
    toList_replace]
  refine (congrArg (replaceChars (marker challenge) challengeId.toList 0) hrendered).trans ?_
  rw [replaceChars_append (marker_ne_nil challenge) hseam, hkept, expandedBody]

/-! ## The last brace -/

/-- A template that ends in a brace. -/
theorem dropLast_append (hend : template.toList.getLast? = some '\x7d') :
    template.toList.dropLast ++ ['\x7d'] = template.toList :=
  List.dropLast_append_getLast? '\x7d' hend

/-- A template that ends in a longer text with a last brace. -/
theorem brace_of_suffix {ending : List Char} (hlast : ending.getLast? = some '\x7d')
    (hlong : 1 < ending.length) (h : ending <:+ template.toList) :
    template.toList.getLast? = some '\x7d' ∧ 1 < template.toList.length := by
  refine ⟨?_, hlong.trans_le h.length_le⟩
  obtain ⟨init, hinit⟩ := h
  rw [← hinit, List.getLast?_append_of_ne_nil init (List.ne_nil_of_length_pos (by omega)), hlast]

theorem endsEmpty_iff (hend : template.toList.getLast? = some '\x7d') :
    EndsEmpty template ↔ template.toList.dropLast.getLast? = some '\x7b' := by
  rw [EndsEmpty, ← dropLast_append hend, List.dropLast_concat]
  constructor
  · rintro ⟨init, hinit⟩
    have hbody : init ++ ['\x7b'] = template.toList.dropLast :=
      (List.append_inj' (by rw [List.append_assoc]; exact hinit) rfl).1
    rw [← hbody, List.getLast?_concat]
  · intro hlast
    refine ⟨template.toList.dropLast.dropLast, ?_⟩
    rw [← List.dropLast_append_getLast? '\x7b' hlast, List.dropLast_concat, List.append_assoc]
    rfl

/-- More than one letter, or more than one byte. -/
theorem one_lt_iff (hend : template.toList.getLast? = some '\x7d') :
    1 < template.utf8ByteSize ↔ 1 < template.toList.length := by
  have hle := length_le_byteLen template.toList.dropLast
  have hbrace : byteLen ['\x7d'] = 1 := rfl
  rw [utf8ByteSize_eq, ← dropLast_append hend, byteLen_append, List.length_append, hbrace,
    List.length_singleton]
  have hnil : byteLen template.toList.dropLast = 0 ↔ template.toList.dropLast.length = 0 :=
    byteLen_eq_zero.trans List.length_eq_zero_iff.symm
  omega

/-- **The index of a byte is that of the letter** if all letters have one byte; else there is no
opening brace there. -/
theorem separator_eq_iff (hend : template.toList.getLast? = some '\x7d')
    (hlong : 1 < template.toList.length) :
    separator template = (if EndsEmpty template then [] else ['_']) ↔
      (EndsEmpty template → ∀ c ∈ template.toList, c.utf8Size = 1) := by
  have hbody := dropLast_append hend
  have hlength : template.toList.dropLast.length = template.toList.length - 1 :=
    List.length_dropLast
  by_cases hone : ∀ c ∈ template.toList, c.utf8Size = 1
  · -- the letter before the last one
    have hletter : template.toList[template.utf8ByteSize - 2]? =
        template.toList.dropLast.getLast? := by
      rw [utf8ByteSize_eq, byteLen_eq_length_iff.mpr hone, List.getLast?_eq_getElem?, hlength,
        List.getElem?_dropLast, if_pos (by omega)]
      rfl
    refine iff_of_true ?_ fun _ => hone
    rw [separator, hletter]
    exact if_congr (endsEmpty_iff hend).symm rfl rfl
  · have hbytes : template.toList.length < template.utf8ByteSize := by
      have hle := length_le_byteLen template.toList
      have hne := mt byteLen_eq_length_iff.mp hone
      rw [utf8ByteSize_eq]
      omega
    have hletter : template.toList[template.utf8ByteSize - 2]? ≠ some '\x7b' := by
      rw [← hbody, List.getElem?_append_right (by omega)]
      intro hopen
      have hmem := List.mem_of_getElem? hopen
      exact absurd hmem (by decide)
    rw [separator, if_neg hletter]
    by_cases hempty : EndsEmpty template
    · rw [if_pos hempty]
      exact iff_of_false (List.cons_ne_nil _ _) fun h => hone (h hempty)
    · rw [if_neg hempty]
      exact iff_of_true rfl fun h => absurd h hempty

/-- A last brace that is of no placeholder can be put back. -/
theorem expanded_eq_body (hend : template.toList.getLast? = some '\x7d')
    (hnot : ¬ marker challenge <:+ template.toList) (challengeId : String) :
    expanded template challengeId = expandedBody template challengeId ++ ['\x7d'] := by
  have hseam : ¬ Straddles (marker challenge) template.toList.dropLast ['\x7d'] := by
    rintro ⟨x, y, hxy, -, hy, ⟨init, hinit⟩, hyd⟩
    have hbrace : y = ['\x7d'] := by
      obtain ⟨d, y, rfl⟩ := List.exists_cons_of_ne_nil hy
      obtain ⟨rfl, hnil⟩ := List.cons_prefix_cons.mp hyd
      rw [List.prefix_nil.mp hnil]
    exact hnot ⟨init, by rw [hxy, hbrace, ← List.append_assoc, hinit, dropLast_append hend]⟩
  rw [expanded, ← dropLast_append hend, replaceChars_append (marker_ne_nil challenge) hseam,
    expandedBody]
  rfl

/-- The parts of such a template, without the last one. -/
theorem spell_dropLast_pieces (hplaced : ¬ Placed template)
    (hend : template.toList.getLast? = some '\x7d')
    (hnot : ¬ marker challenge <:+ template.toList) (challengeId randomPart : String) :
    spell (value challengeId.toList randomPart.toList) (pieces template).dropLast =
      expandedBody template challengeId := by
  have hlast := (getLast_pieces hplaced hend).mpr hnot
  have hpieces : (pieces template).dropLast ++ [.letter '\x7d'] = pieces template :=
    List.dropLast_append_getLast? _ hlast
  have hall := expanded_eq_spell hplaced challengeId randomPart
  rw [← hpieces, spell_append, expanded_eq_body hend hnot] at hall
  exact (List.append_inj' hall rfl).1.symm

/-! ## The three branches -/

/-- With a placeholder for the random part, the flag is as described. -/
theorem describedFlag_of_placed (hplaced : Placed template) (hinert : Inert randomPart) :
    describedFlag template challengeId randomPart =
      some (renderInstancedFlag template challengeId randomPart) := by
  rw [describedFlag, if_pos hplaced, ← toList_render_placeholders hplaced hinert,
    String.ofList_toList]

/-- Without a last brace, too. -/
theorem describedFlag_of_end (hplaced : ¬ Placed template)
    (hend : ¬ (template.toList.getLast? = some '\x7d' ∧ 1 < template.toList.length))
    (hinert : Inert randomPart) :
    describedFlag template challengeId randomPart =
      some (renderInstancedFlag template challengeId randomPart) := by
  have hbytes : ¬ (template.toList.getLast? = some '\x7d' ∧ 1 < template.utf8ByteSize) :=
    fun h => hend ⟨h.1, (one_lt_iff h.1).mp h.2⟩
  rw [describedFlag, if_neg hplaced, if_neg hend, ← expanded_eq_spell hplaced,
    ← toList_render_end hplaced hbytes hinert.forUuid.braceless, String.ofList_toList]

/-- **Before a last brace, exactly for a clear template.** -/
theorem describedFlag_of_brace (hplaced : ¬ Placed template)
    (hend : template.toList.getLast? = some '\x7d' ∧ 1 < template.toList.length)
    (hinert : Inert randomPart) :
    describedFlag template challengeId randomPart =
      some (renderInstancedFlag template challengeId randomPart) ↔ Clear template := by
  rw [describedFlag, if_neg hplaced, if_pos hend]
  by_cases hsuffix : marker challenge <:+ template.toList
  · rw [if_neg fun h => (getLast_pieces hplaced hend.1).mp h hsuffix]
    exact iff_of_false nofun fun h => h.noChallenge hsuffix
  · have hrender : (renderInstancedFlag template challengeId randomPart).toList =
        expandedBody template challengeId ++
          (separator template ++ randomPart.toList ++ ['\x7d']) :=
      toList_render_brace hplaced ⟨hend.1, (one_lt_iff hend.1).mpr hend.2⟩
        hinert.forUuid.braceless hinert.forUuid.ne_nil
    have hclear : Clear template ↔ (EndsEmpty template → ∀ c ∈ template.toList, c.utf8Size = 1) :=
      ⟨Clear.oneByte, fun h => ⟨hsuffix, h⟩⟩
    rw [if_pos ((getLast_pieces hplaced hend.1).mpr hsuffix), hclear,
      ← separator_eq_iff hend.1 hend.2, spell_dropLast_pieces hplaced hend.1 hsuffix,
      Option.some.injEq, ← String.toList_inj, String.toList_ofList, hrender]
    constructor
    · intro heq
      simpa [List.append_assoc] using heq.symm
    · intro heq
      rw [heq, List.append_assoc, List.append_assoc, List.append_assoc]

end

end FlagTemplate

/-! ## The result -/

open FlagTemplate in
/-- **The flag is the one that the template describes exactly if there is a placeholder for the
random part, or the template is clear.** -/
theorem describedFlag_eq_iff (template challengeId : String) {randomPart : String}
    (hinert : Inert randomPart) :
    describedFlag template challengeId randomPart =
      some (renderInstancedFlag template challengeId randomPart) ↔
      Placed template ∨ Clear template := by
  by_cases hplaced : Placed template
  · exact iff_of_true (describedFlag_of_placed hplaced hinert) (.inl hplaced)
  · rw [or_iff_right hplaced]
    by_cases hend : template.toList.getLast? = some '\x7d' ∧ 1 < template.toList.length
    · exact describedFlag_of_brace hplaced hend hinert
    · refine iff_of_true (describedFlag_of_end hplaced hend hinert) ⟨fun h => ?_, fun h => ?_⟩
      · exact hend (brace_of_suffix rfl (by decide) h)
      · exact absurd (brace_of_suffix rfl (by decide) h) hend

open FlagTemplate in
theorem describedFlag_eq_iff_accent :
    describedFlag "\u00e9\x7b_\x7d" "web-1" "9f86d081884c7d659a2feaa0c55ad015" =
      some (renderInstancedFlag "\u00e9\x7b_\x7d" "web-1" "9f86d081884c7d659a2feaa0c55ad015") ↔
      Placed "\u00e9\x7b_\x7d" ∨ Clear "\u00e9\x7b_\x7d" :=
  describedFlag_eq_iff "\u00e9\x7b_\x7d" "web-1" ⟨by decide +kernel, by decide +kernel⟩

/-- **A letter of two bytes before an empty pair of braces**: an underscore comes in that the
template does not describe.  A placeholder of the challenge at the end is torn apart. -/
theorem describedFlag_ne :
    describedFlag "\u00e9\x7b\x7d" "web-1" "9f86d081884c7d659a2feaa0c55ad015" =
        some "\u00e9\x7b9f86d081884c7d659a2feaa0c55ad015\x7d" ∧
      renderInstancedFlag "\u00e9\x7b\x7d" "web-1" "9f86d081884c7d659a2feaa0c55ad015" =
        "\u00e9\x7b_9f86d081884c7d659a2feaa0c55ad015\x7d" ∧
      renderInstancedFlag "ctf-\x7b\x7bchallenge\x7d\x7d" "web-1"
          "9f86d081884c7d659a2feaa0c55ad015" =
        "ctf-\x7b\x7bchallenge\x7d_9f86d081884c7d659a2feaa0c55ad015\x7d" := by
  refine ⟨?_, ?_, ?_⟩
  · decide +kernel
  · decide +kernel
  · decide +kernel

end Cctf
