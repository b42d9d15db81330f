import Cctf.Instances.Rendering

/-!
# One flag for every instance

Two instances of one challenge get two random parts.  Whatever the template is, these make two
flags, and each can be found in its flag.

* `RandomPart` — thirty-two hexadecimal digits, as `Uuid::simple` prints them.
* `exists_hole_of_placed` — a template that says where the random part goes has a placeholder
  for it, so the random part is in the flag.
* `flags_distinct` — **two random parts make two flags**.
-/

namespace Cctf

open Text

namespace FlagTemplate

/-- The text of a random UUID: thirty-two lowercase hexadecimal digits. -/
structure RandomPart (text : String) : Prop where
  length : text.toList.length = 32
  digits : ∀ c ∈ text.toList, c ∈ "0123456789abcdef".toList

/-- A random part is no part of the name of a placeholder. -/
theorem RandomPart.foreign {text : String} (h : RandomPart text) {name : List Char}
    (hname : name.length < 32) : Foreign name text.toList := by
  refine ⟨⟨fun hopen => ?_, fun hclose => ?_⟩, fun hinfix => ?_⟩
  · exact absurd (h.digits _ hopen) (by decide)
  · exact absurd (h.digits _ hclose) (by decide)
  · have hle := hinfix.length_le
    rw [h.length] at hle
    omega

theorem RandomPart.inert {text : String} (h : RandomPart text) : Inert text :=
  ⟨h.foreign (by decide), h.foreign (by decide)⟩

variable {template challengeId r r' : String}

/-- The random part has a placeholder. -/
theorem exists_hole_of_placed (hplaced : Placed template) :
    ∃ name, .hole name ∈ pieces template ∧
      ∀ challengeId randomPart, value challengeId randomPart name = randomPart := by
  have hmem : ∀ name ∈ names, marker name <:+: template.toList → .hole name ∈ pieces template := by
    rintro name hname ⟨a, b, hab⟩
    obtain ⟨before, after, hpieces, -, -⟩ := exists_hole braceless_names hname
      (scanned_pieces template) ((spell_pieces template).trans hab.symm)
    rw [hpieces]
    simp
  rcases hplaced with hrandom | huuid
  · exact ⟨random, hmem random (by decide) hrandom, fun _ _ => rfl⟩
  · exact ⟨uuid, hmem uuid (by decide) huuid, fun _ _ => rfl⟩

/-- **The random part is in the flag.** -/
theorem infix_render (hr : RandomPart r) :
    r.toList <:+: (renderInstancedFlag template challengeId r).toList := by
  by_cases hplaced : Placed template
  · obtain ⟨name, hname, hvalue⟩ := exists_hole_of_placed hplaced
    have hinfix : value challengeId.toList r.toList name <:+:
        spell (value challengeId.toList r.toList) (pieces template) := infix_spell hname
    rwa [hvalue, ← toList_render_placeholders hplaced hr.inert] at hinfix
  · by_cases hend : template.toList.getLast? = some '\x7d' ∧ 1 < template.utf8ByteSize
    · rw [toList_render_brace hplaced hend hr.inert.forUuid.braceless hr.inert.forUuid.ne_nil]
      exact ⟨expandedBody template challengeId ++ separator template, ['\x7d'], by simp⟩
    · rw [toList_render_end hplaced hend hr.inert.forUuid.braceless]
      exact (List.suffix_append _ _).isInfix

/-- **The random part can be read off the flag.** -/
theorem eq_of_render_eq (hr : RandomPart r) (hr' : RandomPart r')
    (h : renderInstancedFlag template challengeId r = renderInstancedFlag template challengeId r') :
    r = r' := by
  rw [← String.toList_inj] at h ⊢
  have hlength : r.toList.length = r'.toList.length := hr.length.trans hr'.length.symm
  by_cases hplaced : Placed template
  · rw [toList_render_placeholders hplaced hr.inert,
      toList_render_placeholders hplaced hr'.inert] at h
    obtain ⟨name, hname, hvalue⟩ := exists_hole_of_placed hplaced
    have hlengths : ∀ name, (value challengeId.toList r.toList name).length =
        (value challengeId.toList r'.toList name).length := by
      intro name
      rw [value, value]
      split_ifs
      · rfl
      · exact hlength
      · rfl
    have hsame := spell_inj hlengths h hname
    rwa [hvalue, hvalue] at hsame
  · by_cases hend : template.toList.getLast? = some '\x7d' ∧ 1 < template.utf8ByteSize
    · rw [toList_render_brace hplaced hend hr.inert.forUuid.braceless hr.inert.forUuid.ne_nil,
        toList_render_brace hplaced hend hr'.inert.forUuid.braceless hr'.inert.forUuid.ne_nil,
        List.append_cancel_left_eq, List.append_left_inj, List.append_cancel_left_eq] at h
      exact h
    · rw [toList_render_end hplaced hend hr.inert.forUuid.braceless,
        toList_render_end hplaced hend hr'.inert.forUuid.braceless,
        List.append_cancel_left_eq] at h
      exact h

end FlagTemplate

/-! ## The result -/

open FlagTemplate in
/-- **Two random parts make two flags, and each is in its flag.** -/
theorem flags_distinct (template challengeId : String) {r r' : String} (hr : RandomPart r)
    (hr' : RandomPart r') (hne : r ≠ r') :
    renderInstancedFlag template challengeId r ≠ renderInstancedFlag template challengeId r' ∧
      Text.contains (renderInstancedFlag template challengeId r) r = true ∧
      Text.contains (renderInstancedFlag template challengeId r') r' = true :=
  ⟨fun h => hne (eq_of_render_eq hr hr' h), decide_eq_true (infix_render hr),
    decide_eq_true (infix_render hr')⟩

theorem flags_distinct_braces :
    renderInstancedFlag "\x7b\x7b\x7brandom\x7d\x7duuid\x7d\x7d" "\x7b\x7buuid\x7d\x7d"
        "9f86d081884c7d659a2feaa0c55ad015" ≠
      renderInstancedFlag "\x7b\x7b\x7brandom\x7d\x7duuid\x7d\x7d" "\x7b\x7buuid\x7d\x7d"
        "60303ae22b998861bce3b28f33eec1be" ∧
      Text.contains (renderInstancedFlag "\x7b\x7b\x7brandom\x7d\x7duuid\x7d\x7d"
        "\x7b\x7buuid\x7d\x7d" "9f86d081884c7d659a2feaa0c55ad015")
        "9f86d081884c7d659a2feaa0c55ad015" = true ∧
      Text.contains (renderInstancedFlag "\x7b\x7b\x7brandom\x7d\x7duuid\x7d\x7d"
        "\x7b\x7buuid\x7d\x7d" "60303ae22b998861bce3b28f33eec1be")
        "60303ae22b998861bce3b28f33eec1be" = true :=
  flags_distinct _ _ ⟨by decide +kernel, by decide +kernel⟩ ⟨by decide +kernel, by decide +kernel⟩
    (by decide +kernel)

end Cctf
