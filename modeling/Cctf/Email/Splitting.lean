import Cctf.Services.Email.Server

/-!
# Where a message is split

The headers of a message end at its first empty line.  `parse_email` looks for two line
endings in a row: for two CRLF in the whole text first, and only without any for two LF.

* `firstEmptyLine` — the first empty line of a text, ended by LF or CRLF; `EmptyAt` says what
  an empty line is, and `firstEmptyLine_spec` that it is the first.
* `headerValue_append_newline`, `headerValue_append_return` — the end of the last header line
  does not matter.
* `SplitAtEmptyLine` — the headers are what is before the first empty line, the body is what
  is after it.
* `split_iff` — **a message is split there exactly when the two line endings around the empty
  line are of one kind, and no two CRLF come after two LF**.
* `split_in_body` — headers that are read from the body.
-/

namespace Cctf

open Text SmtpCatcherServer

/-! ## The first empty line -/

/-- An empty line at the start of a text, and what follows it. -/
def emptyLine : List Char → Option (List Char × List Char)
  | '\n' :: rest => some (['\n'], rest)
  | '\r' :: '\n' :: rest => some (crlf, rest)
  | _ => none

/-- The first empty line of a text; a line starts at its front if `start` is set. -/
def emptyLineFrom (start : Bool) : List Char → Option (List Char × List Char × List Char)
  | [] => none
  | c :: cs =>
    match if start then emptyLine (c :: cs) else none with
    | some r => some ([], r)
    | none => (emptyLineFrom (c == '\n') cs).map fun r => (c :: r.1, r.2)

/-- What is before the first empty line, the line, and what is after it. -/
def firstEmptyLine (raw : List Char) : Option (List Char × List Char × List Char) :=
  emptyLineFrom true raw

/-- A line of the text is empty: it starts at its front, if `start` is set, or after a line
feed, and it ends at once. -/
structure EmptyAt (start : Bool) (raw before eol after : List Char) : Prop where
  text : raw = before ++ eol ++ after
  eol : eol = ['\n'] ∨ eol = crlf
  start : before = [] ∧ start = true ∨ before.getLast? = some '\n'

theorem emptyLine_eq_some_iff {cs eol after : List Char} :
    emptyLine cs = some (eol, after) ↔ cs = eol ++ after ∧ (eol = ['\n'] ∨ eol = crlf) := by
  constructor
  · intro h
    unfold emptyLine at h
    split at h
    · obtain ⟨rfl, rfl⟩ : ['\n'] = eol ∧ _ = after := by simpa using h
      exact ⟨rfl, .inl rfl⟩
    · obtain ⟨rfl, rfl⟩ : crlf = eol ∧ _ = after := by simpa using h
      exact ⟨rfl, .inr rfl⟩
    · exact absurd h nofun
  · rintro ⟨rfl, rfl | rfl⟩
    · rfl
    · rfl

theorem emptyLineFrom_spec {start : Bool} {raw before eol after : List Char}
    (h : emptyLineFrom start raw = some (before, eol, after)) :
    EmptyAt start raw before eol after ∧
      ∀ b e a, EmptyAt start raw b e a → before.length ≤ b.length := by
  induction raw generalizing start before with
  | nil => exact absurd h nofun
  | cons c cs ih =>
    rw [emptyLineFrom] at h
    split at h
    · rename_i r hempty
      obtain ⟨rfl, rfl⟩ : [] = before ∧ r = (eol, after) := by simpa using h
      obtain ⟨hstart, hline⟩ : start = true ∧ emptyLine (c :: cs) = some (eol, after) := by
        simpa using hempty
      obtain ⟨htext, heol⟩ := emptyLine_eq_some_iff.1 hline
      exact ⟨⟨htext, heol, .inl ⟨rfl, hstart⟩⟩, fun _ _ _ _ => Nat.zero_le _⟩
    · rename_i hno
      obtain ⟨⟨before', eol', after'⟩, hrest, hpair⟩ := Option.map_eq_some_iff.1 h
      obtain ⟨rfl, rfl, rfl⟩ : c :: before' = before ∧ eol' = eol ∧ after' = after := by
        simpa using hpair
      obtain ⟨⟨htext, heol, hbefore⟩, hfirst⟩ := ih hrest
      refine ⟨⟨by rw [htext]; rfl, heol, .inr ?_⟩, fun b e a hba => ?_⟩
      · rcases hbefore with ⟨rfl, hc⟩ | hlast
        · rw [beq_iff_eq.1 hc]
          rfl
        · rw [List.getLast?_cons, hlast]
          rfl
      · obtain ⟨htext', heol', hb⟩ := hba
        cases b with
        | nil =>
          have hstart : start = true := by simpa using hb
          have hline := emptyLine_eq_some_iff.2 ⟨htext', heol'⟩
          rw [if_pos hstart, hline] at hno
          exact absurd hno nofun
        | cons d b =>
          rw [List.cons_append, List.cons_append, List.cons.injEq] at htext'
          obtain ⟨rfl, htext'⟩ := htext'
          refine Nat.succ_le_succ (hfirst b e a ⟨htext', heol', ?_⟩)
          cases b with
          | nil => exact .inl ⟨rfl, by simpa using hb⟩
          | cons d' b => exact .inr (by simpa using hb)

/-- **The first empty line is one, and no other comes before it.** -/
theorem firstEmptyLine_spec {raw before eol after : List Char}
    (h : firstEmptyLine raw = some (before, eol, after)) :
    EmptyAt true raw before eol after ∧
      ∀ b e a, EmptyAt true raw b e a → before.length ≤ b.length :=
  emptyLineFrom_spec h

/-! ## The last header line -/

/-- What is added to a text that does not end its last line is added to that line. -/
theorem splitInclusive_append {text : List Char} (hne : text ≠ [])
    (hlast : text.getLast? ≠ some '\n') : ∃ init line, '\n' ∉ line ∧
      splitInclusive text = init ++ [line] ∧
        ∀ d, splitInclusive (text ++ [d]) = init ++ [line ++ [d]] := by
  induction text with
  | nil => exact absurd rfl hne
  | cons c cs ih =>
    cases cs with
    | nil =>
      have hc : c ≠ '\n' := by simpa using hlast
      refine ⟨[], [c], by simpa using hc.symm, by simp [splitInclusive, hc], fun d => ?_⟩
      by_cases hd : d = '\n'
      · simp [splitInclusive, hc, hd]
      · simp [splitInclusive, hc, hd]
    | cons c' cs =>
      obtain ⟨init, line, hline, htext, hadd⟩ := ih (by simp) (by simpa using hlast)
      by_cases hc : c = '\n'
      · refine ⟨[c] :: init, line, hline, ?_, fun d => ?_⟩
        · rw [splitInclusive, if_pos hc, htext, List.cons_append]
        · rw [List.cons_append, splitInclusive, if_pos hc, hadd, List.cons_append]
      · cases init with
        | nil =>
          refine ⟨[], c :: line, ?_, ?_, fun d => ?_⟩
          · rw [List.mem_cons, not_or]
            exact ⟨Ne.symm hc, hline⟩
          · rw [splitInclusive, if_neg hc, htext]
            rfl
          · rw [List.cons_append, splitInclusive, if_neg hc, hadd]
            rfl
        | cons first init =>
          refine ⟨(c :: first) :: init, line, hline, ?_, fun d => ?_⟩
          · rw [splitInclusive, if_neg hc, htext]
            rfl
          · rw [List.cons_append, splitInclusive, if_neg hc, hadd]
            rfl

theorem chompLine_of_not_mem {line : List Char} (h : '\n' ∉ line) : chompLine line = line := by
  rw [chompLine, if_neg fun hlast => h (List.mem_of_getLast? hlast)]

theorem splitOnce_append_return {pattern : Char} (hpattern : pattern ≠ '\r') (line : List Char) :
    splitOnce [pattern] (line ++ ['\r']) =
      (splitOnce [pattern] line).map fun r => (r.1, r.2 ++ ['\r']) := by
  induction line with
  | nil => simp [splitOnce, hpattern]
  | cons c line ih =>
    rw [List.cons_append, splitOnce, splitOnce]
    by_cases hc : c = pattern
    · simp [hc]
    · simp [Ne.symm hc, ih, Option.map_map, Function.comp_def]

theorem trimChars_append_return (value : List Char) : trimChars (value ++ ['\r']) = trimChars value := by
  have hspace : isWhitespace '\r' = true := by decide
  unfold trimChars
  by_cases hvalue : value.dropWhile isWhitespace = []
  · have hall : ∀ c ∈ value, isWhitespace c = true := List.dropWhile_eq_nil_iff.1 hvalue
    rw [List.dropWhile_append_of_pos hall, hvalue]
    simp [hspace]
  · rw [List.dropWhile_append, if_neg (by simpa using hvalue),
      List.rdropWhile_concat_pos _ _ _ hspace]

/-- A carriage return behind the last line is not seen. -/
theorem headerIn_append_return (name line : List Char) (init : List (List Char)) :
    headerIn name (init ++ [line ++ ['\r']]) = headerIn name (init ++ [line]) := by
  induction init with
  | nil =>
    simp only [List.nil_append, headerIn, splitOnce_append_return (by decide : ':' ≠ '\r')]
    cases splitOnce [':'] line with
    | none => rfl
    | some r => simp only [Option.map_some, trimChars_append_return]
  | cons first init ih =>
    rw [List.cons_append, List.cons_append, headerIn, headerIn, ih]

/-- The carriage return of the last line does not matter. -/
theorem headerValue_append_return {block : List Char} (hne : block ≠ [])
    (hlast : block.getLast? ≠ some '\n') (name : List Char) :
    headerValue (block ++ ['\r']) name = headerValue block name := by
  obtain ⟨init, line, hline, hblock, hadd⟩ := splitInclusive_append hne hlast
  have hreturn : '\n' ∉ line ++ ['\r'] := by simp [hline]
  unfold headerValue lines
  rw [hblock, hadd, List.map_append, List.map_append, List.map_singleton, List.map_singleton,
    chompLine_of_not_mem hline, chompLine_of_not_mem hreturn, headerIn_append_return]

/-- The line feed of the last line does not matter. -/
theorem headerValue_append_newline {block : List Char} (hne : block ≠ [])
    (hlast : block.getLast? ≠ some '\n') (name : List Char) :
    headerValue (block ++ ['\n']) name = headerValue block name := by
  obtain ⟨init, line, hline, hblock, hadd⟩ := splitInclusive_append hne hlast
  have hchomp : chompLine (line ++ ['\n']) = stripSuffix '\r' line := by
    rw [chompLine, List.getLast?_concat, if_pos rfl, List.dropLast_concat]
  unfold headerValue lines
  rw [hblock, hadd, List.map_append, List.map_append, List.map_singleton, List.map_singleton,
    chompLine_of_not_mem hline, hchomp, stripSuffix]
  split
  · rename_i hend
    obtain ⟨line, rfl⟩ := List.getLast?_eq_some_iff.1 hend
    rw [List.dropLast_concat, headerIn_append_return]
  · rfl

/-! ## The split -/

/-- The message with given headers and a given body. -/
def messageOf (id : List Char) (timestamp : ℤ) (envelopeFrom : List Char)
    (rcpts : List (List Char)) (header body : List Char) : Email where
  id := id
  «from» := (headerValue header "From".toList).getD envelopeFrom
  «to» := (headerValue header "To".toList).getD (join ", ".toList rcpts)
  subject := (headerValue header "Subject".toList).getD []
  body := body
  timestamp := timestamp

/-- The headers are what is before the first empty line, without the end of its last line, and
the body is what is after it; so it is for the message that is kept. -/
structure SplitAtEmptyLine (raw before after : List Char) : Prop where
  header : (splitMessage raw).1 ++ ['\n'] = before ∨ (splitMessage raw).1 ++ crlf = before
  body : (splitMessage raw).2 = after
  message : ∀ id timestamp envelopeFrom rcpts,
    parseEmail id timestamp envelopeFrom rcpts raw =
      messageOf id timestamp envelopeFrom rcpts before after

/-- The two line endings around the first empty line are two CRLF, or the second one is LF and
no two CRLF follow. -/
def SameEnds (before eol after : List Char) : Prop :=
  crlf <:+ before ∧ eol = crlf ∨ eol = ['\n'] ∧ ¬ crlf ++ crlf <:+: after

section

variable {raw before eol after : List Char}

/-- The headers of an email do not depend on how its last header line ends. -/
theorem headerValue_of_cut {header : List Char} (hne : header ≠ [])
    (hlast : header.getLast? ≠ some '\n')
    (h : header ++ ['\n'] = before ∨ header ++ crlf = before) (name : List Char) :
    headerValue header name = headerValue before name := by
  rcases h with rfl | rfl
  · exact (headerValue_append_newline hne hlast name).symm
  · have hcut : header ++ crlf = header ++ ['\r'] ++ ['\n'] := by simp [crlf]
    rw [hcut, headerValue_append_newline (by simp) (by simp),
      headerValue_append_return hne hlast]

/-- A header block that is cut at the first empty line is not empty, and neither is its last
line. -/
theorem header_of_cut {header : List Char}
    (hfirst : ∀ b e a, EmptyAt true raw b e a → before.length ≤ b.length)
    (htext : raw = before ++ eol ++ after)
    (h : header ++ ['\n'] = before ∨ header ++ crlf = before) :
    header ≠ [] ∧ header.getLast? ≠ some '\n' := by
  obtain ⟨e, he, rfl⟩ : ∃ e, (e = ['\n'] ∨ e = crlf) ∧ header ++ e = before := by
    rcases h with h | h
    · exact ⟨_, .inl rfl, h⟩
    · exact ⟨_, .inr rfl, h⟩
  have hlength : 0 < e.length := by rcases he with rfl | rfl <;> decide
  -- otherwise the end of the last line would be an empty line
  have hempty : ¬ (header = [] ∧ true = true ∨ header.getLast? = some '\n') := by
    intro hstart
    have := hfirst header e (eol ++ after) ⟨by rw [htext, List.append_assoc], he, hstart⟩
    rw [List.length_append] at this
    omega
  rw [not_or] at hempty
  exact ⟨fun h => hempty.1 ⟨h, rfl⟩, hempty.2⟩

/-- Where the cut is right, so is the message. -/
theorem splitAtEmptyLine_of_cut
    (hfirst : ∀ b e a, EmptyAt true raw b e a → before.length ≤ b.length)
    (htext : raw = before ++ eol ++ after)
    (header : (splitMessage raw).1 ++ ['\n'] = before ∨ (splitMessage raw).1 ++ crlf = before)
    (body : (splitMessage raw).2 = after) : SplitAtEmptyLine raw before after := by
  obtain ⟨hne, hlast⟩ := header_of_cut hfirst htext header
  refine ⟨header, body, fun id timestamp envelopeFrom rcpts => ?_⟩
  simp only [parseEmail, messageOf, body, headerValue_of_cut hne hlast header]

/-- Two CRLF in a row end an empty line. -/
theorem EmptyAt.of_crlf {b a : List Char} (h : raw = b ++ (crlf ++ crlf) ++ a) :
    EmptyAt true raw (b ++ crlf) crlf a := by
  refine ⟨by rw [h]; simp only [List.append_assoc], .inr rfl, .inr ?_⟩
  simp [crlf]

/-- Two LF in a row end an empty line. -/
theorem EmptyAt.of_newline {b a : List Char} (h : raw = b ++ ['\n', '\n'] ++ a) :
    EmptyAt true raw (b ++ ['\n']) ['\n'] a :=
  ⟨by rw [h]; simp, .inl rfl, .inr (by simp)⟩

/-- Two CRLF in a text whose first empty line is ended by LF come after it. -/
theorem infix_after_of_newline (h : EmptyAt true raw before ['\n'] after)
    (hfirst : ∀ b e a, EmptyAt true raw b e a → before.length ≤ b.length)
    (hin : crlf ++ crlf <:+: raw) : crlf ++ crlf <:+: after := by
  obtain ⟨b, a, hba⟩ := hin
  have hlength := hfirst _ _ _ (EmptyAt.of_crlf hba.symm)
  have htext : before ++ '\n' :: after = b ++ (crlf ++ crlf ++ a) := by
    rw [← List.append_assoc b, hba, h.text]
    simp
  rcases List.append_eq_append_iff.1 htext with ⟨mid, -, hmid⟩ | ⟨mid, hbefore, hmid⟩
  · cases mid with
    | nil => simp [crlf] at hmid
    | cons d mid =>
      rw [List.cons_append, List.cons.injEq] at hmid
      exact ⟨mid, a, by rw [hmid.2, List.append_assoc]⟩
  · -- the two CRLF begin in the last line before the empty one, at most two characters early
    rw [hbefore, List.length_append, List.length_append, show crlf.length = 2 from rfl] at hlength
    rcases mid with _ | ⟨d, _ | ⟨d', _ | ⟨d'', mid⟩⟩⟩
    · simp [crlf] at hmid
    · obtain ⟨rfl, -⟩ : '\r' = d ∧ _ := by simpa [crlf] using hmid
      have hstart := h.start
      rw [hbefore] at hstart
      simp at hstart
    · simp [crlf] at hmid
    · simp only [List.length_cons] at hlength
      omega

theorem splitMessage_of_crlf {header : List Char}
    (hfirst : ∀ b e a, EmptyAt true raw b e a → (header ++ crlf).length ≤ b.length)
    (htext : raw = header ++ crlf ++ crlf ++ after) : splitMessage raw = (header, after) := by
  have hsplit : splitOnce (crlf ++ crlf) raw = some (header, after) := by
    refine splitOnce_eq_some_iff.2 ⟨by rw [htext]; simp [crlf], fun b a hba => ?_⟩
    have hlength := hfirst _ _ _ (EmptyAt.of_crlf hba)
    rw [List.length_append, List.length_append] at hlength
    omega
  rw [splitMessage, hsplit]

theorem splitMessage_of_newline {header : List Char}
    (hfirst : ∀ b e a, EmptyAt true raw b e a → (header ++ ['\n']).length ≤ b.length)
    (htext : raw = header ++ ['\n'] ++ ['\n'] ++ after) (hno : ¬ crlf ++ crlf <:+: raw) :
    splitMessage raw = (header, after) := by
  have hsplit : splitOnce ['\n', '\n'] raw = some (header, after) := by
    refine splitOnce_eq_some_iff.2 ⟨by rw [htext]; simp, fun b a hba => ?_⟩
    have hlength := hfirst _ _ _ (EmptyAt.of_newline hba)
    rw [List.length_append, List.length_append] at hlength
    omega
  rw [splitMessage, splitOnce_eq_none hno, hsplit]

/-- There is a line before an empty line that is not the first. -/
theorem EmptyAt.exists_line (h : EmptyAt true raw before eol after) (hne : before ≠ []) :
    ∃ line, before = line ++ ['\n'] := by
  rcases h.start with ⟨hnil, -⟩ | hlast
  · exact absurd hnil hne
  · exact List.getLast?_eq_some_iff.1 hlast

/-- A cut right after an empty line is at a pattern that ends with it. -/
theorem EmptyAt.ends_of_cut (h : EmptyAt true raw before eol after) {p : Char}
    {ps b : List Char} (hcut : splitOnce (p :: ps) raw = some (b, after)) :
    before ++ eol = b ++ p :: ps := by
  have hraw := (splitOnce_spec hcut).1
  rw [h.text] at hraw
  exact List.append_cancel_right hraw

/-- Where the two line endings are of one kind, the message is split there. -/
theorem split_of_sameEnds (h : EmptyAt true raw before eol after)
    (hfirst : ∀ b e a, EmptyAt true raw b e a → before.length ≤ b.length) (hne : before ≠ [])
    (hsame : SameEnds before eol after) : SplitAtEmptyLine raw before after := by
  rcases hsame with ⟨⟨header, rfl⟩, rfl⟩ | ⟨rfl, hno⟩
  · have hsplit := splitMessage_of_crlf hfirst h.text
    exact splitAtEmptyLine_of_cut hfirst h.text (.inr (by rw [hsplit])) (by rw [hsplit])
  · obtain ⟨header, rfl⟩ := h.exists_line hne
    have hsplit := splitMessage_of_newline hfirst h.text
      fun hin => hno (infix_after_of_newline h hfirst hin)
    exact splitAtEmptyLine_of_cut hfirst h.text (.inl (by rw [hsplit])) (by rw [hsplit])

/-- A message that is split at its first empty line has two line endings of one kind there. -/
theorem sameEnds_of_body (h : EmptyAt true raw before eol after) (hne : before ≠ [])
    (hbody : (splitMessage raw).2 = after) : SameEnds before eol after := by
  obtain ⟨line, rfl⟩ := h.exists_line hne
  unfold splitMessage at hbody
  cases hcrlf : splitOnce (crlf ++ crlf) raw with
  | some r =>
    rw [hcrlf] at hbody
    obtain ⟨b, a⟩ := r
    obtain rfl : a = after := hbody
    have hends : line ++ ['\n'] ++ eol = b ++ (crlf ++ crlf) := h.ends_of_cut hcrlf
    rcases h.eol with rfl | rfl
    · exact absurd (congrArg (fun text => text.reverse[1]?) hends) (by simp [crlf])
    · rw [← List.append_assoc] at hends
      exact .inl ⟨⟨b, (List.append_cancel_right hends).symm⟩, rfl⟩
  | none =>
    rw [hcrlf] at hbody
    have hno := splitOnce_eq_none_iff.1 hcrlf
    rcases h.eol with rfl | rfl
    · refine .inr ⟨rfl, fun hin => hno (hin.trans ?_)⟩
      rw [h.text]
      exact (List.suffix_append _ _).isInfix
    · exfalso
      cases hnewline : splitOnce ['\n', '\n'] raw with
      | some r =>
        rw [hnewline] at hbody
        obtain ⟨b, a⟩ := r
        obtain rfl : a = after := hbody
        have hends := h.ends_of_cut hnewline
        exact absurd (congrArg (fun text => text.reverse[1]?) hends) (by simp [crlf])
      | none =>
        rw [hnewline] at hbody
        have hlength := congrArg List.length (h.text.symm.trans hbody)
        simp at hlength
        omega

/-- **When a message is split at its first empty line.**  Its two line endings are of one
kind, and those of the body do not take its place. -/
theorem split_iff (hraw : firstEmptyLine raw = some (before, eol, after)) (hne : before ≠ []) :
    SplitAtEmptyLine raw before after ↔ SameEnds before eol after := by
  obtain ⟨hempty, hfirst⟩ := firstEmptyLine_spec hraw
  exact ⟨fun h => sameEnds_of_body hempty hne h.body, split_of_sameEnds hempty hfirst hne⟩

/-- A message with CRLF throughout is split where it should be. -/
theorem split_iff_crlf :
    firstEmptyLine "To: bob\r\n\r\nHi\n\nbob".toList =
      some ("To: bob\r\n".toList, crlf, "Hi\n\nbob".toList) ∧
    (SplitAtEmptyLine "To: bob\r\n\r\nHi\n\nbob".toList "To: bob\r\n".toList
      "Hi\n\nbob".toList ↔ SameEnds "To: bob\r\n".toList crlf "Hi\n\nbob".toList) :=
  ⟨by decide, split_iff (by decide) (by decide)⟩

/-- **A subject is read from the body.**  The header block has LF and the body has two CRLF. -/
theorem split_in_body :
    firstEmptyLine "To: bob\n\nSubject: no\r\n\r\nyes".toList =
      some ("To: bob\n".toList, ['\n'], "Subject: no\r\n\r\nyes".toList) ∧
    (parseEmail [] 0 [] [] "To: bob\n\nSubject: no\r\n\r\nyes".toList).subject = "no".toList ∧
    ¬ SplitAtEmptyLine "To: bob\n\nSubject: no\r\n\r\nyes".toList "To: bob\n".toList
      "Subject: no\r\n\r\nyes".toList :=
  ⟨by decide, by decide, fun h => absurd h.body (by decide)⟩

end

end Cctf
