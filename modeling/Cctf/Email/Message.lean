import Mathlib.Data.List.Chain
import Cctf.Services.Email.Client
import Cctf.Services.Email.Server

/-!
# A message on its way

The client writes a message line by line, and the catcher reads the lines, undoes the
dot-stuffing, and takes the headers apart again.

* `messageLines`, `buildMessage_eq` — the message as lines.
* `unstuff` — what the catcher keeps of a line; `unstuff_stuffLine` — **dot-stuffing is
  undone**, and `stuffLine_ne_dot` — **no line is a single dot**.
* `receivedText`, `splitMessage_receivedText` — the text the catcher keeps, and **the first
  empty line is the one after the headers**.
* `parseEmail_receivedText` — the message it becomes.
-/

namespace Cctf

open Text SmtpCatcherServer

variable (X : Crates) (fromEmail rcpt subject body : List Char)

/-! ## Lines -/

/-- The lines of a message. -/
def messageLines : List (List Char) :=
  messageHeaders X fromEmail rcpt subject ++ [] :: (body.splitOn '\n').map stuffLine

theorem buildMessage_eq : buildMessage X fromEmail rcpt subject body =
    (messageLines X fromEmail rcpt subject body).flatMap (· ++ crlf) := by
  simp [buildMessage, messageLines, List.flatMap_map]

/-- What the catcher keeps of a line. -/
def unstuff (line : List Char) : List Char := stripPrefix '.' (trimEol line)

/-- A line of the body as it is kept: without the carriage returns at its end. -/
def bareLine (rawLine : List Char) : List Char := rawLine.rdropWhile fun c => c == '\r'

/-- The body as it is kept. -/
def receivedBody : List Char := (body.splitOn '\n').flatMap fun rawLine => bareLine rawLine ++ ['\n']

/-- The text of a message as the catcher reads it. -/
def receivedText : List Char :=
  (messageHeaders X fromEmail rcpt subject).flatMap (· ++ ['\n']) ++ '\n' :: receivedBody body

variable {X fromEmail rcpt subject body}

/-- In a line, only carriage returns are trimmed. -/
theorem trimEol_eq_bareLine {line : List Char} (h : '\n' ∉ line) : trimEol line = bareLine line := by
  induction line using List.reverseRecOn with
  | nil => rfl
  | append_singleton line c ih =>
    rw [List.mem_append, not_or, List.mem_singleton] at h
    unfold trimEol bareLine
    by_cases hc : c = '\r'
    · subst hc
      rw [List.rdropWhile_concat_pos _ _ _ (by decide), List.rdropWhile_concat_pos _ _ _ (by decide)]
      exact ih h.1
    · rw [List.rdropWhile_concat_neg, List.rdropWhile_concat_neg]
      · simpa using hc
      · simpa [isEol, hc] using Ne.symm h.2

theorem getLast?_bareLine (rawLine : List Char) : (bareLine rawLine).getLast? ≠ some '\r' := by
  intro hlast
  obtain ⟨hne, hget⟩ := List.mem_getLast?_eq_getLast hlast
  apply List.rdropWhile_last_not _ _ hne
  show ((bareLine rawLine).getLast hne == '\r') = true
  rw [← hget]
  rfl

theorem trimEol_stripSuffix (line : List Char) : trimEol (stripSuffix '\r' line) = trimEol line := by
  unfold stripSuffix
  split
  · rename_i hlast
    obtain ⟨init, rfl⟩ := List.getLast?_eq_some_iff.1 hlast
    have hcr : ∀ c ∈ ['\r'], isEol c = true := by decide
    rw [List.dropLast_concat, trimEol_append_eol init hcr]
  · rfl

theorem stripPrefix_of_head?_ne {c : Char} {cs : List Char} (h : cs.head? ≠ some c) :
    stripPrefix c cs = cs := by
  cases cs with
  | nil => rfl
  | cons d cs =>
    have hd : d ≠ c := by simpa using h
    rw [stripPrefix, if_neg hd]

/-- A line that does not begin with a dot does not when it is trimmed. -/
theorem head?_trimEol_ne {line : List Char} (h : line.head? ≠ some '.') :
    (trimEol line).head? ≠ some '.' := by
  intro hhead
  apply h
  obtain ⟨rest, hrest⟩ : trimEol line <+: line := List.rdropWhile_prefix _ _
  rw [← hrest, List.head?_append, hhead, Option.some_or]

theorem trimEol_dot (line : List Char) : trimEol ('.' :: line) = '.' :: trimEol line :=
  trimEol_append [] (c := '.') (by decide) line

/-- **Dot-stuffing is undone**: the doubled dot is one dot again, and no other line loses
its first character. -/
theorem unstuff_stuffLine {rawLine : List Char} (h : '\n' ∉ rawLine) :
    unstuff (stuffLine rawLine) = bareLine rawLine := by
  rw [← trimEol_eq_bareLine h, ← trimEol_stripSuffix, unstuff]
  unfold stuffLine
  generalize stripSuffix '\r' rawLine = line
  by_cases hdot : line.head? = some '.'
  · simp [hdot, trimEol_dot, stripPrefix]
  · simp only [hdot, if_false]
    exact stripPrefix_of_head?_ne (head?_trimEol_ne hdot)

/-- **No line of the body is a single dot.** -/
theorem stuffLine_ne_dot (rawLine : List Char) : trimEol (stuffLine rawLine) ≠ ['.'] := by
  intro heq
  unfold stuffLine at heq
  generalize stripSuffix '\r' rawLine = line at heq
  by_cases hdot : line.head? = some '.'
  · obtain ⟨rest, rfl⟩ := List.head?_eq_some_iff.1 hdot
    simp [trimEol_dot] at heq
  · simp only [hdot, if_false] at heq
    exact head?_trimEol_ne hdot (by rw [heq, List.head?_cons])

theorem not_mem_stuffLine {rawLine : List Char} (h : '\n' ∉ rawLine) : '\n' ∉ stuffLine rawLine := by
  have hstrip : '\n' ∉ stripSuffix '\r' rawLine := by
    unfold stripSuffix
    split
    · exact fun hmem => h (List.mem_of_mem_dropLast hmem)
    · exact h
  unfold stuffLine
  by_cases hdot : (stripSuffix '\r' rawLine).head? = some '.'
  · simp [hdot, hstrip]
  · simp [hdot, hstrip]

/-! ## Headers -/

theorem clean_headerSafe (value : List Char) : Clean (headerSafe value) := by
  intro c hc
  simpa [headerSafe, isEol] using (List.mem_filter.1 hc).2

theorem headerSafe_of_clean {value : List Char} (h : Clean value) : headerSafe value = value := by
  apply List.filter_eq_self.2
  intro c hc
  simpa [isEol] using h c hc

theorem clean_messageDomain (h : Clean fromEmail) : Clean (messageDomain fromEmail) := by
  unfold messageDomain
  split
  · exact fun c hc => h c ((List.rtakeWhile_suffix _ _).subset hc)
  · decide

/-- A header line has no line endings and begins with a letter. -/
theorem header_clean (hfrom : Clean fromEmail) {line : List Char}
    (h : line ∈ messageHeaders X fromEmail rcpt subject) :
    Clean line ∧ line ≠ [] ∧ line.head? ≠ some '.' := by
  simp only [messageHeaders, List.mem_cons, List.not_mem_nil, or_false] at h
  rcases h with rfl | rfl | rfl | rfl | rfl | rfl | rfl
  · exact ⟨clean_append.2 ⟨by decide, clean_headerSafe _⟩, by simp, by simp⟩
  · exact ⟨clean_append.2 ⟨by decide, clean_headerSafe _⟩, by simp, by simp⟩
  · exact ⟨clean_append.2 ⟨by decide, clean_headerSafe _⟩, by simp, by simp⟩
  · exact ⟨clean_append.2 ⟨by decide, X.date_clean⟩, by simp, by simp⟩
  · refine ⟨?_, by simp, by simp⟩
    simp only [clean_append]
    exact ⟨⟨⟨⟨by decide, X.uuid_clean⟩, by decide⟩, clean_messageDomain hfrom⟩, by decide⟩
  · exact ⟨by decide, by decide, by decide⟩
  · exact ⟨by decide, by decide, by decide⟩

/-! ## The text the catcher keeps -/

/-- The lines of a message are lines, and none of them ends it. -/
theorem messageLines_framed (hfrom : Clean fromEmail) {line : List Char}
    (h : line ∈ messageLines X fromEmail rcpt subject body) :
    '\n' ∉ line ∧ trimEol line ≠ ['.'] := by
  unfold messageLines at h
  rcases List.mem_append.1 h with hheader | hrest
  · obtain ⟨hclean, -, hhead⟩ := header_clean hfrom hheader
    refine ⟨hclean.not_mem, fun heq => head?_trimEol_ne hhead ?_⟩
    rw [heq, List.head?_cons]
  · rcases List.mem_cons.1 hrest with rfl | hbody
    · exact ⟨by simp, by decide⟩
    · obtain ⟨rawLine, hraw, rfl⟩ := List.mem_map.1 hbody
      exact ⟨not_mem_stuffLine (not_mem_of_mem_splitOn hraw), stuffLine_ne_dot rawLine⟩

/-- **What the catcher keeps of the lines of a message.** -/
theorem receivedText_eq (hfrom : Clean fromEmail) : receivedText X fromEmail rcpt subject body =
    (messageLines X fromEmail rcpt subject body).flatMap fun line => unstuff line ++ ['\n'] := by
  have hheaders : (messageHeaders X fromEmail rcpt subject).flatMap (fun line => unstuff line ++ ['\n']) =
      (messageHeaders X fromEmail rcpt subject).flatMap (· ++ ['\n']) := by
    apply List.flatMap_congr
    intro line hline
    obtain ⟨hclean, -, hhead⟩ := header_clean hfrom hline
    rw [unstuff, stripPrefix_of_head?_ne (head?_trimEol_ne hhead), trimEol_of_clean hclean]
  have hbody : ((body.splitOn '\n').map stuffLine).flatMap (fun line => unstuff line ++ ['\n']) =
      receivedBody body := by
    rw [List.flatMap_map]
    apply List.flatMap_congr
    intro rawLine hraw
    rw [unstuff_stuffLine (not_mem_of_mem_splitOn hraw)]
  rw [messageLines, List.flatMap_append, List.flatMap_cons, hheaders, hbody]
  rfl

/-! ## Taking it apart -/

/-- Lines that do not end in a carriage return leave none before a line feed. -/
theorem splitOnce_crlf_eq_none {keptLines : List (List Char)}
    (h : ∀ line ∈ keptLines, '\n' ∉ line ∧ line.getLast? ≠ some '\r') :
    splitOnce (crlf ++ crlf) (keptLines.flatMap (· ++ ['\n'])) = none := by
  have hchain : (keptLines.flatMap (· ++ ['\n'])).IsChain fun a b => a = '\r' → b ≠ '\n' := by
    induction keptLines with
    | nil => exact .nil
    | cons line rest ih =>
      rw [List.forall_mem_cons] at h
      obtain ⟨⟨hline, hlast⟩, hrest⟩ := h
      have hinner : line.IsChain fun a b => a = '\r' → b ≠ '\n' := by
        refine List.Pairwise.isChain (List.pairwise_of_forall_mem_list ?_)
        intro a _ b hb _ heq
        exact hline (heq ▸ hb)
      rw [List.flatMap_cons, List.isChain_append, List.isChain_append]
      refine ⟨⟨hinner, List.isChain_singleton _, ?_⟩, ih hrest, ?_⟩
      · intro a ha b _ hcr
        exact absurd (hcr ▸ ha) hlast
      · intro a ha b _ hcr
        simp [hcr] at ha
  apply splitOnce_eq_none
  intro hinfix
  have hcrlf : ['\r', '\n'].IsChain fun a b => a = '\r' → b ≠ '\n' :=
    hchain.infix ((List.prefix_append crlf crlf).isInfix.trans hinfix)
  simp at hcrlf

/-- **The first empty line** is the one after the headers. -/
theorem splitOnce_blank {headers : List (List Char)} (hne : headers ≠ [])
    (h : ∀ line ∈ headers, '\n' ∉ line ∧ line ≠ []) (rest : List Char) :
    splitOnce ['\n', '\n'] (headers.flatMap (· ++ ['\n']) ++ '\n' :: rest) =
      some (join ['\n'] headers, rest) := by
  induction headers with
  | nil => exact absurd rfl hne
  | cons line headers ih =>
    rw [List.forall_mem_cons] at h
    obtain ⟨⟨hline, -⟩, hrest⟩ := h
    cases headers with
    | nil =>
      have htext : [line].flatMap (· ++ ['\n']) ++ '\n' :: rest = line ++ (['\n', '\n'] ++ rest) := by
        simp
      rw [htext, splitOnce_skip hline, splitOnce_here]
      simp [join]
    | cons next headers =>
      obtain ⟨c, cs, rfl⟩ := List.exists_cons_of_ne_nil (hrest next (by simp)).2
      have hc : c ≠ '\n' := by
        intro heq
        have hnext : '\n' ∉ c :: cs := (hrest (c :: cs) (by simp)).1
        exact hnext (by simp [heq])
      have hnext := ih (by simp) hrest
      rw [List.flatMap_cons, List.append_assoc, List.append_assoc, splitOnce_skip hline,
        List.singleton_append]
      have hno : ¬ ['\n', '\n'].isPrefixOf
          ('\n' :: (((c :: cs) :: headers).flatMap (· ++ ['\n']) ++ '\n' :: rest)) = true := by
        simp [Ne.symm hc]
      rw [splitOnce, if_neg hno, hnext]
      simp [join]

variable (X fromEmail rcpt subject body) in
/-- **The headers are cut from the body**, whatever the body looks like. -/
theorem splitMessage_receivedText (hfrom : Clean fromEmail) :
    splitMessage (receivedText X fromEmail rcpt subject body) =
      (join ['\n'] (messageHeaders X fromEmail rcpt subject), receivedBody body) := by
  have hnone : splitOnce (crlf ++ crlf) (receivedText X fromEmail rcpt subject body) = none := by
    have hlines : receivedText X fromEmail rcpt subject body =
        (messageHeaders X fromEmail rcpt subject ++ [] :: (body.splitOn '\n').map bareLine).flatMap
          (· ++ ['\n']) := by
      simp [receivedText, receivedBody, List.flatMap_map]
    rw [hlines]
    apply splitOnce_crlf_eq_none
    intro line hline
    rcases List.mem_append.1 hline with hheader | hrest
    · have hclean := (header_clean hfrom hheader).1
      refine ⟨hclean.not_mem, fun hlast => ?_⟩
      exact absurd (hclean _ (List.mem_of_getLast? hlast)) (by decide)
    · rcases List.mem_cons.1 hrest with rfl | hbody
      · simp
      · obtain ⟨rawLine, hraw, rfl⟩ := List.mem_map.1 hbody
        exact ⟨fun hmem => not_mem_of_mem_splitOn hraw ((List.rdropWhile_prefix _ _).subset hmem),
          getLast?_bareLine rawLine⟩
  unfold splitMessage
  rw [hnone, receivedText, splitOnce_blank (by simp [messageHeaders])]
  intro line hline
  exact ⟨(header_clean hfrom hline).1.not_mem, (header_clean hfrom hline).2.1⟩

/-! ## The headers -/

theorem splitOnce_header {name : List Char} (h : ':' ∉ name) (value : List Char) :
    splitOnce [':'] (name ++ ": ".toList ++ value) = some (name, ' ' :: value) := by
  have htext : name ++ ": ".toList ++ value = name ++ ([':'] ++ ' ' :: value) := by simp
  rw [htext, splitOnce_skip h, splitOnce_here]
  simp

/-- A header line with the name is the one that is found. -/
theorem headerIn_here {name : List Char} (h : ':' ∉ name) (htrim : trimChars name = name)
    (value : List Char) (rest : List (List Char)) :
    headerIn name ((name ++ ": ".toList ++ value) :: rest) = some (trimChars value) := by
  have hspace : trimChars (' ' :: value) = trimChars value := by
    unfold trimChars
    rw [List.dropWhile_cons_of_pos (by decide)]
  rw [headerIn, splitOnce_header h]
  simp [htrim, eqIgnoreAsciiCase, hspace]

/-- A header line with another name is passed over. -/
theorem headerIn_other {name other : List Char} (h : ':' ∉ other) (htrim : trimChars other = other)
    (hname : eqIgnoreAsciiCase other name = false) (value : List Char) (rest : List (List Char)) :
    headerIn name ((other ++ ": ".toList ++ value) :: rest) = headerIn name rest := by
  rw [headerIn, splitOnce_header h]
  simp [htrim, hname]

variable (X rcpt subject) in
/-- The first lines of the header block. -/
theorem lines_headers (hfrom : Clean fromEmail) : ∃ rest,
    lines (join ['\n'] (messageHeaders X fromEmail rcpt subject)) =
      ("From".toList ++ ": ".toList ++ headerSafe fromEmail) ::
      ("To".toList ++ ": ".toList ++ headerSafe rcpt) ::
      ("Subject".toList ++ ": ".toList ++ headerSafe subject) :: rest := by
  refine ⟨lines (join ['\n'] ((messageHeaders X fromEmail rcpt subject).drop 3)), ?_⟩
  have hclean {line : List Char} (h : line ∈ messageHeaders X fromEmail rcpt subject) :
      Clean line := (header_clean hfrom h).1
  have hjoin : join ['\n'] (messageHeaders X fromEmail rcpt subject) =
      ("From: ".toList ++ headerSafe fromEmail) ++ '\n' ::
        (("To: ".toList ++ headerSafe rcpt) ++ '\n' ::
          (("Subject: ".toList ++ headerSafe subject) ++ '\n' ::
            join ['\n'] ((messageHeaders X fromEmail rcpt subject).drop 3))) := by
    simp [messageHeaders, join]
  rw [hjoin, lines_cons (hclean (by simp [messageHeaders])),
    lines_cons (hclean (by simp [messageHeaders])), lines_cons (hclean (by simp [messageHeaders]))]
  rfl

/-- **The message the catcher makes of the text**: the headers are those that were given,
and the body is the one that was sent. -/
theorem parseEmail_receivedText (hfrom : Clean fromEmail) (hrcpt : Clean rcpt)
    (hsubject : Clean subject) (id : List Char) (timestamp : ℤ) (envelopeFrom : List Char)
    (rcpts : List (List Char)) :
    parseEmail id timestamp envelopeFrom rcpts (receivedText X fromEmail rcpt subject body) =
      ⟨id, trimChars fromEmail, trimChars rcpt, trimChars subject, receivedBody body, timestamp⟩ := by
  obtain ⟨rest, hlines⟩ := lines_headers X rcpt subject hfrom
  have hvalue (name : List Char) :
      headerValue (join ['\n'] (messageHeaders X fromEmail rcpt subject)) name =
        headerIn name (("From".toList ++ ": ".toList ++ headerSafe fromEmail) ::
          ("To".toList ++ ": ".toList ++ headerSafe rcpt) ::
          ("Subject".toList ++ ": ".toList ++ headerSafe subject) :: rest) := by
    rw [headerValue, hlines]
  unfold parseEmail
  simp only [splitMessage_receivedText X fromEmail rcpt subject body hfrom, hvalue]
  rw [headerIn_here (by decide) (by decide), headerIn_other (by decide) (by decide) (by decide),
    headerIn_here (by decide) (by decide), headerIn_other (by decide) (by decide) (by decide),
    headerIn_other (by decide) (by decide) (by decide), headerIn_here (by decide) (by decide),
    headerSafe_of_clean hfrom, headerSafe_of_clean hrcpt, headerSafe_of_clean hsubject]
  rfl

end Cctf
