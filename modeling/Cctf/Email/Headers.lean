import Cctf.Email.Message

/-!
# The header block

The client writes seven header lines, an empty line and the body.  What the caller passes
reaches the first three lines through `header_safe`, and the line of the `Message-ID` as the
domain of the sender's address, which nothing cleans.

* `headerNames`, `Headed` — a text with such a header block before a body.
* `countP_isEol_flatMap` — the line endings of lines that are put one after the other.
* `headed_iff` — **the message has its header block exactly when the domain has no line
  ending**.
* `header_injected` — a sender that adds a header of its own.
-/

namespace Cctf

open Text

/-- The names of the headers, in their order. -/
def headerNames : List (List Char) :=
  ["From".toList, "To".toList, "Subject".toList, "Date".toList, "Message-ID".toList,
    "MIME-Version".toList, "Content-Type".toList]

/-- The body as it is written. -/
def stuffedBody (body : List Char) : List Char :=
  (body.splitOn '\n').flatMap fun rawLine => stuffLine rawLine ++ crlf

/-- The text is one line for each name, in this order, an empty line, and the rest.  No line
has a line ending inside, and none is empty, so the empty line is the first. -/
def Headed (text rest : List Char) : Prop :=
  ∃ lines, text = lines.flatMap (· ++ crlf) ++ crlf ++ rest ∧
    List.Forall₂ (fun name line => (name ++ ": ".toList) <+: line ∧ Clean line) headerNames lines

section

variable {X : Crates} {fromEmail rcpt subject body : List Char}

theorem buildMessage_stuffedBody : buildMessage X fromEmail rcpt subject body =
    (messageHeaders X fromEmail rcpt subject).flatMap (· ++ crlf) ++ crlf ++ stuffedBody body := rfl

/-! ## Counting line endings -/

theorem clean_iff_countP {text : List Char} : Clean text ↔ text.countP isEol = 0 := by
  rw [List.countP_eq_zero]
  simp [Clean]

/-- **The line endings of lines**: two behind each, and those inside. -/
theorem countP_isEol_flatMap (lines : List (List Char)) :
    (lines.flatMap (· ++ crlf)).countP isEol =
      (lines.map (List.countP isEol)).sum + 2 * lines.length := by
  induction lines with
  | nil => rfl
  | cons line lines ih =>
    have hcrlf : crlf.countP isEol = 2 := by decide
    rw [List.flatMap_cons, List.countP_append, List.countP_append, hcrlf, ih, List.map_cons,
      List.sum_cons, List.length_cons]
    omega

/-- Lines that make up the same text as as many clean lines are clean. -/
theorem clean_of_flatMap_eq {lines lines' : List (List Char)}
    (h : lines.flatMap (· ++ crlf) = lines'.flatMap (· ++ crlf))
    (hlength : lines.length = lines'.length) (hclean : ∀ line ∈ lines, Clean line) :
    ∀ line ∈ lines', Clean line := by
  have hzero : (lines.map (List.countP isEol)).sum = 0 := by
    refine List.sum_eq_zero_iff_forall_eq_nat.2 fun n hn => ?_
    obtain ⟨line, hline, rfl⟩ := List.mem_map.1 hn
    exact clean_iff_countP.1 (hclean line hline)
  have hcount := congrArg (List.countP isEol) h
  rw [countP_isEol_flatMap, countP_isEol_flatMap, hzero, hlength] at hcount
  intro line hline
  rw [clean_iff_countP]
  exact List.sum_eq_zero_iff_forall_eq_nat.1 (by omega) _ (List.mem_map_of_mem hline)

/-! ## The block -/

/-- A header block has only clean header lines, the one with the domain among them. -/
theorem clean_messageDomain_of_headed
    (h : Headed (buildMessage X fromEmail rcpt subject body) (stuffedBody body)) :
    Clean (messageDomain fromEmail) := by
  obtain ⟨lines, htext, hlines⟩ := h
  rw [buildMessage_stuffedBody] at htext
  have hblock := List.append_cancel_right (List.append_cancel_right htext)
  have hlength : lines.length = (messageHeaders X fromEmail rcpt subject).length :=
    hlines.length_eq.symm
  have hclean : ∀ line ∈ lines, Clean line := by
    intro line hline
    obtain ⟨i, hi, rfl⟩ := List.getElem_of_mem hline
    exact (List.forall₂_iff_get.1 hlines).2 i (hlines.length_eq ▸ hi) hi |>.2
  have hid := clean_of_flatMap_eq hblock.symm hlength hclean
    ("Message-ID: <".toList ++ X.uuid ++ "@".toList ++ messageDomain fromEmail ++ ">".toList)
    (by simp [messageHeaders])
  simp only [clean_append] at hid
  exact hid.1.2

/-- With a clean domain the header lines are as they should be. -/
theorem headed_of_clean (h : Clean (messageDomain fromEmail)) :
    Headed (buildMessage X fromEmail rcpt subject body) (stuffedBody body) := by
  refine ⟨messageHeaders X fromEmail rcpt subject, buildMessage_stuffedBody, ?_⟩
  have hsafe : ∀ (name : List Char) (value : List Char), Clean name →
      Clean (name ++ headerSafe value) := fun _ value hname =>
    clean_append.2 ⟨hname, clean_headerSafe value⟩
  refine .cons ⟨⟨_, rfl⟩, hsafe _ _ (by decide)⟩ (.cons ⟨⟨_, rfl⟩, hsafe _ _ (by decide)⟩
    (.cons ⟨⟨_, rfl⟩, hsafe _ _ (by decide)⟩ (.cons ⟨⟨_, rfl⟩, ?_⟩ (.cons ⟨?_, ?_⟩
      (.cons ⟨⟨_, rfl⟩, by decide⟩ (.cons ⟨⟨_, rfl⟩, by decide⟩ .nil))))))
  · exact clean_append.2 ⟨by decide, X.date_clean⟩
  · exact ⟨"<".toList ++ X.uuid ++ "@".toList ++ messageDomain fromEmail ++ ">".toList, by simp⟩
  · simp only [clean_append]
    exact ⟨⟨⟨⟨by decide, X.uuid_clean⟩, by decide⟩, h⟩, by decide⟩

theorem clean_messageDomain_iff : Clean (messageDomain fromEmail) ↔
    ('@' ∈ fromEmail → Clean (fromEmail.rtakeWhile (· != '@'))) := by
  unfold messageDomain
  by_cases hat : '@' ∈ fromEmail
  · by_cases hempty : fromEmail.rtakeWhile (· != '@') = []
    · rw [if_neg (by simp [hempty]), hempty]
      exact iff_of_true (by decide) fun _ => by decide
    · rw [if_pos ⟨hat, hempty⟩]
      exact ⟨fun h _ => h, fun h => h hat⟩
  · rw [if_neg fun h => hat h.1]
    exact iff_of_true (by decide) fun h => absurd h hat

variable (X fromEmail rcpt subject body) in
/-- **When the message has its header block**: when the sender's address has no line ending
behind its last `@`.  Line endings anywhere else, also in the recipient, the subject and the
body, do no harm. -/
theorem headed_iff :
    Headed (buildMessage X fromEmail rcpt subject body) (stuffedBody body) ↔
      ('@' ∈ fromEmail → Clean (fromEmail.rtakeWhile (· != '@'))) := by
  rw [← clean_messageDomain_iff]
  exact ⟨clean_messageDomain_of_headed, headed_of_clean⟩

end

/-- **A header is injected.**  The sender's domain ends a line and adds a `Bcc` of its own. -/
theorem header_injected :
    ¬ Headed (buildMessage .sample "ctf@example.com\r\nBcc: eve".toList "bob@example.com".toList
      "Welcome".toList "Hello".toList) (stuffedBody "Hello".toList) ∧
    (crlf ++ "Bcc: eve>".toList ++ crlf) <:+: buildMessage .sample
      "ctf@example.com\r\nBcc: eve".toList "bob@example.com".toList "Welcome".toList
      "Hello".toList := by
  refine ⟨fun h => ?_, by decide +kernel⟩
  have hclean := clean_messageDomain_of_headed h
  revert hclean
  decide +kernel

end Cctf
