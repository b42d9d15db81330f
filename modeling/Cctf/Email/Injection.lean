import Cctf.Email.Script

/-!
# Command injection

Every command should be one line, so that a server that reads line by line sees the
commands the client means.

* `flushed`, `unflushed` — the texts written up to each flush, and since the last.
* `OneLine`, `NoInjection` — a protocol line, and what the server should see.
* `flushed_fullScript` — the texts of the script: the commands, the message, and QUIT.
* `no_injection_iff` — **commands are single lines exactly when the EHLO name, the sender
  and the recipient have no line breaks**.
* `recipient_injected` — a recipient that adds another.
-/

namespace Cctf

open Text Program SmtpSenderClient

/-! ## What the server sees -/

/-- The texts written up to each flush; `pending` has been written before. -/
def flushedFrom (pending : List Char) : List Item → List (List Char)
  | [] => []
  | .text _ text :: rest => flushedFrom (pending ++ text) rest
  | .flush _ :: rest => pending :: flushedFrom [] rest
  | .secured :: rest => flushedFrom pending rest

/-- The text written since the last flush. -/
def unflushedFrom (pending : List Char) : List Item → List Char
  | [] => pending
  | .text _ text :: rest => unflushedFrom (pending ++ text) rest
  | .flush _ :: rest => unflushedFrom [] rest
  | .secured :: rest => unflushedFrom pending rest

def flushed (items : List Item) : List (List Char) := flushedFrom [] items

def unflushed (items : List Item) : List Char := unflushedFrom [] items

/-- One protocol line: CRLF at its end and no other line break. -/
def OneLine (text : List Char) : Prop := ∃ line, text = line ++ crlf ∧ Clean line

/-- The client writes its commands as single lines: of the texts that are flushed one at a
time, the one after the commands is the message. -/
structure NoInjection (commands : List (List Char)) (items : List Item) : Prop where
  /-- A text that is not the message is one line. -/
  one_line : ∀ i text, (flushed items)[i]? = some text → i ≠ commands.length → OneLine text
  /-- A text that a failing call leaves unfinished is the beginning of one. -/
  unfinished : (flushed items).length ≠ commands.length → ∃ rest, OneLine (unflushed items ++ rest)
  /-- The lines before the message are the commands, up to where the client has come. -/
  seen : Lines.complete '\n' ((flushed items).take commands.length).flatten =
    (commands.take (flushed items).length).map (· ++ crlf)

/-! ## Texts of a script -/

theorem flushedFrom_append (pending : List Char) (items rest : List Item) :
    flushedFrom pending (items ++ rest) =
      flushedFrom pending items ++ flushedFrom (unflushedFrom pending items) rest := by
  induction items generalizing pending with
  | nil => rfl
  | cons item items ih =>
    cases item with
    | text stream text => exact ih (pending ++ text)
    | flush stream =>
      show pending :: flushedFrom [] (items ++ rest) = pending :: _
      rw [ih]
      rfl
    | secured => exact ih pending

theorem unflushedFrom_append (pending : List Char) (items rest : List Item) :
    unflushedFrom pending (items ++ rest) = unflushedFrom (unflushedFrom pending items) rest := by
  induction items generalizing pending with
  | nil => rfl
  | cons item items ih =>
    cases item with
    | text stream text => exact ih (pending ++ text)
    | flush stream => exact ih []
    | secured => exact ih pending

/-- What is pending is the beginning of the next text that is flushed. -/
theorem pending_prefix (pending : List Char) (rest : List Item)
    (h : unflushedFrom pending rest = []) :
    pending = [] ∨ ∃ text texts, flushedFrom pending rest = text :: texts ∧ pending <+: text := by
  induction rest generalizing pending with
  | nil => exact .inl h
  | cons item rest ih =>
    cases item with
    | text stream text =>
      rcases ih (pending ++ text) h with hnil | ⟨next, texts, hnext, hpre⟩
      · exact .inl (List.append_eq_nil_iff.1 hnil).1
      · exact .inr ⟨next, texts, hnext, (List.prefix_append pending text).trans hpre⟩
    | flush stream => exact .inr ⟨pending, _, rfl, List.prefix_refl _⟩
    | secured => exact ih pending h

theorem flushedFrom_lines (stream : SmtpStream) (lines : List (List Char)) (rest : List Item) :
    flushedFrom [] (lines.flatMap (lineItems stream) ++ rest) =
      lines.map (· ++ crlf) ++ flushedFrom [] rest := by
  induction lines with
  | nil => rfl
  | cons line lines ih =>
    rw [List.flatMap_cons, List.append_assoc, List.map_cons, List.cons_append, ← ih]
    rfl

theorem unflushedFrom_lines (stream : SmtpStream) (lines : List (List Char)) (rest : List Item) :
    unflushedFrom [] (lines.flatMap (lineItems stream) ++ rest) = unflushedFrom [] rest := by
  induction lines with
  | nil => rfl
  | cons line lines ih =>
    rw [List.flatMap_cons, List.append_assoc, ← ih]
    rfl

variable (X : Crates) (c : SmtpSenderClient) (rcpt subject body : List Char)

/-- The texts up to the stream of the message. -/
theorem flushedFrom_front (rest : List Item) :
    flushedFrom [] (lineItems .plain c.ehlo ++ tlsItems c ++ rest) =
      (c.ehlo :: tlsLines c).map (· ++ crlf) ++ flushedFrom [] rest := by
  unfold tlsItems tlsLines
  cases c.tlsMode with
  | none => rfl
  | startTls => rfl

theorem unflushedFrom_front (rest : List Item) :
    unflushedFrom [] (lineItems .plain c.ehlo ++ tlsItems c ++ rest) = unflushedFrom [] rest := by
  unfold tlsItems
  cases c.tlsMode with
  | none => rfl
  | startTls => rfl

/-- **The texts of the script**: the commands, the message, and QUIT. -/
theorem flushed_fullScript : flushed (fullScript X c rcpt subject body) =
    (commands X c rcpt).map (· ++ crlf) ++
      [messageText X c rcpt subject body, "QUIT".toList ++ crlf] := by
  have hmessage : flushedFrom [] (messageItems X c rcpt subject body (mailStream c) ++
      lineItems (mailStream c) "QUIT".toList) =
      [messageText X c rcpt subject body, "QUIT".toList ++ crlf] := rfl
  rw [flushed, fullScript, flushedFrom_front, mailItems, flushedFrom_lines, hmessage, commands]
  simp

theorem unflushed_fullScript : unflushed (fullScript X c rcpt subject body) = [] := by
  rw [unflushed, fullScript, unflushedFrom_front, mailItems, unflushedFrom_lines]
  rfl

variable {X c rcpt subject body}

/-- The texts of a beginning are a beginning of the texts. -/
theorem flushed_prefix {items script : List Item} (h : items <+: script) :
    flushed items <+: flushed script := by
  obtain ⟨rest, rfl⟩ := h
  unfold flushed
  rw [flushedFrom_append]
  exact List.prefix_append _ _

/-! ## Single lines -/

theorem oneLine_crlf {line : List Char} : OneLine (line ++ crlf) ↔ Clean line := by
  constructor
  · rintro ⟨line', heq, hclean⟩
    rwa [List.append_cancel_right heq]
  · intro h
    exact ⟨line, rfl, h⟩

/-- The command lines are clean exactly when the arguments in them are. -/
theorem commands_clean_iff : (∀ line ∈ commands X c rcpt, Clean line) ↔
    Clean c.ehloName ∧ Clean c.fromEmail ∧ Clean rcpt := by
  have hgt : Clean ">".toList := by decide
  constructor
  · intro h
    have hehlo : Clean c.ehlo := h _ (by simp [commands])
    have hmail : Clean ("MAIL FROM:<".toList ++ c.fromEmail ++ ">".toList) :=
      h _ (by simp [commands, envelopeLines])
    have hto : Clean ("RCPT TO:<".toList ++ rcpt ++ ">".toList) :=
      h _ (by simp [commands, envelopeLines])
    exact ⟨(clean_append.1 hehlo).2, (clean_append.1 (clean_append.1 hmail).1).2,
      (clean_append.1 (clean_append.1 hto).1).2⟩
  · rintro ⟨hname, hfrom, hrcpt⟩
    have hehlo : Clean c.ehlo := clean_append.2 ⟨by decide, hname⟩
    have htls : ∀ line ∈ tlsLines c, Clean line := by
      unfold tlsLines
      cases c.tlsMode with
      | none => simp
      | startTls =>
        simp only [List.forall_mem_cons]
        exact ⟨by decide, hehlo, by simp⟩
    have hlogin : ∀ line ∈ loginLines X c, Clean line := by
      unfold loginLines
      cases c.credentials with
      | none => simp
      | some creds =>
        simp only [List.forall_mem_cons]
        exact ⟨by decide, X.encode_clean _, X.encode_clean _, by simp⟩
    have henvelope : ∀ line ∈ envelopeLines c rcpt, Clean line := by
      simp only [envelopeLines, List.forall_mem_cons]
      exact ⟨clean_append.2 ⟨clean_append.2 ⟨by decide, hfrom⟩, hgt⟩,
        clean_append.2 ⟨clean_append.2 ⟨by decide, hrcpt⟩, hgt⟩, by decide, by simp⟩
    intro line hline
    simp only [commands, List.cons_append, List.mem_cons, List.mem_append] at hline
    rcases hline with rfl | (htlsLine | hloginLine) | henvelopeLine
    · exact hehlo
    · exact htls line htlsLine
    · exact hlogin line hloginLine
    · exact henvelope line henvelopeLine

/-- A text of the script that is not the message is a command. -/
theorem text_of_script {i : ℕ} {text : List Char}
    (h : (flushed (fullScript X c rcpt subject body))[i]? = some text)
    (hne : i ≠ (commands X c rcpt).length) :
    ∃ line, text = line ++ crlf ∧ (line ∈ commands X c rcpt ∨ line = "QUIT".toList) := by
  rw [flushed_fullScript] at h
  rcases Nat.lt_or_ge i (commands X c rcpt).length with hlt | hge
  · rw [List.getElem?_append_left (by simpa using hlt), List.getElem?_map] at h
    obtain ⟨line, hline, rfl⟩ := Option.map_eq_some_iff.1 h
    exact ⟨line, rfl, .inl (List.mem_of_getElem? hline)⟩
  · rw [List.getElem?_append_right (by simpa using hge), List.length_map] at h
    obtain ⟨j, hj⟩ : ∃ j, i - (commands X c rcpt).length = j + 1 :=
      ⟨i - (commands X c rcpt).length - 1, by omega⟩
    rw [hj, List.getElem?_cons_succ] at h
    obtain rfl : "QUIT".toList ++ crlf = text := by
      have hmem : text ∈ ["QUIT".toList ++ crlf] := List.mem_of_getElem? h
      exact (List.mem_singleton.1 hmem).symm
    exact ⟨_, rfl, .inr rfl⟩

/-- **Clean commands are seen as they are meant**, however far the client gets. -/
theorem noInjection_of_clean (h : ∀ line ∈ commands X c rcpt, Clean line) {items : List Item}
    (hitems : items <+: fullScript X c rcpt subject body) :
    NoInjection (commands X c rcpt) items := by
  have htext {i : ℕ} {text : List Char}
      (hi : (flushed (fullScript X c rcpt subject body))[i]? = some text)
      (hne : i ≠ (commands X c rcpt).length) : OneLine text := by
    obtain ⟨line, rfl, hmem | rfl⟩ := text_of_script hi hne
    · exact oneLine_crlf.2 (h line hmem)
    · exact oneLine_crlf.2 (by decide)
  obtain ⟨texts, htexts⟩ := flushed_prefix hitems
  refine ⟨fun i text hi hne => ?_, fun hne => ?_, ?_⟩
  · refine htext ?_ hne
    have hlt : i < (flushed items).length := (List.getElem?_eq_some_iff.1 hi).1
    rw [← htexts, List.getElem?_append_left hlt]
    exact hi
  · obtain ⟨rest, hrest⟩ := hitems
    have hunflushed : unflushedFrom (unflushed items) rest = [] := by
      rw [unflushed, ← unflushedFrom_append, hrest]
      exact unflushed_fullScript X c rcpt subject body
    rcases pending_prefix _ rest hunflushed with hnil | ⟨text, next, hflushed, tail, htail⟩
    · exact ⟨crlf, [], by simp [hnil], by simp [Clean]⟩
    · refine ⟨tail, ?_⟩
      rw [htail]
      refine htext ?_ hne
      rw [← hrest, flushed, flushedFrom_append]
      show (flushed items ++ flushedFrom (unflushed items) rest)[_]? = _
      rw [hflushed, List.getElem?_append_right (le_refl _), Nat.sub_self, List.getElem?_cons_zero]
  · have htake : (flushed items).take (commands X c rcpt).length =
        ((commands X c rcpt).take (flushed items).length).map (· ++ crlf) := by
      have hall : flushed items = (flushed (fullScript X c rcpt subject body)).take
          (flushed items).length := by rw [← htexts, List.take_left]
      have hcommands : (flushed (fullScript X c rcpt subject body)).take (commands X c rcpt).length =
          (commands X c rcpt).map (· ++ crlf) := by
        rw [flushed_fullScript]
        exact List.take_left' (by simp)
      rw [List.map_take, ← hcommands, List.take_take, Nat.min_comm, ← List.take_take, ← hall]
    rw [htake, ← List.flatMap_def]
    exact complete_crlf fun line hline => (h line (List.mem_of_mem_take hline)).not_mem

/-! ## The theorem -/

variable (X c rcpt subject body) in
/-- When every run writes its commands as single lines, the commands are clean. -/
theorem clean_of_noInjection (hrefused : ¬ (c.credentials.isSome = true ∧ c.tlsMode = .none))
    (h : ∀ fuel evs res, Makes anyAnswer (c.sendEmail X fuel rcpt subject body).run evs res →
      NoInjection (commands X c rcpt) (said evs)) :
    ∀ line ∈ commands X c rcpt, Clean line := by
  obtain ⟨evs, hmakes, hsaid⟩ := sendEmail_returns X rcpt subject body hrefused
  have hscript : said evs = fullScript X c rcpt subject body := by
    rw [said, hsaid, script, if_neg hrefused]
  intro line hline
  obtain ⟨i, hi, rfl⟩ := List.mem_iff_getElem.1 hline
  apply oneLine_crlf.1
  refine (h 1 evs _ hmakes).one_line i _ ?_ (by omega)
  rw [hscript, flushed_fullScript, List.getElem?_append_left (by simpa using hi), List.getElem?_map,
    List.getElem?_eq_getElem hi]
  rfl

/-- **No command is injected, whatever the server answers, exactly when** the client refuses
to start, or the EHLO name, the sender and the recipient have no line breaks. -/
theorem no_injection_iff (X : Crates) (c : SmtpSenderClient) (rcpt subject body : List Char) :
    (∀ fuel evs res, Makes anyAnswer (c.sendEmail X fuel rcpt subject body).run evs res →
      NoInjection (commands X c rcpt) (said evs)) ↔
    (c.credentials.isSome = true ∧ c.tlsMode = .none) ∨
      (Clean c.ehloName ∧ Clean c.fromEmail ∧ Clean rcpt) := by
  constructor
  · intro h
    by_cases hrefused : c.credentials.isSome = true ∧ c.tlsMode = .none
    · exact .inl hrefused
    · exact .inr (commands_clean_iff.1 (clean_of_noInjection X c rcpt subject body hrefused h))
  · intro h fuel evs res hmakes
    have hbegins : said evs <+: script X c rcpt subject body :=
      sendEmail_begins X c rcpt subject body fuel evs res hmakes
    unfold script at hbegins
    split at hbegins
    · rename_i hrefused
      rw [List.prefix_nil.1 hbegins]
      refine ⟨by simp [flushed, flushedFrom], fun _ => ⟨crlf, [], rfl, by simp [Clean]⟩, ?_⟩
      simp [flushed, flushedFrom, Lines.complete, Lines.completeFrom]
    · rename_i hrefused
      exact noInjection_of_clean (commands_clean_iff.2 (h.resolve_left hrefused)) hbegins

/-- A recipient with a line break in it: the server is told of a second recipient, and not
every run writes single lines. -/
theorem recipient_injected :
    (∃ evs, Makes anyAnswer ((SmtpSenderClient.new "127.0.0.1".toList 25 "noreply@cctf.rs".toList).sendEmail
        Crates.sample 1 "captain@chordjack.dev>\r\nRCPT TO:<spy@chordjack.dev".toList [] []).run evs
          (.ok ()) ∧
      Lines.complete '\n' ((flushed (said evs)).take 4).flatten =
        ["EHLO localhost\r\n".toList, "MAIL FROM:<noreply@cctf.rs>\r\n".toList,
          "RCPT TO:<captain@chordjack.dev>\r\n".toList, "RCPT TO:<spy@chordjack.dev>\r\n".toList,
          "DATA\r\n".toList]) ∧
    ¬ ∀ fuel evs res,
      Makes anyAnswer ((SmtpSenderClient.new "127.0.0.1".toList 25 "noreply@cctf.rs".toList).sendEmail
        Crates.sample fuel "captain@chordjack.dev>\r\nRCPT TO:<spy@chordjack.dev".toList [] []).run evs
          res →
        NoInjection (commands Crates.sample
          (SmtpSenderClient.new "127.0.0.1".toList 25 "noreply@cctf.rs".toList)
          "captain@chordjack.dev>\r\nRCPT TO:<spy@chordjack.dev".toList) (said evs) := by
  have hopen : ¬ ((SmtpSenderClient.new "127.0.0.1".toList 25
      "noreply@cctf.rs".toList).credentials.isSome = true ∧ (SmtpSenderClient.new "127.0.0.1".toList 25
      "noreply@cctf.rs".toList).tlsMode = .none) := by decide
  constructor
  · obtain ⟨evs, hmakes, hsaid⟩ := sendEmail_returns Crates.sample
      "captain@chordjack.dev>\r\nRCPT TO:<spy@chordjack.dev".toList [] [] hopen
    refine ⟨evs, hmakes, ?_⟩
    rw [said, hsaid, script, if_neg hopen, flushed_fullScript, List.take_left' (by decide)]
    decide
  · intro h
    have hclean := clean_of_noInjection _ _ _ _ _ hopen h
    exact absurd (commands_clean_iff.1 hclean).2.2 (by decide)

end Cctf
