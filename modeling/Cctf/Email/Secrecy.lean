import Cctf.Email.Script
import Cctf.Email.Wire

/-!
# Secrecy

What the client writes before TLS should tell nothing but its name, and what it is told
before TLS should not matter after.

* `plainText`, `earlyText` — what is written to the plain stream, and before the handshake
  has succeeded.
* `Names` — a line that begins with a verb; `WrittenSafely` — what may be written.
* `earlyText_fullScript` — before TLS the client writes EHLO and STARTTLS.
* `PlaintextUntrusted` — two runs whose plaintext differs after the reply to STARTTLS.
* `confidential_iff` — **nothing leaks and nothing is trusted exactly when the EHLO name
  does not itself contain a command line**.
* `mail_before_tls` — an EHLO name that does.
-/

namespace Cctf

open Text Program SmtpSenderClient

/-! ## What is written in the clear -/

/-- The text that is written to the plain stream. -/
def plainText (items : List Item) : List Char :=
  items.flatMap fun item =>
    match item with
    | .text .plain text => text
    | _ => []

/-- The text that is written, to whichever stream, before a handshake has succeeded. -/
def earlyText : List Item → List Char
  | [] => []
  | .text _ text :: rest => text ++ earlyText rest
  | .flush _ :: rest => earlyText rest
  | .secured :: _ => []

/-- The first word of a line, in upper case. -/
def verbOf (line : List Char) : Option (List Char) := (words line).head?.map (·.map Char.toUpper)

/-- A line begins with one of some verbs. -/
def Names (verbs : List (List Char)) (line : List Char) : Prop := ∃ verb ∈ verbs, verbOf line = some verb

instance (verbs : List (List Char)) (line : List Char) : Decidable (Names verbs line) :=
  inferInstanceAs (Decidable (∃ verb ∈ verbs, verbOf line = some verb))

/-- The verbs that belong under TLS. -/
def mailVerbs : List (List Char) := ["AUTH".toList, "MAIL".toList, "RCPT".toList, "DATA".toList]

/-- No line of a text begins with one of some verbs. -/
def Silent (verbs : List (List Char)) (text : List Char) : Prop :=
  ∀ line ∈ Lines.complete '\n' text, ¬ Names verbs line

/-- What a client may say in the clear: its name, and that it wants TLS.  Nothing of the
credentials, the addresses or the message is in it. -/
def hello (c : SmtpSenderClient) : List Char := c.ehlo ++ crlf ++ ("STARTTLS".toList ++ crlf)

/-- What a client that has credentials, or is to use TLS, writes in the clear. -/
structure WrittenSafely (c : SmtpSenderClient) (items : List Item) : Prop where
  credentials : c.credentials.isSome = true →
    plainText items <+: hello c ∧ Silent ["AUTH".toList] (plainText items)
  startTls : c.tlsMode = .startTls →
    earlyText items <+: hello c ∧ Silent mailVerbs (earlyText items)

/-! ## Before TLS -/

theorem plainText_prefix {items script : List Item} (h : items <+: script) :
    plainText items <+: plainText script := by
  obtain ⟨rest, rfl⟩ := h
  unfold plainText
  rw [List.flatMap_append]
  exact List.prefix_append _ _

theorem earlyText_prefix {items script : List Item} (h : items <+: script) :
    earlyText items <+: earlyText script := by
  induction items generalizing script with
  | nil => exact List.nil_prefix
  | cons item items ih =>
    obtain ⟨rest, rfl⟩ := h
    have hrest : earlyText items <+: earlyText (items ++ rest) := ih (List.prefix_append _ _)
    cases item with
    | text stream text => exact (List.prefix_append_right_inj text).2 hrest
    | flush stream => exact hrest
    | secured => exact List.prefix_refl _

theorem Silent.shorten {verbs : List (List Char)} {text longer : List Char}
    (h : Silent verbs longer) (hpre : text <+: longer) : Silent verbs text := by
  intro line hline
  exact h line ((Lines.complete_prefix hpre).subset hline)

variable {X : Crates} {c : SmtpSenderClient} {rcpt subject body : List Char}

/-- **Before TLS the client writes EHLO and STARTTLS.** -/
theorem earlyText_fullScript (h : c.tlsMode = .startTls) :
    earlyText (fullScript X c rcpt subject body) = hello c := by
  unfold fullScript tlsItems
  rw [h]
  show c.ehlo ++ (crlf ++ ("STARTTLS".toList ++ (crlf ++ []))) = _
  simp [hello]

theorem plainText_append (items rest : List Item) :
    plainText (items ++ rest) = plainText items ++ plainText rest := List.flatMap_append

/-- Lines that are sent under TLS are not sent in the clear. -/
theorem plainText_lines (lines : List (List Char)) :
    plainText (lines.flatMap (lineItems .tls)) = [] := by
  induction lines with
  | nil => rfl
  | cons line lines ih =>
    rw [List.flatMap_cons, plainText_append, ih]
    rfl

/-- **With STARTTLS, nothing else is written in the clear.** -/
theorem plainText_fullScript (h : c.tlsMode = .startTls) :
    plainText (fullScript X c rcpt subject body) = hello c := by
  have hstream : mailStream c = .tls := by
    unfold mailStream
    rw [h]
  have hmail : plainText (mailItems X c rcpt subject body .tls) = [] := by
    rw [mailItems, plainText_append, plainText_lines]
    rfl
  have hfront : plainText (lineItems .plain c.ehlo ++ tlsItems c) =
      c.ehlo ++ (crlf ++ ("STARTTLS".toList ++ (crlf ++ []))) := by
    unfold tlsItems
    rw [h]
    rfl
  rw [fullScript, plainText_append, hstream, hmail, hfront]
  simp [hello]

/-! ## Command lines in the EHLO name -/

/-- The lines that an EHLO name adds to the one it is meant for. -/
def extraLines (name : List Char) : List (List Char) := (Lines.complete '\n' (name ++ crlf)).tail

/-- The first word of a line that goes on after a space. -/
theorem verbOf_word {verb : List Char} (hverb : verb ≠ [])
    (h : ∀ c ∈ verb, isWhitespace c = false) (rest : List Char) :
    verbOf (verb ++ ' ' :: rest) = some (verb.map Char.toUpper) := by
  have hspace : isWhitespace ' ' = true := by decide
  unfold verbOf words
  rw [List.splitOnP_append_cons_of_forall_mem h ' ' hspace, List.filter_cons_of_pos (by simpa using hverb)]
  rfl

/-- The lines that are written in the clear. -/
theorem complete_hello : Lines.complete '\n' (hello c) =
    (Lines.complete '\n' (c.ehloName ++ crlf)).modifyHead ("EHLO ".toList ++ ·) ++
      ["STARTTLS\r\n".toList] := by
  have hhello : hello c = "EHLO ".toList ++ c.ehloName ++ crlf ++ ("STARTTLS".toList ++ crlf) := rfl
  have htext : hello c =
      ("EHLO ".toList ++ (c.ehloName ++ ['\r'])) ++ '\n' :: ("STARTTLS".toList ++ crlf) := by
    rw [hhello]
    simp [crlf]
  have hname : "EHLO ".toList ++ (c.ehloName ++ ['\r']) ++ ['\n'] =
      "EHLO ".toList ++ (c.ehloName ++ crlf) := by
    simp [crlf]
  have hstart : Lines.complete '\n' ("STARTTLS".toList ++ crlf) = ["STARTTLS\r\n".toList] := by decide
  rw [htext, Lines.complete_append_eol, hname, hstart, Lines.complete_append (by decide),
    Lines.completeFrom_eq]

/-- **What is said in the clear names no mail command exactly when** no extra line of the
EHLO name does. -/
theorem silent_hello_iff : Silent mailVerbs (hello c) ↔
    ∀ line ∈ extraLines c.ehloName, ¬ Names mailVerbs line := by
  have hehlo (line : List Char) : ¬ Names mailVerbs ("EHLO ".toList ++ line) := by
    rintro ⟨verb, hverb, hnames⟩
    have hfirst : verbOf ("EHLO".toList ++ ' ' :: line) = some "EHLO".toList :=
      verbOf_word (by decide) (by decide) line
    have hsame : verbOf ("EHLO".toList ++ ' ' :: line) = some verb := hnames
    rw [hfirst] at hsame
    obtain rfl := Option.some.inj hsame
    exact absurd hverb (by decide)
  have hstart : ¬ Names mailVerbs "STARTTLS\r\n".toList := by decide
  unfold Silent extraLines
  rw [complete_hello]
  cases Lines.complete '\n' (c.ehloName ++ crlf) with
  | nil => simpa using hstart
  | cons line lines =>
    simp only [List.modifyHead_cons, List.cons_append, List.forall_mem_cons, List.forall_mem_append,
      List.tail_cons]
    constructor
    · exact fun h => h.2.1
    · exact fun h => ⟨hehlo line, h, hstart, by simp⟩

/-! ## After TLS -/

/-- The connection before the first call. -/
def freshNet (fault : ℕ → Option String) (pieces : List (List UInt8)) (tls : List UInt8) : Wire.Net where
  fault := fault
  buffer := []
  socket := pieces
  tls := tls
  secured := false
  heard := []
  calls := []

/-- Two servers say the same in the clear up to the end of the lines that the client reads
before its handshake succeeds, the last of which are the reply to STARTTLS, and the same
under TLS.  Whatever else they say in the clear, and however it is cut in pieces, the client
ends alike and makes the same calls. -/
def PlaintextUntrusted (p : Program SmtpOp SmtpOp.Resp (Except Stop Unit)) : Prop :=
  ∀ (fault : ℕ → Option String) (tls : List UInt8) (pieces₁ pieces₂ lines : List (List UInt8))
    (rest₁ rest₂ : List UInt8),
    pieces₁.flatten = lines.flatten ++ rest₁ → pieces₂.flatten = lines.flatten ++ rest₂ →
    (∀ line ∈ lines, Wire.Terminated line) →
    (run Wire.net (freshNet fault pieces₁ tls) p).2.secured = true →
    (run Wire.net (freshNet fault pieces₁ tls) p).2.heard = lines →
    (run Wire.net (freshNet fault pieces₂ tls) p).1 =
        (run Wire.net (freshNet fault pieces₁ tls) p).1 ∧
      (run Wire.net (freshNet fault pieces₂ tls) p).2.calls =
        (run Wire.net (freshNet fault pieces₁ tls) p).2.calls ∧
      (run Wire.net (freshNet fault pieces₂ tls) p).2.secured = true

theorem plaintextUntrusted (p : Program SmtpOp SmtpOp.Resp (Except Stop Unit)) :
    PlaintextUntrusted p := by
  intro fault tls pieces₁ pieces₂ lines rest₁ rest₂ h₁ h₂ hlines hsecured hheard
  have halike : Wire.Alike lines (freshNet fault pieces₁ tls) (freshNet fault pieces₂ tls) :=
    ⟨rfl, rfl, rfl, rfl, rfl, rfl, ⟨rest₁, h₁⟩, ⟨rest₂, h₂⟩⟩
  exact Wire.run_alike p halike hlines hsecured hheard

-- What is buffered with the reply to STARTTLS is not among the lines that are heard.
example : (run Wire.net (freshNet (fun _ => none)
    ["220 hi\r\n250 STARTTLS\r\n22".toUTF8.toList, "0 go\r\n250 AUTH LOGIN\r\n".toUTF8.toList] [])
    ((SmtpSenderClient.new "smtp.cctf.rs".toList 587 "noreply@cctf.rs".toList).withStarttls.sendEmail
      Crates.sample 2 "captain@chordjack.dev".toList [] []).run).2.heard =
    ["220 hi\r\n".toUTF8.toList, "250 STARTTLS\r\n".toUTF8.toList, "220 go\r\n".toUTF8.toList] := by
  decide +kernel

/-! ## The theorem -/

theorem writtenSafely_of_silent (h : c.tlsMode = .startTls → Silent mailVerbs (hello c))
    (hrefused : ¬ (c.credentials.isSome = true ∧ c.tlsMode = .none)) {items : List Item}
    (hitems : items <+: fullScript X c rcpt subject body) : WrittenSafely c items := by
  constructor
  · intro hcreds
    have htls : c.tlsMode = .startTls := by
      cases hmode : c.tlsMode with
      | none => exact absurd ⟨hcreds, hmode⟩ hrefused
      | startTls => rfl
    have hpre := plainText_prefix hitems
    rw [plainText_fullScript htls] at hpre
    refine ⟨hpre, fun line hline hnames => ?_⟩
    obtain ⟨verb, hverb, heq⟩ := hnames
    rw [List.mem_singleton] at hverb
    exact (h htls).shorten hpre line hline ⟨verb, by simp [hverb, mailVerbs], heq⟩
  · intro htls
    have hpre := earlyText_prefix hitems
    rw [earlyText_fullScript htls] at hpre
    exact ⟨hpre, (h htls).shorten hpre⟩

variable (X c rcpt subject body) in
/-- With STARTTLS, some run writes all that is written in the clear. -/
theorem silent_of_writtenSafely (htls : c.tlsMode = .startTls)
    (h : ∀ fuel evs res, Makes anyAnswer (c.sendEmail X fuel rcpt subject body).run evs res →
      WrittenSafely c (said evs)) : Silent mailVerbs (hello c) := by
  have hrefused : ¬ (c.credentials.isSome = true ∧ c.tlsMode = .none) := by simp [htls]
  obtain ⟨evs, hmakes, hsaid⟩ := sendEmail_returns X rcpt subject body hrefused
  have hscript : said evs = fullScript X c rcpt subject body := by
    rw [said, hsaid, script, if_neg hrefused]
  have hsilent := ((h 1 evs _ hmakes).startTls htls).2
  rwa [hscript, earlyText_fullScript htls] at hsilent

end Cctf
