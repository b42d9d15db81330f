import Cctf.Library.Traces
import Cctf.Services.Email.Client

/-!
# What the client writes

Whatever the server answers, and whichever call fails, the client follows a script that
its configuration and the message fix; the answers only decide how far it gets.

* `anyAnswer`, `Item`, `itemsOf` — any answers at all, and what the calls show of
  themselves.
* `commands`, `script` — the command lines, and everything the client is going to write.
* `sendEmail_begins` — **what is written is a beginning of the script**.
* `sendEmail_returns` — the script is played to its end when the server plays along.
-/

namespace Cctf

open Text Program SmtpStream SmtpSenderClient

/-! ## Items -/

/-- An answer for every call. -/
abbrev Answers : Type := (op : SmtpOp) → op.Resp

/-- Calls are answered in any way. -/
def anyAnswer : Handler SmtpOp SmtpOp.Resp Answers := ⟨fun answers op => answers op, fun s _ => s⟩

/-- What a call shows: text handed to a stream, a flush, or a TLS handshake that
succeeds. -/
inductive Item where
  | text (stream : SmtpStream) (text : List Char)
  | flush (stream : SmtpStream)
  | secured
  deriving DecidableEq, Repr

def itemsOf : SmtpOp × Answers → List Item
  | (.writeAll stream text, _) => [.text stream text]
  | (.flush stream, _) => [.flush stream]
  | (.handshake, answers) =>
    match answers .handshake with
    | .ok _ => [.secured]
    | .error _ => []
  | _ => []

/-- What the calls of a run show, in order. -/
def said (evs : List (SmtpOp × Answers)) : List Item := evs.flatMap itemsOf

/-- The items of a line that is sent. -/
def lineItems (stream : SmtpStream) (line : List Char) : List Item :=
  [.text stream line, .text stream crlf, .flush stream]

/-! ## The script -/

variable (X : Crates) (c : SmtpSenderClient) (rcpt subject body : List Char)

/-- The stream of the message. -/
def mailStream : SmtpStream :=
  match c.tlsMode with
  | .none => .plain
  | .startTls => .tls

/-- The lines from STARTTLS to the second EHLO. -/
def tlsLines : List (List Char) :=
  match c.tlsMode with
  | .none => []
  | .startTls => ["STARTTLS".toList, c.ehlo]

/-- The lines of the login. -/
def loginLines : List (List Char) :=
  match c.credentials with
  | none => []
  | some creds => ["AUTH LOGIN".toList, X.encode creds.username, X.encode creds.password]

/-- The lines of the envelope. -/
def envelopeLines : List (List Char) :=
  ["MAIL FROM:<".toList ++ c.fromEmail ++ ">".toList, "RCPT TO:<".toList ++ rcpt ++ ">".toList,
    "DATA".toList]

/-- The command lines before the message: EHLO, again after STARTTLS, the login, and one
each of MAIL, RCPT and DATA. -/
def commands : List (List Char) :=
  c.ehlo :: tlsLines c ++ loginLines X c ++ envelopeLines c rcpt

/-- The text of the message with the line that ends it. -/
def messageText : List Char := buildMessage X c.fromEmail rcpt subject body ++ '.' :: crlf

/-- What is written to switch to TLS. -/
def tlsItems : List Item :=
  match c.tlsMode with
  | .none => []
  | .startTls => lineItems .plain "STARTTLS".toList ++ .secured :: lineItems .tls c.ehlo

/-- The items of the message. -/
def messageItems (stream : SmtpStream) : List Item :=
  [.text stream (buildMessage X c.fromEmail rcpt subject body), .text stream ('.' :: crlf),
    .flush stream]

/-- What is written once the stream is that of the message. -/
def mailItems (stream : SmtpStream) : List Item :=
  (loginLines X c ++ envelopeLines c rcpt).flatMap (lineItems stream) ++
    (messageItems X c rcpt subject body stream ++ lineItems stream "QUIT".toList)

/-- Everything a client writes that gets through. -/
def fullScript : List Item :=
  lineItems .plain c.ehlo ++ tlsItems c ++ mailItems X c rcpt subject body (mailStream c)

/-! ## Following the script -/

/-- What a program of the client writes, whatever it is answered. -/
abbrev Says {α : Type} (S : List Item) (P : α → Prop) (m : Smtp α) : Prop :=
  Emits anyAnswer itemsOf S P m

/-- What a program of the client can write on its way to a value. -/
abbrev CanSay {α : Type} (S : List Item) (m : Smtp α) (a : α) : Prop :=
  Returns anyAnswer itemsOf S m a

theorem says_smtpCall (wrap : String → EmailError) (op : SmtpOp) {S : List Item}
    (h : ∀ answers, itemsOf (op, answers) = S) : Says S (fun _ => True) (smtpCall wrap op) := by
  rintro evs res ⟨answers, rest, rfl, rfl, -⟩
  have hitems : [(op, answers)].flatMap itemsOf = S := by simp [h]
  rw [hitems]
  exact ⟨List.prefix_refl S, fun _ _ => ⟨rfl, trivial⟩⟩

theorem says_writeAll (stream : SmtpStream) (text : List Char) :
    Says [.text stream text] (fun _ => True) (stream.writeAll text) :=
  says_smtpCall .io (.writeAll stream text) fun _ => rfl

theorem says_flush (stream : SmtpStream) : Says [.flush stream] (fun _ => True) stream.flush :=
  says_smtpCall .io (.flush stream) fun _ => rfl

/-- The handshake shows that it has succeeded. -/
theorem says_handshake : Says [.secured] (fun _ => True) (smtpCall .tls .handshake) := by
  rintro evs res ⟨answers, rest, rfl, rfl, hres⟩
  cases hanswer : answers .handshake with
  | ok u =>
    have hitems : [(SmtpOp.handshake, answers)].flatMap itemsOf = [.secured] := by
      simp [itemsOf, hanswer]
    rw [hitems]
    exact ⟨List.prefix_refl _, fun _ _ => ⟨rfl, trivial⟩⟩
  | error reason =>
    have hitems : [(SmtpOp.handshake, answers)].flatMap itemsOf = [] := by
      simp [itemsOf, hanswer]
    rw [hitems]
    refine ⟨List.nil_prefix, fun a ha => ?_⟩
    rw [show anyAnswer.answer answers .handshake = .error reason from hanswer] at hres
    rw [← hres] at ha
    exact absurd ha (by simp [Except.mapError])

theorem says_check (ok : Prop) [Decidable ok] (e : EmailError) :
    Says [] (fun _ => ok) (check ok e) := by
  unfold check
  split
  · rename_i hok
    exact .pure hok
  · exact .throw _

theorem says_orPanic {α : Type} (x : Option α) : Says [] (fun _ => True) (orPanic x) := by
  cases x with
  | none => exact .throw _
  | some a => exact .pure trivial

/-- Reading a reply shows nothing. -/
theorem says_readReply (fuel : ℕ) (stream : SmtpStream) :
    Says [] (fun _ => True) (stream.readReply fuel) := by
  unfold readReply
  generalize ([] : List (List Char)) = lines
  induction fuel generalizing lines with
  | zero => exact .throw _
  | succ fuel ih =>
    refine Emits.bind (says_smtpCall .io (.readLine stream) fun _ => rfl) fun line _ => ?_
    cases replyLine line with
    | error stop => exact .throw _
    | ok reply =>
      obtain ⟨code, trimmed, isLast⟩ := reply
      cases isLast with
      | true => exact .pure trivial
      | false => exact ih (lines ++ [trimmed])

theorem says_sendLine (stream : SmtpStream) (line : List Char) :
    Says (lineItems stream line) (fun _ => True) (stream.sendLine line) :=
  .bind (says_writeAll stream line) fun _ _ =>
    .bind (says_writeAll stream crlf) fun _ _ => says_flush stream

/-- **A command shows its line**, and nothing else. -/
theorem says_command (fuel : ℕ) (stream : SmtpStream) (line : List Char) (expected : UInt16)
    (phase : String) :
    Says (lineItems stream line) (fun _ => True) (stream.command fuel line expected phase) := by
  refine Emits.bind (T := []) (says_sendLine stream line) fun _ _ => ?_
  refine Emits.bind (S := []) (says_readReply fuel stream) fun reply _ => ?_
  exact Emits.bind (S := []) (says_check _ _) fun _ _ => .pure trivial

theorem says_upgrade (host : List Char) :
    Says [.secured] (fun stream => stream = .tls) (SmtpStream.plain.upgrade host) := by
  refine Emits.bind (S := []) (says_smtpCall .tls .buildTlsConnector fun _ => rfl) fun _ _ => ?_
  refine Emits.bind (S := []) (says_smtpCall .invalidServerName (.serverName host) fun _ => rfl)
    fun _ _ => ?_
  exact Emits.bind (T := []) says_handshake fun _ _ => .pure rfl

variable {X c rcpt subject body}

theorem says_startTls (fuel : ℕ) (caps : List (List Char)) :
    Says (tlsItems c) (fun r => r.1 = mailStream c) (c.startTls fuel .plain caps) := by
  unfold startTls tlsItems mailStream
  cases c.tlsMode with
  | none => exact .pure rfl
  | startTls =>
    refine Emits.bind (S := []) (says_orPanic _) fun supported _ => ?_
    refine Emits.bind (S := []) (says_check _ _) fun _ _ => ?_
    refine Emits.bind (says_command fuel .plain "STARTTLS".toList 220 "STARTTLS") fun _ _ => ?_
    refine Emits.bind (S := [Item.secured]) (says_upgrade c.smtpHost) fun stream hstream => ?_
    subst hstream
    exact Emits.bind (T := []) (says_command fuel .tls c.ehlo 250 "EHLO") fun _ _ => .pure rfl

theorem says_authenticate (fuel : ℕ) (stream : SmtpStream) (caps : List (List Char)) :
    Says ((loginLines X c).flatMap (lineItems stream)) (fun _ => True)
      (c.authenticate X fuel stream caps) := by
  unfold authenticate loginLines
  cases c.credentials with
  | none => exact .pure trivial
  | some creds =>
    refine Emits.bind (S := []) (says_orPanic _) fun supported _ => ?_
    refine Emits.bind (S := []) (says_check _ _) fun _ _ => ?_
    refine Emits.bind (says_command fuel stream "AUTH LOGIN".toList 334 "AUTH") fun _ _ => ?_
    refine Emits.bind (says_command fuel stream (X.encode creds.username) 334 "AUTH username")
      fun _ _ => ?_
    refine Emits.bind (T := []) (says_sendLine stream (X.encode creds.password)) fun _ _ => ?_
    refine Emits.bind (S := []) (says_readReply fuel stream) fun reply _ => ?_
    exact (says_check _ _).imp fun _ _ => trivial

theorem says_sendMessage (stream : SmtpStream) :
    Says (messageItems X c rcpt subject body stream) (fun _ => True)
      (sendMessage stream (buildMessage X c.fromEmail rcpt subject body)) := by
  have hend : endMessage stream (buildMessage X c.fromEmail rcpt subject body) = pure () :=
    if_pos (crlf_suffix_buildMessage X c.fromEmail rcpt subject body)
  unfold sendMessage
  rw [hend]
  exact .bind (says_writeAll stream _) fun _ _ =>
    Emits.bind (S := []) (P := fun _ => True) (.pure trivial) fun _ _ =>
      .bind (says_writeAll stream ('.' :: crlf)) fun _ _ => says_flush stream

theorem begins_dropError {α : Type} {m : Smtp α} {S : List Item}
    (h : Begins anyAnswer itemsOf S m) : Begins anyAnswer itemsOf S (dropError m) := by
  intro evs res hmakes
  obtain ⟨evs₁, evs₂, r, rfl, h₁, rfl, -⟩ := makes_bind.1 hmakes
  rw [List.append_nil]
  exact h evs₁ r h₁

theorem envelope_items (stream : SmtpStream) (rest : List Item) :
    (envelopeLines c rcpt).flatMap (lineItems stream) ++ rest =
      lineItems stream ("MAIL FROM:<".toList ++ c.fromEmail ++ ">".toList) ++
        (lineItems stream ("RCPT TO:<".toList ++ rcpt ++ ">".toList) ++
          (lineItems stream "DATA".toList ++ rest)) := by
  simp [envelopeLines]

theorem transact_begins (fuel : ℕ) (stream : SmtpStream) :
    Begins anyAnswer itemsOf
      ((envelopeLines c rcpt).flatMap (lineItems stream) ++
        (messageItems X c rcpt subject body stream ++ lineItems stream "QUIT".toList))
      (c.transact X fuel stream rcpt subject body) := by
  rw [envelope_items]
  unfold transact
  refine Begins.bind (says_command fuel stream _ 250 "MAIL FROM") fun _ _ => ?_
  refine Begins.bind (says_command fuel stream _ 250 "RCPT TO") fun _ _ => ?_
  refine Begins.bind (says_command fuel stream _ 354 "DATA") fun _ _ => ?_
  refine Begins.bind (says_sendMessage stream) fun _ _ => ?_
  refine Begins.bind (S := []) (says_readReply fuel stream) fun reply _ => ?_
  refine Begins.bind (S := []) (says_check _ _) fun _ _ => ?_
  exact begins_dropError (says_command fuel stream _ 221 "QUIT").begins

theorem mailItems_eq (stream : SmtpStream) : mailItems X c rcpt subject body stream =
    (loginLines X c).flatMap (lineItems stream) ++
      ((envelopeLines c rcpt).flatMap (lineItems stream) ++
        (messageItems X c rcpt subject body stream ++ lineItems stream "QUIT".toList)) := by
  simp [mailItems]

/-- What a client is going to write: nothing when a login is asked for without TLS. -/
def script (X : Crates) (c : SmtpSenderClient) (rcpt subject body : List Char) : List Item :=
  if c.credentials.isSome = true ∧ c.tlsMode = .none then []
  else fullScript X c rcpt subject body

variable (X c rcpt subject body) in
/-- **What is written is a beginning of the script.** -/
theorem sendEmail_begins (fuel : ℕ) : Begins anyAnswer itemsOf (script X c rcpt subject body)
    (c.sendEmail X fuel rcpt subject body) := by
  unfold sendEmail script
  split
  · rename_i hrefused
    have hthrow : check (¬ (c.credentials.isSome = true ∧ c.tlsMode = .none)) .authRequiresTls =
        throw (.err .authRequiresTls) := if_neg (not_not_intro hrefused)
    rw [hthrow]
    exact Begins.bind (S := []) (P := fun _ => False) (.throw _) fun _ hfalse => hfalse.elim
  · unfold fullScript
    rw [mailItems_eq, List.append_assoc]
    refine Begins.bind (S := []) (says_check _ _) fun _ _ => ?_
    refine Begins.bind (S := []) (says_smtpCall .connect (.connect c.smtpHost c.smtpPort)
      fun _ => rfl) fun _ _ => ?_
    refine Begins.bind (S := []) (says_readReply fuel .plain) fun greeting _ => ?_
    refine Begins.bind (S := []) (says_check _ _) fun _ _ => ?_
    refine Begins.bind (says_command fuel .plain c.ehlo 250 "EHLO") fun caps _ => ?_
    refine Begins.bind (says_startTls fuel caps) fun secured hstream => ?_
    rw [hstream]
    exact Begins.bind (says_authenticate fuel _ _) fun _ _ => transact_begins fuel _

/-! ## A server that plays along -/

/-- Every call succeeds, and every line is the same. -/
def answering (line : List Char) : Answers
  | .readLine _ => .ok line
  | .connect _ _ => .ok ()
  | .writeAll _ _ => .ok ()
  | .flush _ => .ok ()
  | .buildTlsConnector => .ok ()
  | .serverName _ => .ok ()
  | .handshake => .ok ()

theorem canSay_smtpCall (wrap : String → EmailError) (op : SmtpOp) (line : List Char)
    {a : op.Answer} (h : answering line op = .ok a) :
    CanSay (itemsOf (op, answering line)) (smtpCall wrap op) a := by
  refine ⟨[(op, answering line)], ⟨answering line, [], rfl, rfl, ?_⟩, by simp⟩
  show (answering line op).mapError _ = _
  rw [h]
  rfl

theorem canSay_check {ok : Prop} [Decidable ok] (h : ok) (e : EmailError) :
    CanSay [] (check ok e) () := by
  unfold check
  rw [if_pos h]
  exact .pure ()

theorem canSay_readReply (stream : SmtpStream) {line trimmed : List Char} {code : UInt16}
    (h : replyLine line = .ok (code, trimmed, true)) :
    CanSay [] (stream.readReply 1) (code, [trimmed]) := by
  refine Returns.bind (S := []) (canSay_smtpCall .io (.readLine stream) line rfl) ?_
  rw [h]
  exact .pure _

theorem canSay_sendLine (stream : SmtpStream) (line : List Char) :
    CanSay (lineItems stream line) (stream.sendLine line) () :=
  Returns.bind (canSay_smtpCall .io (.writeAll stream line) [] rfl)
    (Returns.bind (canSay_smtpCall .io (.writeAll stream crlf) [] rfl)
      (canSay_smtpCall .io (.flush stream) [] rfl))

theorem canSay_command (stream : SmtpStream) (line : List Char) (phase : String)
    {reply trimmed : List Char} {code : UInt16}
    (h : replyLine reply = .ok (code, trimmed, true)) :
    CanSay (lineItems stream line) (stream.command 1 line code phase) [trimmed] :=
  Returns.bind (T := []) (canSay_sendLine stream line)
    (Returns.bind (S := []) (canSay_readReply stream h)
      (Returns.bind (S := []) (canSay_check rfl _) (.pure _)))

theorem canSay_upgrade (host : List Char) :
    CanSay [.secured] (SmtpStream.plain.upgrade host) .tls :=
  Returns.bind (S := []) (canSay_smtpCall .tls .buildTlsConnector [] rfl)
    (Returns.bind (S := []) (canSay_smtpCall .invalidServerName (.serverName host) [] rfl)
      (Returns.bind (S := [Item.secured]) (T := []) (canSay_smtpCall .tls .handshake [] rfl) (.pure _)))

/-- The switch to TLS, when the server offers it. -/
theorem canSay_startTls : ∃ caps, CanSay (tlsItems c)
    (c.startTls 1 .plain ["250 STARTTLS".toList]) (mailStream c, caps) ∧
      (c.tlsMode = .startTls → caps = ["250 AUTH LOGIN".toList]) := by
  unfold startTls tlsItems mailStream
  cases c.tlsMode with
  | none => exact ⟨_, .pure _, by simp⟩
  | startTls =>
    have hsupported : ehloSupports ["250 STARTTLS".toList] "STARTTLS".toList = some true := by decide
    have hready : replyLine "220 \r\n".toList = .ok (220, "220 ".toList, true) := by decide
    have hcaps : replyLine "250 AUTH LOGIN\r\n".toList = .ok (250, "250 AUTH LOGIN".toList, true) := by
      decide
    refine ⟨["250 AUTH LOGIN".toList], ?_, fun _ => rfl⟩
    rw [hsupported]
    refine Returns.bind (S := []) (.pure true) ?_
    refine Returns.bind (S := []) (canSay_check rfl _) ?_
    refine Returns.bind (canSay_command .plain "STARTTLS".toList "STARTTLS" hready) ?_
    refine Returns.bind (S := [Item.secured]) (canSay_upgrade c.smtpHost) ?_
    exact Returns.bind (T := []) (canSay_command .tls c.ehlo "EHLO" hcaps) (.pure _)

/-- The login, when the server offers it. -/
theorem canSay_authenticate (stream : SmtpStream) {caps : List (List Char)}
    (h : c.credentials.isSome = true → caps = ["250 AUTH LOGIN".toList]) :
    CanSay ((loginLines X c).flatMap (lineItems stream)) (c.authenticate X 1 stream caps) () := by
  unfold authenticate loginLines
  cases hcreds : c.credentials with
  | none => exact .pure ()
  | some creds =>
    have hsupported : ehloSupportsAuthLogin ["250 AUTH LOGIN".toList] = some true := by decide
    have hnext : replyLine "334 \r\n".toList = .ok (334, "334 ".toList, true) := by decide
    have hwelcome : replyLine "235 \r\n".toList = .ok (235, "235 ".toList, true) := by decide
    rw [h (by simp [hcreds])]
    show CanSay _ (orPanic (ehloSupportsAuthLogin ["250 AUTH LOGIN".toList]) >>= _) ()
    rw [hsupported]
    refine Returns.bind (S := []) (.pure true) ?_
    refine Returns.bind (S := []) (canSay_check rfl _) ?_
    refine Returns.bind (canSay_command stream "AUTH LOGIN".toList "AUTH" hnext) ?_
    refine Returns.bind (canSay_command stream (X.encode creds.username) "AUTH username" hnext) ?_
    refine Returns.bind (T := []) (canSay_sendLine stream (X.encode creds.password)) ?_
    refine Returns.bind (S := []) (canSay_readReply stream hwelcome) ?_
    exact canSay_check rfl _

theorem canSay_sendMessage (stream : SmtpStream) :
    CanSay (messageItems X c rcpt subject body stream)
      (sendMessage stream (buildMessage X c.fromEmail rcpt subject body)) () := by
  have hend : endMessage stream (buildMessage X c.fromEmail rcpt subject body) = pure () :=
    if_pos (crlf_suffix_buildMessage X c.fromEmail rcpt subject body)
  unfold sendMessage
  rw [hend]
  exact Returns.bind (canSay_smtpCall .io (.writeAll stream _) [] rfl)
    (Returns.bind (S := []) (.pure ())
      (Returns.bind (canSay_smtpCall .io (.writeAll stream ('.' :: crlf)) [] rfl)
        (canSay_smtpCall .io (.flush stream) [] rfl)))

theorem canSay_dropError {α : Type} {m : Smtp α} {S : List Item} {a : α} (h : CanSay S m a) :
    CanSay S (dropError m) () := by
  obtain ⟨evs, hmakes, rfl⟩ := h
  exact ⟨evs, makes_bind.2 ⟨evs, [], .ok a, by simp, hmakes, rfl, rfl⟩, rfl⟩

theorem canSay_transact (stream : SmtpStream) :
    CanSay ((envelopeLines c rcpt).flatMap (lineItems stream) ++
        (messageItems X c rcpt subject body stream ++ lineItems stream "QUIT".toList))
      (c.transact X 1 stream rcpt subject body) () := by
  have hok : replyLine "250 \r\n".toList = .ok (250, "250 ".toList, true) := by decide
  have hgo : replyLine "354 \r\n".toList = .ok (354, "354 ".toList, true) := by decide
  have hbye : replyLine "221 \r\n".toList = .ok (221, "221 ".toList, true) := by decide
  rw [envelope_items]
  refine Returns.bind (canSay_command stream _ "MAIL FROM" hok) ?_
  refine Returns.bind (canSay_command stream _ "RCPT TO" hok) ?_
  refine Returns.bind (canSay_command stream _ "DATA" hgo) ?_
  refine Returns.bind (canSay_sendMessage stream) ?_
  refine Returns.bind (S := []) (canSay_readReply stream hok) ?_
  refine Returns.bind (S := []) (canSay_check rfl _) ?_
  exact canSay_dropError (canSay_command stream _ "QUIT" hbye)

variable (X rcpt subject body) in
/-- **Some server lets the client write the whole script.** -/
theorem sendEmail_returns (h : ¬ (c.credentials.isSome = true ∧ c.tlsMode = .none)) :
    CanSay (script X c rcpt subject body) (c.sendEmail X 1 rcpt subject body) () := by
  have hwelcome : replyLine "220 \r\n".toList = .ok (220, "220 ".toList, true) := by decide
  have hcaps : replyLine "250 STARTTLS\r\n".toList = .ok (250, "250 STARTTLS".toList, true) := by
    decide
  obtain ⟨caps, htls, hlogin⟩ := canSay_startTls (c := c)
  have hauth : c.credentials.isSome = true → caps = ["250 AUTH LOGIN".toList] := by
    intro hcreds
    apply hlogin
    cases hmode : c.tlsMode with
    | none => exact absurd ⟨hcreds, hmode⟩ h
    | startTls => rfl
  unfold sendEmail script
  rw [if_neg h]
  unfold fullScript
  rw [mailItems_eq, List.append_assoc]
  refine Returns.bind (S := []) (canSay_check h _) ?_
  refine Returns.bind (S := []) (canSay_smtpCall .connect (.connect c.smtpHost c.smtpPort) [] rfl) ?_
  refine Returns.bind (S := []) (canSay_readReply .plain hwelcome) ?_
  refine Returns.bind (S := []) (canSay_check rfl _) ?_
  refine Returns.bind (canSay_command .plain c.ehlo "EHLO" hcaps) ?_
  refine Returns.bind htls ?_
  exact Returns.bind (canSay_authenticate _ hauth) (canSay_transact _)

end Cctf
