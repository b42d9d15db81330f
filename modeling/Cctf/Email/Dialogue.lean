import Cctf.Library.Runs
import Cctf.Services.Email.Server

/-!
# What the replies of the catcher tell

A client that only reads the replies can keep its own account of the transaction: a `MAIL` that
was answered 250 opens it, each `RCPT` answered 250 adds a recipient, a message that was
answered with its second reply or a `RSET` ends it.

* `Client`, `client` — a client that has sent its lines, and what it gets back.
* `Exchange`, `exchanges` — the commands of a connection, each with the lines that followed it,
  its replies and what it stored; `exec_handleConnection` puts the connection together from them.
* `Envelope`, `Envelope.track` — the account of the client.
* `Described` — the account foretells the reply to `DATA`, and the sender and the recipients of
  the message, whose text is the lines after `DATA`.
* `described_iff` — **it does as long as no `DATA` follows a `MAIL` without a `FROM:`**, which
  is answered 250 all the same.
-/

namespace Cctf

open Text Program

/-! ## One client -/

/-- A client that has sent some lines over a stream that does not fail, with what it has got
back, and the mailbox.  `ids` and `clock` are what is drawn for each message. -/
structure Client where
  inbox : List (List Char)
  written : List (List Char)
  mailbox : List Email
  ids : ℕ → List Char
  clock : ℕ → ℤ

namespace Client

/-- Some texts more have been written. -/
def hears (p : Client) (texts : List (List Char)) : Client :=
  { p with written := p.written ++ texts }

/-- A message more is in the mailbox. -/
def stores (p : Client) (email : Email) : Client := { p with mailbox := p.mailbox ++ [email] }

@[simp] theorem hears_hears (p : Client) (texts texts' : List (List Char)) :
    (p.hears texts).hears texts' = p.hears (texts ++ texts') := by
  simp [hears]

@[simp] theorem hears_nil (p : Client) : p.hears [] = p := by simp [hears]

/-- The stream, the clock and the mailbox.  After the last line the stream is at its end. -/
def handler : Handler CatcherOp CatcherOp.Resp Client where
  answer p
    | .readLine => (.ok (p.inbox.headD []) : Except String (List Char))
    | .writeAll _ => (.ok () : Except String Unit)
    | .flush => (.ok () : Except String Unit)
    | .newId => p.ids p.mailbox.length
    | .now => p.clock p.mailbox.length
    | .push _ => ()
  next p
    | .readLine => { p with inbox := p.inbox.tail }
    | .writeAll text => p.hears [text]
    | .push email => p.stores email
    | .flush => p
    | .newId => p
    | .now => p

/-- What has happened since: some lines were read, some texts written, and some messages
stored. -/
structure Since (p p' : Client) (read texts : List (List Char)) (stored : List Email) : Prop where
  inbox : p.inbox = read ++ p'.inbox
  written : p'.written = p.written ++ texts
  mailbox : p'.mailbox = p.mailbox ++ stored

theorem Since.refl (p : Client) : Since p p [] [] [] := ⟨by simp, by simp, by simp⟩

theorem Since.trans {p p' p'' : Client} {read read' texts texts' : List (List Char)}
    {stored stored' : List Email} (h : Since p p' read texts stored)
    (h' : Since p' p'' read' texts' stored') :
    Since p p'' (read ++ read') (texts ++ texts') (stored ++ stored') :=
  ⟨by rw [h.inbox, h'.inbox, List.append_assoc],
    by rw [h'.written, h.written, List.append_assoc],
    by rw [h'.mailbox, h.mailbox, List.append_assoc]⟩

theorem since_hears (p : Client) (texts : List (List Char)) :
    Since p (p.hears texts) [] texts [] := ⟨rfl, rfl, by simp [hears]⟩

theorem since_readLine (p : Client) :
    Since p { p with inbox := p.inbox.tail } (p.inbox.take 1) [] [] := by
  refine ⟨?_, by simp, by simp⟩
  cases p.inbox <;> simp

/-- A line that was read leaves fewer. -/
theorem inbox_tail_lt {p : Client} {n : ℕ} (h : p.inbox.length < n + 1)
    (hline : p.inbox.headD [] ≠ []) : p.inbox.tail.length < n := by
  cases hinbox : p.inbox with
  | nil =>
    rw [hinbox] at hline
    exact absurd rfl hline
  | cons line rest =>
    rw [hinbox, List.length_cons] at h
    exact Nat.lt_of_succ_lt_succ h

/-- A line that is there is the first one. -/
theorem take_inbox {p : Client} (hline : p.inbox.headD [] ≠ []) :
    p.inbox.take 1 = [p.inbox.headD []] := by
  cases hinbox : p.inbox with
  | nil =>
    rw [hinbox] at hline
    exact absurd rfl hline
  | cons line rest => rfl

/-- No line is put back, and nothing that was written or stored is taken back. -/
theorem exists_since {α : Type} (p : Client) (m : Program CatcherOp CatcherOp.Resp α) :
    ∃ read texts stored, Since p (run handler p m).2 read texts stored := by
  induction m generalizing p with
  | done a => exact ⟨[], [], [], Since.refl p⟩
  | call op k ih =>
    obtain ⟨read, texts, stored, hrest⟩ := ih (handler.answer p op) (handler.next p op)
    have hfirst : ∃ read texts stored, Since p (handler.next p op) read texts stored := by
      cases op with
      | writeAll text => exact ⟨[], [text], [], since_hears p [text]⟩
      | push email => exact ⟨[], [], [email], rfl, by simp [handler, stores], rfl⟩
      | readLine => exact ⟨_, [], [], since_readLine p⟩
      | flush => exact ⟨[], [], [], Since.refl p⟩
      | newId => exact ⟨[], [], [], Since.refl p⟩
      | now => exact ⟨[], [], [], Since.refl p⟩
    obtain ⟨read', texts', stored', hfirst⟩ := hfirst
    exact ⟨_, _, _, hfirst.trans hrest⟩

theorem Since.inbox_length_le {p p' : Client} {read texts : List (List Char)}
    {stored : List Email} (h : Since p p' read texts stored) :
    p'.inbox.length ≤ p.inbox.length := by
  rw [h.inbox, List.length_append]
  omega

end Client

open SmtpCatcherServer

/-! ## Exchanges -/

/-- A command with the lines that were read after it, its replies and the messages that it
stored. -/
structure Exchange where
  line : List Char
  data : List (List Char)
  texts : List (List Char)
  stored : List Email
  deriving DecidableEq, Repr

namespace Exchange

/-- The verb of the command. -/
def verb (x : Exchange) : Verb :=
  match splitVerb (trimEol x.line) with
  | some (verb, _) => Verb.ofText verb
  | none => .other

/-- What follows the verb. -/
def rest (x : Exchange) : List Char :=
  match splitVerb (trimEol x.line) with
  | some (_, rest) => rest
  | none => []

/-- The lines that the client sent for it. -/
def read (x : Exchange) : List (List Char) := x.line :: x.data

/-- The codes of the replies. -/
def codes (x : Exchange) : List (List Char) := (x.texts.filter (· ≠ crlf)).map (List.take 3)

/-- Is the first reply of that code? -/
def Answered (x : Exchange) (code : String) : Prop := x.codes.head? = some code.toList

/-- A message was taken to its end. -/
def Completed (x : Exchange) : Prop :=
  x.verb = .data ∧ x.codes = ["354".toList, "250".toList]

instance (x : Exchange) (code : String) : Decidable (x.Answered code) :=
  inferInstanceAs (Decidable (_ = _))

instance (x : Exchange) : Decidable x.Completed := inferInstanceAs (Decidable (_ ∧ _))

end Exchange

section

variable (fuel : ℕ) (hostname : List Char)

/-- What a client sees of a command. -/
def exchangeOf (p p' : Client) (line : List Char) : Exchange :=
  ⟨line, p.inbox.take (p.inbox.length - p'.inbox.length), p'.written.drop p.written.length,
    p'.mailbox.drop p.mailbox.length⟩

/-- The exchanges of the loop of `handle_connection`: one for every command that is read. -/
def exchanges : ℕ → Session → Client → List Exchange
  | 0, _, _ => []
  | rounds + 1, s, p =>
    match exec Client.handler p readCommand with
    | (.error _, _) => []
    | (.ok line, p₁) =>
      if line = [] then []
      else
        match exec Client.handler p₁ (handleCommand fuel hostname s line) with
        | (.ok (some s'), p₂) => exchangeOf p₁ p₂ line :: exchanges rounds s' p₂
        | (_, p₂) => [exchangeOf p₁ p₂ line]

/-- The greeting of a connection. -/
def greeting : List (List Char) :=
  ["220 ".toList ++ hostname ++ " ESMTP cctf-rs catcher".toList, crlf]

/-- The exchanges of a connection. -/
def connectionExchanges (p : Client) : List Exchange :=
  exchanges fuel hostname fuel ⟨none, []⟩ (p.hears (greeting hostname))

theorem exec_writeLine (p : Client) (line : List Char) :
    exec Client.handler p (Catcher.writeLine line) = (.ok (), p.hears [line, crlf]) := by
  show ((.ok () : Except Stop Unit), (p.hears [line]).hears [crlf]) = _
  rw [Client.hears_hears]
  rfl

theorem exec_readCommand (p : Client) :
    exec Client.handler p readCommand =
      (if maxLineBytes < byteLen (p.inbox.headD []) then .error (.err .messageTooLarge)
        else .ok (p.inbox.headD []), { p with inbox := p.inbox.tail }) := by
  have hread : exec Client.handler p Catcher.readLine =
      (.ok (p.inbox.headD []), { p with inbox := p.inbox.tail }) := rfl
  rw [readCommand, exec_bind, hread]
  simp only
  split <;> rfl

theorem since_readCommand (p : Client) :
    Client.Since p (exec Client.handler p readCommand).2 (p.inbox.take 1) [] [] := by
  rw [exec_readCommand]
  exact Client.since_readLine p

theorem exchangeOf_eq {p p' : Client} {read texts : List (List Char)} {stored : List Email}
    (h : Client.Since p p' read texts stored) (line : List Char) :
    exchangeOf p p' line = ⟨line, read, texts, stored⟩ := by
  have hread : p.inbox.take (p.inbox.length - p'.inbox.length) = read := by
    rw [h.inbox, List.length_append, Nat.add_sub_cancel, List.take_left]
  rw [exchangeOf, hread, h.written, h.mailbox, List.drop_left, List.drop_left]

/-- An exchange records what was read, written and stored. -/
theorem since_exchangeOf {α : Type} (p : Client) (m : Catcher α) (line : List Char) :
    Client.Since p (exec Client.handler p m).2
      (exchangeOf p (exec Client.handler p m).2 line).data
      (exchangeOf p (exec Client.handler p m).2 line).texts
      (exchangeOf p (exec Client.handler p m).2 line).stored := by
  obtain ⟨read, texts, stored, h⟩ := Client.exists_since p m.run
  have hexec : exec Client.handler p m = run Client.handler p m.run := rfl
  rw [hexec, exchangeOf_eq h]
  exact h

/-- **The loop is its exchanges**: nothing else is written or stored, and only what ends the
loop is read besides. -/
theorem exec_handleCommands (rounds : ℕ) (s : Session) (p : Client) :
    ∃ rest, Client.Since p (exec Client.handler p (handleCommands fuel hostname rounds s)).2
      ((exchanges fuel hostname rounds s p).flatMap Exchange.read ++ rest)
      ((exchanges fuel hostname rounds s p).flatMap Exchange.texts)
      ((exchanges fuel hostname rounds s p).flatMap Exchange.stored) := by
  induction rounds generalizing s p with
  | zero => exact ⟨[], Client.Since.refl p⟩
  | succ rounds ih =>
    have hread := since_readCommand p
    rw [handleCommands, handleNext, exec_bind, exec_bind, exchanges, exec_readCommand]
    rw [exec_readCommand] at hread
    by_cases hlong : maxLineBytes < byteLen (p.inbox.headD [])
    · rw [if_pos hlong]
      exact ⟨_, hread⟩
    · simp only [if_neg hlong]
      by_cases hend : p.inbox.headD [] = []
      · rw [if_pos hend, if_pos hend]
        exact ⟨_, hread⟩
      · rw [if_neg hend, if_neg hend]
        rw [Client.take_inbox hend] at hread
        have hround := hread.trans (since_exchangeOf { p with inbox := p.inbox.tail }
          (handleCommand fuel hostname s (p.inbox.headD [])) (p.inbox.headD []))
        generalize exec Client.handler { p with inbox := p.inbox.tail }
          (handleCommand fuel hostname s (p.inbox.headD [])) = round at hround ⊢
        rcases round with ⟨e | _ | s', p₂⟩
        · refine ⟨[], ?_⟩
          simp only [List.flatMap_cons, List.flatMap_nil, List.append_nil]
          exact hround
        · have hstop : exec Client.handler p₂ (pure () : Catcher Unit) = (.ok (), p₂) := rfl
          refine ⟨[], ?_⟩
          simp only [List.flatMap_cons, List.flatMap_nil, List.append_nil, hstop]
          exact hround
        · obtain ⟨rest, hrest⟩ := ih s' p₂
          refine ⟨rest, ?_⟩
          have hall := hround.trans hrest
          rw [← List.append_assoc] at hall
          exact hall

/-- **The connection**: the greeting, then the exchanges. -/
theorem exec_handleConnection (p : Client) :
    ∃ rest, Client.Since p (exec Client.handler p (handleConnection fuel hostname)).2
      ((connectionExchanges fuel hostname p).flatMap Exchange.read ++ rest)
      (greeting hostname ++ (connectionExchanges fuel hostname p).flatMap Exchange.texts)
      ((connectionExchanges fuel hostname p).flatMap Exchange.stored) := by
  rw [handleConnection, exec_bind, exec_writeLine]
  obtain ⟨rest, hrest⟩ := exec_handleCommands fuel hostname fuel ⟨none, []⟩
    (p.hears (greeting hostname))
  exact ⟨rest, (Client.since_hears p (greeting hostname)).trans hrest⟩

end

/-! ## The account of a client -/

/-- The transaction as the replies tell it: whether a `MAIL` was accepted, with what sender, and
the recipients that were accepted since. -/
structure Envelope where
  mail : Bool
  sender : Option (List Char)
  rcpts : List (List Char)
  deriving DecidableEq, Repr

namespace Envelope

/-- Nothing has been accepted yet. -/
def start : Envelope := ⟨false, none, []⟩

/-- What an exchange changes. -/
def track (g : Envelope) (x : Exchange) : Envelope :=
  match x.verb with
  | .mail =>
    if x.Answered "250" then ⟨true, (parseAddr x.rest "FROM:".toList).join, []⟩ else g
  | .rcpt =>
    if x.Answered "250" then
      { g with rcpts := g.rcpts ++ (parseAddr x.rest "TO:".toList).join.toList }
    else g
  | .rset => { g with mail := false }
  | .data => if x.Completed then { g with mail := false } else g
  | _ => g

/-- The text that the lines of a message make: without their ends, and without a dot that was
stuffed. -/
def messageText (lines : List (List Char)) : List Char :=
  lines.flatMap fun line => stripPrefix '.' (trimEol line) ++ ['\n']

/-- Lines up to the one that is a dot. -/
structure Dotted (data lines : List (List Char)) : Prop where
  ends : ∃ last, data = lines ++ [last] ∧ trimEol last = ['.']
  goesOn : ∀ line ∈ lines, trimEol line ≠ ['.']

/-- The exchange stored one message: of the sender that the last `MAIL` named, to the recipients
that were accepted since, with the lines after `DATA` as its text. -/
structure Delivers (g : Envelope) (x : Exchange) (lines : List (List Char)) (email : Email) :
    Prop where
  dotted : Dotted x.data lines
  stored : x.stored = [email]
  parsed : ∃ id timestamp sender, g.sender = some sender ∧
    email = parseEmail id timestamp sender g.rcpts (messageText lines)
  /-- Without a `To` of its own the message is to the recipients, in order. -/
  recipients : headerValue (splitMessage (messageText lines)).1 "To".toList = none →
    email.to = join ", ".toList g.rcpts

/-- The account foretells the exchange. -/
structure Described (g : Envelope) (x : Exchange) : Prop where
  /-- `DATA` is accepted after a `MAIL` and a `RCPT`. -/
  data : x.verb = .data → (x.Answered "354" ↔ g.mail = true ∧ g.rcpts ≠ [])
  /-- A message that was taken is stored, as the account has it. -/
  message : x.Completed → ∃ lines email, g.Delivers x lines email
  /-- Nothing else is stored. -/
  others : ¬ x.Completed → x.stored = []

/-- `DATA` comes after a `MAIL` without a sender. -/
def Senderless (g : Envelope) (x : Exchange) : Prop :=
  x.verb = .data ∧ g.mail = true ∧ g.sender = none ∧ g.rcpts ≠ []

/-- The account agrees with what the connection remembers. -/
structure Agrees (g : Envelope) (s : Session) : Prop where
  mailFrom : s.mailFrom = if g.mail then g.sender else none
  rcpts : g.mail = true → s.rcpts = g.rcpts

end Envelope

section

variable {fuel : ℕ} {hostname : List Char}

theorem exec_writeLine_pure {α : Type} (p : Client) (line : List Char) (a : α) :
    exec Client.handler p (do Catcher.writeLine line; pure a : Catcher α) =
      (.ok a, p.hears [line, crlf]) := by
  rw [exec_bind, exec_writeLine]
  rfl

/-- The codes depend on the texts. -/
theorem Exchange.codes_of_texts {x : Exchange} {texts : List (List Char)} (h : x.texts = texts) :
    x.codes = (texts.filter (· ≠ crlf)).map (List.take 3) := by
  rw [Exchange.codes, h]

/-- Most verbs do not change the account. -/
theorem Envelope.track_of_verb {g : Envelope} {x : Exchange} {v : Verb} (h : x.verb = v)
    (hv : v ∉ [.mail, .rcpt, .rset, .data]) : g.track x = g := by
  rw [Envelope.track, h]
  cases v with
  | mail => simp at hv
  | rcpt => simp at hv
  | rset => simp at hv
  | data => simp at hv
  | _ => rfl

/-- What the session is after an answer, the account makes of the exchange. -/
def Followed (s : Session) (v : Verb) (rest : List Char) (texts : List (List Char))
    (s' : Session) : Prop :=
  ∀ (g : Envelope) (x : Exchange), x.verb = v → x.rest = rest → x.texts = texts →
    g.Agrees s → (g.track x).Agrees s'

/-- A verb that leaves both alone. -/
theorem followed_of_verb {v : Verb} (hv : v ∉ [.mail, .rcpt, .rset, .data]) (s : Session)
    (rest : List Char) (texts : List (List Char)) : Followed s v rest texts s := by
  intro g x hverb _ _ hagrees
  rw [Envelope.track_of_verb hverb hv]
  exact hagrees

theorem followed_rset (s : Session) (rest : List Char) (texts : List (List Char)) :
    Followed s .rset rest texts ⟨none, []⟩ := by
  intro g x hverb _ _ _
  rw [Envelope.track, hverb]
  exact ⟨rfl, nofun⟩

/-- `MAIL` is always accepted, with whatever is found for a sender. -/
theorem followed_mail (s : Session) {rest : List Char} {mailFrom : Option (List Char)}
    (haddr : parseAddr rest "FROM:".toList = some mailFrom) :
    Followed s .mail rest ["250 2.1.0 OK".toList, crlf] ⟨mailFrom, []⟩ := by
  intro g x hverb hrest htexts _
  have hok : x.Answered "250" := by
    rw [Exchange.Answered, Exchange.codes_of_texts htexts]
    decide
  rw [Envelope.track, hverb]
  simp only
  rw [if_pos hok, hrest, haddr]
  exact ⟨rfl, fun _ => rfl⟩

/-- `RCPT` is accepted with a recipient. -/
theorem followed_rcpt (s : Session) {rest addr : List Char}
    (haddr : parseAddr rest "TO:".toList = some (some addr)) :
    Followed s .rcpt rest ["250 2.1.5 OK".toList, crlf] ⟨s.mailFrom, s.rcpts ++ [addr]⟩ := by
  intro g x hverb hrest htexts hagrees
  have hok : x.Answered "250" := by
    rw [Exchange.Answered, Exchange.codes_of_texts htexts]
    decide
  rw [Envelope.track, hverb]
  simp only
  rw [if_pos hok, hrest, haddr]
  exact ⟨hagrees.mailFrom, fun hmail => by rw [hagrees.rcpts hmail]; rfl⟩

/-- `RCPT` is refused without one. -/
theorem followed_rcpt_refused (s : Session) (rest : List Char) :
    Followed s .rcpt rest ["501 5.5.4 Syntax: RCPT TO:<address>".toList, crlf] s := by
  intro g x hverb _ htexts hagrees
  have hrefused : ¬ x.Answered "250" := by
    rw [Exchange.Answered, Exchange.codes_of_texts htexts]
    decide
  rw [Envelope.track, hverb]
  simp only
  rw [if_neg hrefused]
  exact hagrees

section

variable (fuel : ℕ) (hostname : List Char) (s : Session) (rest : List Char) (p : Client)

/-- A verb is answered, stores nothing, and leaves the session that the account makes of it. -/
def AnswersVerb (v : Verb) : Prop :=
  ∃ texts res, exec Client.handler p (handleVerb fuel hostname s rest v) = (res, p.hears texts) ∧
    res ≠ .error .fuel ∧ ∀ s', res = .ok (some s') → Followed s v rest texts s'

variable {fuel hostname s rest p}

theorem answers_of_followed {v : Verb} {texts : List (List Char)} {s' : Session}
    (hfollowed : Followed s v rest texts s')
    (hexec : exec Client.handler p (handleVerb fuel hostname s rest v) =
      (.ok (some s'), p.hears texts)) : AnswersVerb fuel hostname s rest p v := by
  refine ⟨texts, _, hexec, nofun, fun s'' hres => ?_⟩
  obtain rfl : s' = s'' := by simpa using hres
  exact hfollowed

theorem answers_of_panic {v : Verb}
    (hexec : exec Client.handler p (handleVerb fuel hostname s rest v) = (.error .panic, p)) :
    AnswersVerb fuel hostname s rest p v :=
  ⟨[], .error .panic, by rw [Client.hears_nil]; exact hexec, nofun, nofun⟩

variable (fuel hostname s rest p)

theorem answers_ehlo : AnswersVerb fuel hostname s rest p .ehlo := by
  refine answers_of_followed (followed_of_verb (by decide) s rest
    (["250-".toList ++ hostname, crlf] ++ (["250-SIZE 10485760".toList, crlf] ++
      ["250 SMTPUTF8".toList, crlf]))) ?_
  rw [handleVerb, exec_bind, exec_writeLine]
  simp only
  rw [exec_bind, exec_writeLine]
  simp only
  rw [exec_writeLine_pure, Client.hears_hears, Client.hears_hears]

theorem answers_mail : AnswersVerb fuel hostname s rest p .mail := by
  cases haddr : parseAddr rest "FROM:".toList with
  | none =>
    refine answers_of_panic ?_
    rw [handleVerb, haddr]
    rfl
  | some mailFrom =>
    refine answers_of_followed (followed_mail s haddr) ?_
    rw [handleVerb, haddr]
    exact exec_writeLine_pure p _ _

theorem answers_rcpt : AnswersVerb fuel hostname s rest p .rcpt := by
  cases haddr : parseAddr rest "TO:".toList with
  | none =>
    refine answers_of_panic ?_
    rw [handleVerb, haddr]
    rfl
  | some found =>
    cases found with
    | none =>
      refine answers_of_followed (followed_rcpt_refused s rest) ?_
      rw [handleVerb, haddr]
      exact exec_writeLine_pure p _ _
    | some addr =>
      refine answers_of_followed (followed_rcpt s haddr) ?_
      rw [handleVerb, haddr]
      exact exec_writeLine_pure p _ _

/-- **Every verb but `DATA`.** -/
theorem answers_of_ne_data {v : Verb} (hv : v ≠ .data) : AnswersVerb fuel hostname s rest p v := by
  -- the verbs with one reply that leave session and account alone
  have hplain : ∀ line, v ∉ [Verb.mail, .rcpt, .rset, .data] →
      exec Client.handler p (handleVerb fuel hostname s rest v) =
        (.ok (some s), p.hears [line, crlf]) → AnswersVerb fuel hostname s rest p v :=
    fun line hmem => answers_of_followed (followed_of_verb hmem s rest [line, crlf])
  cases v with
  | data => exact absurd rfl hv
  | helo => exact hplain _ (by decide) (exec_writeLine_pure p _ _)
  | noop => exact hplain _ (by decide) (exec_writeLine_pure p _ _)
  | vrfy => exact hplain _ (by decide) (exec_writeLine_pure p _ _)
  | empty => exact hplain _ (by decide) (exec_writeLine_pure p _ _)
  | other => exact hplain _ (by decide) (exec_writeLine_pure p _ _)
  | quit => exact ⟨_, _, exec_writeLine_pure p _ _, nofun, nofun⟩
  | rset => exact answers_of_followed (followed_rset s rest _) (exec_writeLine_pure p _ _)
  | ehlo => exact answers_ehlo fuel hostname s rest p
  | mail => exact answers_mail fuel hostname s rest p
  | rcpt => exact answers_rcpt fuel hostname s rest p

end

/-! ## Messages -/

variable (fuel) in
/-- **A message is read** up to the line that is a dot, or the connection ends before that. -/
theorem exec_readDataFrom (data : List Char) (p : Client) :
    (∃ e p' read, exec Client.handler p (readDataFrom fuel data) = (.error e, p') ∧
      Client.Since p p' read [] [] ∧ (p.inbox.length < fuel → e ≠ .fuel)) ∨
    ∃ p' read lines,
      exec Client.handler p (readDataFrom fuel data) =
        (.ok (data ++ Envelope.messageText lines), p') ∧
        Client.Since p p' read [] [] ∧ Envelope.Dotted read lines := by
  induction fuel generalizing data p with
  | zero => exact .inl ⟨.fuel, p, [], rfl, Client.Since.refl p, fun h => absurd h (by omega)⟩
  | succ fuel ih =>
    have hread : exec Client.handler p Catcher.readLine =
        (.ok (p.inbox.headD []), { p with inbox := p.inbox.tail }) := rfl
    have hstep := Client.since_readLine p
    rw [readDataFrom, exec_bind, hread]
    simp only
    split
    · exact .inl ⟨_, _, _, rfl, hstep, fun _ => nofun⟩
    · rename_i hline
      rw [Client.take_inbox hline] at hstep
      split
      · rename_i hdot
        refine .inr ⟨_, _, [], ?_, hstep, ⟨_, rfl, hdot⟩, fun _ h => absurd h List.not_mem_nil⟩
        rw [Envelope.messageText, List.flatMap_nil, List.append_nil]
        rfl
      · rename_i hdot
        split
        · exact .inl ⟨_, _, _, rfl, hstep, fun _ => nofun⟩
        · rcases ih (data ++ stripPrefix '.' (trimEol (p.inbox.headD [])) ++ ['\n'])
            { p with inbox := p.inbox.tail } with
            ⟨e, p', read, hexec, hsince, hends⟩ | ⟨p', read, lines, hexec, hsince, hdotted⟩
          · exact .inl ⟨e, p', _, hexec, hstep.trans hsince,
              fun h => hends (Client.inbox_tail_lt h hline)⟩
          · obtain ⟨last, hlast, hlastdot⟩ := hdotted.ends
            refine .inr ⟨p', _, p.inbox.headD [] :: lines, ?_, hstep.trans hsince,
              ⟨last, by rw [hlast]; rfl, hlastdot⟩, ?_⟩
            · rw [hexec]
              simp [Envelope.messageText]
            · intro line hmem
              rcases List.mem_cons.mp hmem with rfl | hmem
              · exact hdot
              · exact hdotted.goesOn line hmem

/-- The reply that asks for a message. -/
def goAhead : List (List Char) := ["354 End data with <CR><LF>.<CR><LF>".toList, crlf]

/-- The reply to a message. -/
def queued : List (List Char) := ["250 2.0.0 OK: message queued".toList, crlf]

variable (fuel) in
/-- **A message is taken**, or the connection ends before it is complete. -/
theorem exec_takeMessage (envelopeFrom : List Char) (rcpts : List (List Char)) (p : Client) :
    (∃ e p' read, exec Client.handler p (takeMessage fuel envelopeFrom rcpts) = (.error e, p') ∧
      Client.Since p p' read [] [] ∧ (p.inbox.length < fuel → e ≠ .fuel)) ∨
    ∃ p' id timestamp read lines,
      exec Client.handler p (takeMessage fuel envelopeFrom rcpts) = (.ok ⟨none, []⟩, p') ∧
        Envelope.Dotted read lines ∧
        Client.Since p p' read queued
          [parseEmail id timestamp envelopeFrom rcpts (Envelope.messageText lines)] := by
  rw [takeMessage, exec_bind, readData]
  rcases exec_readDataFrom fuel [] p with
    ⟨e, p₁, read, hexec, hsince, hends⟩ | ⟨p₁, read, lines, hexec, hsince, hdotted⟩
  · rw [hexec]
    exact .inl ⟨e, p₁, read, rfl, hsince, hends⟩
  · rw [hexec]
    have hstores : Client.Since p₁ ((p₁.stores (parseEmail (p₁.ids p₁.mailbox.length)
        (p₁.clock p₁.mailbox.length) envelopeFrom rcpts (Envelope.messageText lines))).hears queued)
        [] queued [_] := ⟨rfl, rfl, rfl⟩
    have hall := hsince.trans hstores
    rw [List.append_nil] at hall
    exact .inr ⟨_, _, _, read, lines, exec_writeLine_pure _ _ _, hdotted, hall⟩

/-- The account and the session have the same transaction in mind. -/
theorem Envelope.Agrees.ready_iff {g : Envelope} {s : Session} (h : g.Agrees s) :
    (s.mailFrom ≠ none ∧ s.rcpts ≠ []) ↔ g.mail = true ∧ g.sender ≠ none ∧ g.rcpts ≠ [] := by
  rw [h.mailFrom]
  cases hmail : g.mail with
  | false => simp
  | true => simp [h.rcpts hmail]

/-- What a client learns from `DATA`. -/
structure Envelope.Learns (g : Envelope) (x : Exchange) (res : Except Stop (Option Session)) :
    Prop where
  data : x.Answered "354" ↔ g.mail = true ∧ g.sender ≠ none ∧ g.rcpts ≠ []
  message : x.Completed → ∃ lines email, g.Delivers x lines email
  others : ¬ x.Completed → x.stored = []
  agrees : ∀ s', res = .ok (some s') → (g.track x).Agrees s'

section

variable {g : Envelope} {x : Exchange} (hverb : x.verb = .data)
include hverb

theorem Envelope.track_completed (h : x.Completed) : g.track x = { g with mail := false } := by
  rw [Envelope.track, hverb]
  simp only
  rw [if_pos h]

theorem Envelope.track_not_completed (h : ¬ x.Completed) : g.track x = g := by
  rw [Envelope.track, hverb]
  simp only
  rw [if_neg h]

omit hverb in
/-- With one reply, no message is completed. -/
theorem Exchange.not_completed {code : List Char} (hcodes : x.codes = [code]) : ¬ x.Completed := by
  rintro ⟨-, htwo⟩
  rw [hcodes] at htwo
  simp at htwo

/-- `DATA` is refused. -/
theorem learns_refused {s : Session} (hagrees : g.Agrees s)
    (hunready : ¬ (s.mailFrom ≠ none ∧ s.rcpts ≠ []))
    (htexts : x.texts = ["503 5.5.1 Need MAIL and RCPT first".toList, crlf])
    (hstored : x.stored = []) : g.Learns x (.ok (some s)) := by
  have hcodes : x.codes = ["503".toList] := by
    rw [Exchange.codes_of_texts htexts]
    decide
  have hopen : ¬ x.Completed := Exchange.not_completed hcodes
  constructor
  · rw [← hagrees.ready_iff, Exchange.Answered, hcodes]
    exact iff_of_false (by decide) hunready
  · exact fun hdone => absurd hdone hopen
  · exact fun _ => hstored
  · rintro s' hres
    obtain rfl : s = s' := by simpa using hres
    rw [Envelope.track_not_completed hverb hopen]
    exact hagrees

omit hverb in
/-- The connection ends within the message. -/
theorem learns_broken {s : Session} (hagrees : g.Agrees s)
    (hready : s.mailFrom ≠ none ∧ s.rcpts ≠ []) (htexts : x.texts = goAhead)
    (hstored : x.stored = []) (e : Stop) : g.Learns x (.error e) := by
  have hcodes : x.codes = ["354".toList] := by
    rw [Exchange.codes_of_texts htexts]
    decide
  have hopen : ¬ x.Completed := Exchange.not_completed hcodes
  constructor
  · rw [← hagrees.ready_iff, Exchange.Answered, hcodes]
    exact iff_of_true (by decide) hready
  · exact fun hdone => absurd hdone hopen
  · exact fun _ => hstored
  · exact nofun

/-- The message is taken. -/
theorem learns_taken {s : Session} (hagrees : g.Agrees s)
    (hready : s.mailFrom ≠ none ∧ s.rcpts ≠ []) (htexts : x.texts = goAhead ++ queued)
    {id envelopeFrom : List Char} {timestamp : ℤ} {lines : List (List Char)}
    (hfrom : s.mailFrom = some envelopeFrom) (hdotted : Envelope.Dotted x.data lines)
    (hstored : x.stored =
      [parseEmail id timestamp envelopeFrom s.rcpts (Envelope.messageText lines)]) :
    g.Learns x (.ok (some ⟨none, []⟩)) := by
  have hcodes : x.codes = ["354".toList, "250".toList] := by
    rw [Exchange.codes_of_texts htexts]
    decide
  have hdone : x.Completed := ⟨hverb, hcodes⟩
  have hmail : g.mail = true := (hagrees.ready_iff.mp hready).1
  constructor
  · rw [← hagrees.ready_iff, Exchange.Answered, hcodes]
    exact iff_of_true (by decide) hready
  · rw [hagrees.rcpts hmail] at hstored
    rw [hagrees.mailFrom, if_pos hmail] at hfrom
    refine fun _ => ⟨lines, _, hdotted, hstored, ⟨id, timestamp, envelopeFrom, hfrom, rfl⟩, ?_⟩
    intro hnone
    rw [parseEmail, hnone]
    rfl
  · exact fun hopen => absurd hdone hopen
  · rintro s' hres
    obtain rfl : (⟨none, []⟩ : Session) = s' := by simpa using hres
    rw [Envelope.track_completed hverb hdone]
    exact ⟨rfl, nofun⟩

end

variable (fuel hostname) in
/-- **`DATA`**, from the view of a client whose account agrees with the session. -/
theorem exec_handleData {g : Envelope} {s : Session} (hagrees : g.Agrees s) (rest : List Char)
    (p : Client) :
    ∃ read texts stored res p',
      exec Client.handler p (handleVerb fuel hostname s rest .data) = (res, p') ∧
      Client.Since p p' read texts stored ∧ (p.inbox.length < fuel → res ≠ .error .fuel) ∧
      ∀ x : Exchange, x.verb = .data → x.data = read → x.texts = texts → x.stored = stored →
        g.Learns x res := by
  rcases s with ⟨_ | envelopeFrom, rcpts⟩
  · exact ⟨[], _, [], _, _, exec_writeLine_pure p _ _, Client.since_hears p _, nofun,
      fun x hverb _ htexts hstored => learns_refused hverb hagrees (by simp) htexts hstored⟩
  · cases rcpts with
    | nil =>
      exact ⟨[], _, [], _, _, exec_writeLine_pure p _ _, Client.since_hears p _, nofun,
        fun x hverb _ htexts hstored => learns_refused hverb hagrees (by simp) htexts hstored⟩
    | cons rcpt rcpts =>
      have hexec : exec Client.handler p
          (handleVerb fuel hostname ⟨some envelopeFrom, rcpt :: rcpts⟩ rest .data) =
          match exec Client.handler (p.hears goAhead)
            (takeMessage fuel envelopeFrom (rcpt :: rcpts)) with
          | (.ok s', p') => (.ok (some s'), p')
          | (.error e, p') => (.error e, p') := by
        rw [handleVerb, exec_bind, handleData]
        simp only
        rw [exec_bind, exec_writeLine]
        simp only [goAhead]
        generalize exec Client.handler _ (takeMessage fuel envelopeFrom (rcpt :: rcpts)) = taken
        rcases taken with ⟨e | s', p'⟩
        · rfl
        · rfl
      have hasked := Client.since_hears p goAhead
      rcases exec_takeMessage fuel envelopeFrom (rcpt :: rcpts) (p.hears goAhead) with
        ⟨e, p', read, htaken, hsince, hends⟩ |
        ⟨p', id, timestamp, read, lines, htaken, hdotted, hsince⟩
      · rw [htaken] at hexec
        refine ⟨_, _, _, _, _, hexec, hasked.trans hsince, ?_, fun x hverb _ htexts hstored =>
          learns_broken hagrees (by simp) htexts hstored e⟩
        rintro hfuel hstop
        exact hends hfuel (by simpa using hstop)
      · rw [htaken] at hexec
        refine ⟨_, _, _, _, _, hexec, hasked.trans hsince, nofun,
          fun x hverb hdata htexts hstored => ?_⟩
        rw [← List.nil_append read, ← hdata] at hdotted
        exact learns_taken hverb hagrees (by simp) htexts rfl hdotted hstored

/-! ## Commands -/

/-- What an exchange makes of the account. -/
structure Envelope.Follows (g : Envelope) (x : Exchange) (res : Except Stop (Option Session)) :
    Prop where
  described_iff : g.Described x ↔ ¬ g.Senderless x
  agrees : ∀ s', res = .ok (some s') → (g.track x).Agrees s'

/-- The account foretells a `DATA`, but for the sender. -/
theorem Envelope.Learns.follows {g : Envelope} {x : Exchange} {res : Except Stop (Option Session)}
    (hverb : x.verb = .data) (h : g.Learns x res) : g.Follows x res := by
  refine ⟨⟨?_, ?_⟩, h.agrees⟩
  · rintro hdescribed ⟨-, hmail, hsender, hrcpts⟩
    exact (h.data.mp ((hdescribed.data hverb).mpr ⟨hmail, hrcpts⟩)).2.1 hsender
  · intro hsender
    refine ⟨fun _ => ⟨?_, ?_⟩, h.message, h.others⟩
    · intro hasked
      obtain ⟨hmail, -, hrcpts⟩ := h.data.mp hasked
      exact ⟨hmail, hrcpts⟩
    · rintro ⟨hmail, hrcpts⟩
      exact h.data.mpr ⟨hmail, fun hnone => hsender ⟨hverb, hmail, hnone, hrcpts⟩, hrcpts⟩

/-- The account foretells any other command, which stores nothing. -/
theorem Envelope.follows_of_ne_data {g : Envelope} {x : Exchange}
    {res : Except Stop (Option Session)} (hverb : x.verb ≠ .data) (hstored : x.stored = [])
    (hagrees : ∀ s', res = .ok (some s') → (g.track x).Agrees s') : g.Follows x res :=
  ⟨iff_of_true ⟨fun h => absurd h hverb, fun h => absurd h.1 hverb, fun _ => hstored⟩
    fun h => hverb h.1, hagrees⟩

variable (fuel hostname) in
/-- **A command**, whatever the line. -/
theorem exec_handleCommand {g : Envelope} {s : Session} (hagrees : g.Agrees s) (line : List Char)
    (p : Client) :
    ∃ read texts stored res p',
      exec Client.handler p (handleCommand fuel hostname s line) = (res, p') ∧
      Client.Since p p' read texts stored ∧ (p.inbox.length < fuel → res ≠ .error .fuel) ∧
      g.Follows ⟨line, read, texts, stored⟩ res := by
  cases hsplit : splitVerb (trimEol line) with
  | none =>
    have hexec : exec Client.handler p (handleCommand fuel hostname s line) =
        (.error .panic, p) := by
      rw [handleCommand, hsplit]
      rfl
    refine ⟨[], [], [], _, p, hexec, Client.Since.refl p, nofun, ?_⟩
    exact Envelope.follows_of_ne_data (by simp [Exchange.verb, hsplit]) rfl nofun
  | some word =>
    rcases word with ⟨verb, rest⟩
    have hcommand : handleCommand fuel hostname s line =
        handleVerb fuel hostname s rest (Verb.ofText verb) := by
      rw [handleCommand, hsplit]
    have hverb : ∀ read texts stored,
        Exchange.verb ⟨line, read, texts, stored⟩ = Verb.ofText verb :=
      fun read texts stored => by rw [Exchange.verb, hsplit]
    have hrest : ∀ read texts stored, Exchange.rest ⟨line, read, texts, stored⟩ = rest :=
      fun read texts stored => by rw [Exchange.rest, hsplit]
    rw [hcommand]
    generalize Verb.ofText verb = v at hverb
    by_cases hdata : v = .data
    · subst hdata
      obtain ⟨read, texts, stored, res, p', hexec, hsince, hends, hlearns⟩ :=
        exec_handleData fuel hostname hagrees rest p
      have hx := hverb read texts stored
      exact ⟨read, texts, stored, res, p', hexec, hsince, hends,
        (hlearns _ hx rfl rfl rfl).follows hx⟩
    · obtain ⟨texts, res, hexec, hends, hnext⟩ :=
        answers_of_ne_data fuel hostname s rest p hdata
      have hx := hverb [] texts []
      refine ⟨[], texts, [], res, _, hexec, Client.since_hears p texts, fun _ => hends, ?_⟩
      refine Envelope.follows_of_ne_data (by rw [hx]; exact hdata) rfl ?_
      exact fun s' hres => hnext s' hres g _ hx (hrest [] texts []) rfl hagrees

/-! ## Connections -/

/-- The loop does not run out of rounds. -/
theorem exec_handleCommands_fuel {rounds : ℕ} {g : Envelope} {s : Session} {p : Client}
    (hagrees : g.Agrees s) (hrounds : p.inbox.length < rounds) (hfuel : p.inbox.length < fuel) :
    (exec Client.handler p (handleCommands fuel hostname rounds s)).1 ≠ .error .fuel := by
  induction rounds generalizing g s p with
  | zero => exact absurd hrounds (by omega)
  | succ rounds ih =>
    rw [handleCommands, handleNext, exec_bind, exec_bind, exec_readCommand]
    by_cases hlong : maxLineBytes < byteLen (p.inbox.headD [])
    · rw [if_pos hlong]
      exact nofun
    · simp only [if_neg hlong]
      by_cases hend : p.inbox.headD [] = []
      · rw [if_pos hend]
        exact nofun
      · rw [if_neg hend]
        have hfewer := Client.inbox_tail_lt hrounds hend
        have hread : p.inbox.tail.length < fuel :=
          (List.tail_sublist p.inbox).length_le.trans_lt hfuel
        obtain ⟨read, texts, stored, res, p₂, hexec, hsince, hends, hfollows⟩ :=
          exec_handleCommand fuel hostname hagrees (p.inbox.headD [])
            { p with inbox := p.inbox.tail }
        have hleft : p₂.inbox.length ≤ p.inbox.tail.length := hsince.inbox_length_le
        rw [hexec]
        rcases res with e | _ | s'
        · rintro hstop
          exact hends hread (by simpa using hstop)
        · exact nofun
        · exact ih (hfollows.agrees s' rfl) (hleft.trans_lt hfewer) (hleft.trans_lt hread)

/-- **The loop**: the account foretells every exchange exactly when no `DATA` comes without a
sender. -/
theorem each_described_iff {rounds : ℕ} {g : Envelope} {s : Session} {p : Client}
    (hagrees : g.Agrees s) :
    Runs.Each Envelope.track Envelope.Described g (exchanges fuel hostname rounds s p) ↔
      Runs.Each Envelope.track (fun g x => ¬ g.Senderless x) g
        (exchanges fuel hostname rounds s p) := by
  induction rounds generalizing g s p with
  | zero => exact Iff.rfl
  | succ rounds ih =>
    rw [exchanges]
    generalize exec Client.handler p readCommand = read
    rcases read with ⟨e | line, p₁⟩
    · exact Iff.rfl
    · simp only
      by_cases hend : line = []
      · rw [if_pos hend]
        exact Iff.rfl
      · rw [if_neg hend]
        obtain ⟨read, texts, stored, res, p₂, hexec, hsince, -, hfollows⟩ :=
          exec_handleCommand fuel hostname hagrees line p₁
        rw [hexec]
        rcases res with e | _ | s'
        · simp only [exchangeOf_eq hsince]
          exact and_congr hfollows.described_iff Iff.rfl
        · simp only [exchangeOf_eq hsince]
          exact and_congr hfollows.described_iff Iff.rfl
        · simp only [exchangeOf_eq hsince]
          exact and_congr hfollows.described_iff (ih (hfollows.agrees s' rfl))

end

/-- **The replies describe the transaction** as long as no `DATA` follows a `MAIL` without a
sender: the connection ends, it is its exchanges (their lines are, in order, what the client
sent), and the account that the replies of a client give foretells each of them exactly when
none is senderless. -/
theorem described_iff {fuel : ℕ} (hostname : List Char) (p : Client)
    (hfuel : p.inbox.length < fuel) :
    (exec Client.handler p (handleConnection fuel hostname)).1 ≠ .error .fuel ∧
    (∃ rest, Client.Since p (exec Client.handler p (handleConnection fuel hostname)).2
      ((connectionExchanges fuel hostname p).flatMap Exchange.read ++ rest)
      (greeting hostname ++ (connectionExchanges fuel hostname p).flatMap Exchange.texts)
      ((connectionExchanges fuel hostname p).flatMap Exchange.stored)) ∧
    (Runs.Each Envelope.track Envelope.Described Envelope.start
        (connectionExchanges fuel hostname p) ↔
      Runs.Each Envelope.track (fun g x => ¬ g.Senderless x) Envelope.start
        (connectionExchanges fuel hostname p)) := by
  have hstart : Envelope.start.Agrees ⟨none, []⟩ := ⟨rfl, nofun⟩
  refine ⟨?_, exec_handleConnection fuel hostname p, each_described_iff hstart⟩
  rw [handleConnection, exec_bind, exec_writeLine]
  exact exec_handleCommands_fuel hstart hfuel hfuel

/-- A client that gives its sender without `FROM:`. -/
def curtClient : Client :=
  ⟨["MAIL foo\r\n".toList, "RCPT TO:<a>\r\n".toList, "DATA\r\n".toList], [], [],
    fun _ => "id".toList, fun _ => 0⟩

theorem described_iff_curtClient :
    (exec Client.handler curtClient (handleConnection 4 "host".toList)).1 ≠ .error .fuel ∧
    (∃ rest, Client.Since curtClient
      (exec Client.handler curtClient (handleConnection 4 "host".toList)).2
      ((connectionExchanges 4 "host".toList curtClient).flatMap Exchange.read ++ rest)
      (greeting "host".toList ++
        (connectionExchanges 4 "host".toList curtClient).flatMap Exchange.texts)
      ((connectionExchanges 4 "host".toList curtClient).flatMap Exchange.stored)) ∧
    (Runs.Each Envelope.track Envelope.Described Envelope.start
        (connectionExchanges 4 "host".toList curtClient) ↔
      Runs.Each Envelope.track (fun g x => ¬ g.Senderless x) Envelope.start
        (connectionExchanges 4 "host".toList curtClient)) :=
  described_iff "host".toList curtClient (by decide)

theorem connectionExchanges_curtClient :
    connectionExchanges 4 "host".toList curtClient =
      [⟨"MAIL foo\r\n".toList, [], ["250 2.1.0 OK".toList, crlf], []⟩,
        ⟨"RCPT TO:<a>\r\n".toList, [], ["250 2.1.5 OK".toList, crlf], []⟩,
        ⟨"DATA\r\n".toList, [], ["503 5.5.1 Need MAIL and RCPT first".toList, crlf], []⟩] := by
  decide +kernel

/-- **Both commands were answered 250, and `DATA` is refused.** -/
theorem not_described : ¬ Runs.Each Envelope.track Envelope.Described Envelope.start
    (connectionExchanges 4 "host".toList curtClient) := by
  rw [connectionExchanges_curtClient]
  rintro ⟨-, -, hdata, -⟩
  exact absurd (hdata.data (by decide +kernel)) (by decide +kernel)

end Cctf
