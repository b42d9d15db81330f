import Mathlib.Data.List.TakeDrop
import Cctf.Email.Message
import Cctf.Library.Duplex

/-!
# Mail arrives

The client and the catcher in conversation, without TLS and without a login.

* `clientPort`, `catcherPort` — what their calls do to the streams between them.
* `play_sendLine`, `replies_line`, `play_readDataFrom` — the two programs on their own, one
  exchange at a time.
* `command_round` — a command and its reply.
* `mail_delivered` — **every order of the moves ends with one message in the mailbox**, the
  one that was sent.
-/

namespace Cctf

open Text Program Duplex SmtpCatcherServer

/-! ## The conversation -/

/-- The calls of the client on a connection that does not fail. -/
def clientPort : (op : SmtpOp) → Act Char Email op.Resp
  | .readLine _ => .receive fun line => (.ok line : Except String (List Char))
  | .writeAll _ text => .send text [] (.ok () : Except String Unit)
  | .connect _ _ => .send [] [] (.ok () : Except String Unit)
  | .flush _ => .send [] [] (.ok () : Except String Unit)
  | .buildTlsConnector => .send [] [] (.ok () : Except String Unit)
  | .serverName _ => .send [] [] (.ok () : Except String Unit)
  | .handshake => .send [] [] (.ok () : Except String Unit)

/-- The calls of the catcher; `id` and `timestamp` are what it draws for a message. -/
def catcherPort (id : List Char) (timestamp : ℤ) : (op : CatcherOp) → Act Char Email op.Resp
  | .readLine => .receive fun line => (.ok line : Except String (List Char))
  | .writeAll text => .send text [] (.ok () : Except String Unit)
  | .flush => .send [] [] (.ok () : Except String Unit)
  | .newId => .send [] [] id
  | .now => .send [] [] timestamp
  | .push email => .send [] [email] ()

/-- The two ends of a connection. -/
abbrev MailLink : Type :=
  Link SmtpOp SmtpOp.Resp CatcherOp CatcherOp.Resp Char Email (Except Stop Unit) (Except Stop Unit)

/-- Some moves lead from one state of the connection to another. -/
abbrev Talks (id : List Char) (timestamp : ℤ) (L M : MailLink) : Prop :=
  Reaches clientPort (catcherPort id timestamp) '\n' L M

/-- The client, with what has arrived. -/
def clientAt (m : Smtp Unit) (inbox : List Char) :
    End SmtpOp SmtpOp.Resp Char Email (Except Stop Unit) := ⟨m.run, inbox, []⟩

/-- The catcher, with what has arrived, and the mailbox. -/
def catcherAt (m : Catcher Unit) (inbox : List Char) (mailbox : List Email) :
    End CatcherOp CatcherOp.Resp Char Email (Except Stop Unit) := ⟨m.run, inbox, mailbox⟩

theorem clientAt_receive (m : Smtp Unit) (inbox text : List Char) :
    (clientAt m inbox).receive text = clientAt m (inbox ++ text) := rfl

theorem catcherAt_receive (m : Catcher Unit) (inbox text : List Char) (mailbox : List Email) :
    (catcherAt m inbox mailbox).receive text = catcherAt m (inbox ++ text) mailbox := rfl

variable {id : List Char} {timestamp : ℤ}

theorem client_plays {β : Type} {m : Smtp β} {K : β → Smtp Unit}
    {inbox sent unread : List Char} {b : β}
    {other : End CatcherOp CatcherOp.Resp Char Email (Except Stop Unit)}
    (h : play clientPort '\n' m.run inbox = some ⟨.ok b, sent, [], unread⟩) :
    Talks id timestamp ⟨clientAt (m >>= K) inbox, other⟩
      ⟨clientAt (K b) unread, other.receive sent⟩ :=
  reaches_left_ok h

theorem catcher_plays {β : Type} {m : Catcher β} {K : β → Catcher Unit}
    {inbox sent unread : List Char} {mailbox recorded : List Email} {b : β}
    {other : End SmtpOp SmtpOp.Resp Char Email (Except Stop Unit)}
    (h : play (catcherPort id timestamp) '\n' m.run inbox = some ⟨.ok b, sent, recorded, unread⟩) :
    Talks id timestamp ⟨other, catcherAt (m >>= K) inbox mailbox⟩
      ⟨other.receive sent, catcherAt (K b) unread (mailbox ++ recorded)⟩ :=
  reaches_right_ok h

/-! ## The client on its own -/

/-- A line that ends in CRLF is read to its end. -/
theorem takeLine_crlf {line : List Char} (h : '\n' ∉ line) (more : List Char) :
    Lines.takeLine '\n' (line ++ crlf ++ more) = (line ++ crlf, more) := by
  have htext : line ++ crlf ++ more = (line ++ ['\r']) ++ '\n' :: more := by simp [crlf]
  have hline : '\n' ∉ line ++ ['\r'] := by simp [h]
  rw [htext, Lines.takeLine_line hline]
  simp [crlf]

theorem mem_crlf (line more : List Char) : '\n' ∈ line ++ crlf ++ more := by simp [crlf]

theorem trimEol_crlf (line : List Char) : trimEol (line ++ crlf) = trimEol line :=
  trimEol_append_eol line (by decide)

theorem play_sendLine (line inbox : List Char) :
    play clientPort '\n' (SmtpStream.plain.sendLine line).run inbox =
      some ⟨.ok (), line ++ crlf, [], inbox⟩ := by
  have hcalls : play clientPort '\n' (SmtpStream.plain.sendLine line).run inbox =
      some ⟨.ok (), line ++ (crlf ++ ([] ++ [])), [], inbox⟩ := rfl
  rw [hcalls]
  simp

/-- A line of a reply. -/
theorem replyLine_eq {digits : List Char} {sep : Char} {code : UInt16} (rest : List Char)
    (hlength : byteLen digits = 3) (hcode : parseU16 digits = some code)
    (hsep : isEol sep = false) :
    SmtpStream.replyLine (digits ++ sep :: rest ++ crlf) =
      .ok (code, digits ++ sep :: trimEol rest, sep = ' ') := by
  have htrim : trimEol (digits ++ sep :: rest ++ crlf) = digits ++ sep :: trimEol rest := by
    rw [trimEol_crlf, trimEol_append digits hsep]
  have hpos := sep.utf8Size_pos
  have hlong : byteLen (digits ++ sep :: trimEol rest) = 3 + (sep.utf8Size + byteLen (trimEol rest)) := by
    rw [byteLen_append, byteLen_cons, hlength]
  have hcut : splitAtByte 3 (digits ++ sep :: trimEol rest) = some (digits, sep :: trimEol rest) := by
    rw [← hlength]
    exact splitAtByte_append digits (sep :: trimEol rest)
  have hshort : ¬ byteLen (digits ++ sep :: trimEol rest) < 3 := by omega
  have hmore : byteLen (digits ++ sep :: trimEol rest) ≠ 3 := by omega
  unfold SmtpStream.replyLine
  rw [if_neg (by simp), htrim, if_neg hshort, hcut]
  simp only [hcode, hmore, false_or, List.head?_cons, Option.some.injEq]

theorem play_readReplyFrom {line : List Char} (h : '\n' ∉ line) (more : List Char) (fuel : ℕ)
    (lines : List (List Char)) {code : UInt16} {trimmed : List Char} {isLast : Bool}
    (hreply : SmtpStream.replyLine (line ++ crlf) = .ok (code, trimmed, isLast)) :
    play clientPort '\n' (SmtpStream.plain.readReplyFrom (fuel + 1) lines).run
        (line ++ crlf ++ more) =
      if isLast then some ⟨.ok (code, lines ++ [trimmed]), [], [], more⟩
      else play clientPort '\n' (SmtpStream.plain.readReplyFrom fuel (lines ++ [trimmed])).run more := by
  have hread : play clientPort '\n' SmtpStream.plain.readLine.run (line ++ crlf ++ more) =
      some ⟨.ok (line ++ crlf), [], [], more⟩ := by
    show (if '\n' ∈ line ++ crlf ++ more then _ else _) = _
    rw [if_pos (mem_crlf line more), takeLine_crlf h]
    rfl
  rw [SmtpStream.readReplyFrom, play_bind_silent hread]
  simp only [hreply]
  cases isLast with
  | true => rfl
  | false => rfl

/-- A text is a whole reply with a code. -/
def Replies (fuel : ℕ) (code : UInt16) (text : List Char) : Prop :=
  ∃ lines, play clientPort '\n' (SmtpStream.plain.readReply fuel).run text =
    some ⟨.ok (code, lines), [], [], []⟩

/-- A reply of one line. -/
theorem replies_line (digits rest : List Char) {code : UInt16} (hlength : byteLen digits = 3)
    (hcode : parseU16 digits = some code) (hline : '\n' ∉ digits ++ ' ' :: rest) (fuel : ℕ) :
    Replies (fuel + 1) code (digits ++ ' ' :: rest ++ crlf) := by
  have hreply := replyLine_eq rest hlength hcode (show isEol ' ' = false by decide)
  refine ⟨[digits ++ ' ' :: trimEol rest], ?_⟩
  have hplay := play_readReplyFrom hline [] fuel [] hreply
  rw [List.append_nil] at hplay
  exact hplay

/-- The reply to EHLO, which has three lines. -/
theorem replies_ehlo {hostname : List Char} (h : '\n' ∉ hostname) (fuel : ℕ) :
    Replies (fuel + 3) 250 (("250-".toList ++ hostname ++ crlf) ++
      (("250-SIZE 10485760".toList ++ crlf) ++ ("250 SMTPUTF8".toList ++ crlf))) := by
  have hlength : byteLen "250".toList = 3 := by decide
  have hcode : parseU16 "250".toList = some 250 := by decide
  have hhost : '\n' ∉ "250".toList ++ '-' :: hostname := by simp [h]
  have hsize : '\n' ∉ "250".toList ++ '-' :: "SIZE 10485760".toList := by decide
  have hutf8 : '\n' ∉ "250".toList ++ ' ' :: "SMTPUTF8".toList := by decide
  have hfirst := play_readReplyFrom hhost
    (("250-SIZE 10485760".toList ++ crlf) ++ ("250 SMTPUTF8".toList ++ crlf)) (fuel + 2) []
    (replyLine_eq hostname hlength hcode (by decide))
  have hsecond := play_readReplyFrom hsize ("250 SMTPUTF8".toList ++ crlf) (fuel + 1)
    ([] ++ ["250".toList ++ '-' :: trimEol hostname])
    (replyLine_eq "SIZE 10485760".toList hlength hcode (by decide))
  have hthird := play_readReplyFrom hutf8 [] fuel
    ([] ++ ["250".toList ++ '-' :: trimEol hostname] ++
      ["250".toList ++ '-' :: trimEol "SIZE 10485760".toList])
    (replyLine_eq "SMTPUTF8".toList hlength hcode (by decide))
  exact ⟨_, hfirst.trans (hsecond.trans hthird)⟩

/-- The reply to a command is awaited. -/
theorem play_awaitReply {fuel : ℕ} {code : UInt16} {text : List Char} (phase : String)
    (h : Replies fuel code text) : ∃ lines,
      play clientPort '\n' (SmtpStream.plain.awaitReply fuel code phase).run text =
        some ⟨.ok lines, [], [], []⟩ := by
  obtain ⟨lines, hplay⟩ := h
  refine ⟨lines, ?_⟩
  rw [SmtpStream.awaitReply, play_bind_silent hplay]
  simp only [check, if_true]
  rfl

/-! ## The catcher on its own -/

theorem play_writeLine (line inbox : List Char) :
    play (catcherPort id timestamp) '\n' (Catcher.writeLine line).run inbox =
      some ⟨.ok (), line ++ crlf, [], inbox⟩ := by
  have hcalls : play (catcherPort id timestamp) '\n' (Catcher.writeLine line).run inbox =
      some ⟨.ok (), line ++ (crlf ++ ([] ++ [])), [], inbox⟩ := rfl
  rw [hcalls]
  simp

variable (id timestamp) in
theorem play_readLine {line : List Char} (h : '\n' ∉ line) (more : List Char) :
    play (catcherPort id timestamp) '\n' Catcher.readLine.run (line ++ crlf ++ more) =
      some ⟨.ok (line ++ crlf), [], [], more⟩ := by
  show (if '\n' ∈ line ++ crlf ++ more then _ else _) = _
  rw [if_pos (mem_crlf line more), takeLine_crlf h]
  rfl

/-- A command line is read. -/
theorem play_readCommand {line : List Char} (h : '\n' ∉ line)
    (hlength : byteLen (line ++ crlf) ≤ maxLineBytes) :
    play (catcherPort id timestamp) '\n' readCommand.run (line ++ crlf) =
      some ⟨.ok (line ++ crlf), [], [], []⟩ := by
  have hread := play_readLine id timestamp h []
  rw [List.append_nil] at hread
  rw [readCommand, play_bind_silent hread]
  simp only [not_lt.2 hlength, if_false]
  rfl

variable (id timestamp) in
/-- **The message is read to the line that ends it**, each line without its dot-stuffing. -/
theorem play_readDataFrom {lines : List (List Char)}
    (h : ∀ line ∈ lines, '\n' ∉ line ∧ trimEol line ≠ ['.']) (more : List Char) :
    ∀ (fuel : ℕ) (data : List Char), lines.length < fuel →
      byteLen (data ++ lines.flatMap fun line => unstuff line ++ ['\n']) ≤ maxMessageBytes →
      play (catcherPort id timestamp) '\n' (readDataFrom fuel data).run
          (lines.flatMap (· ++ crlf) ++ ('.' :: crlf) ++ more) =
        some ⟨.ok (data ++ lines.flatMap fun line => unstuff line ++ ['\n']), [], [], more⟩ := by
  induction lines with
  | nil =>
    intro fuel data hfuel _
    obtain ⟨fuel, rfl⟩ : ∃ n, fuel = n + 1 := ⟨fuel - 1, by simp at hfuel; omega⟩
    have hread := play_readLine id timestamp (show '\n' ∉ ['.'] by decide) more
    have hdot : trimEol (['.'] ++ crlf) = ['.'] := by decide
    show play _ _ (readDataFrom (fuel + 1) data).run (['.'] ++ crlf ++ more) = _
    rw [readDataFrom, play_bind_silent hread]
    simp only [hdot, if_true, List.flatMap_nil, List.append_nil]
    rfl
  | cons line lines ih =>
    intro fuel data hfuel hlength
    rw [List.forall_mem_cons] at h
    obtain ⟨⟨hline, hdot⟩, hlines⟩ := h
    obtain ⟨fuel, rfl⟩ : ∃ n, fuel = n + 1 := ⟨fuel - 1, by simp at hfuel; omega⟩
    have hrest : lines.length < fuel := by simpa using hfuel
    rw [List.flatMap_cons, ← List.append_assoc, ← List.append_assoc] at hlength
    have hread := play_readLine id timestamp hline
      (lines.flatMap (· ++ crlf) ++ ('.' :: crlf) ++ more)
    have htext : (line :: lines).flatMap (· ++ crlf) ++ ('.' :: crlf) ++ more =
        line ++ crlf ++ (lines.flatMap (· ++ crlf) ++ ('.' :: crlf) ++ more) := by simp
    have hshort : ¬ maxMessageBytes < byteLen data + byteLen (unstuff line) + 1 := by
      have hone : byteLen ['\n'] = 1 := by decide
      rw [byteLen_append, byteLen_append, byteLen_append, hone] at hlength
      omega
    rw [htext, readDataFrom, play_bind_silent hread]
    rw [if_neg (by simp [crlf]), trimEol_crlf, if_neg hdot]
    show play _ _ (if maxMessageBytes < byteLen data + byteLen (unstuff line) + 1 then _ else _ :
      Catcher (List Char)).run _ = _
    rw [if_neg hshort]
    have hdata := ih hlines fuel (data ++ unstuff line ++ ['\n']) hrest hlength
    rw [List.flatMap_cons, ← List.append_assoc, ← List.append_assoc]
    exact hdata

/-- A verb and what follows it. -/
theorem splitVerb_word {verb : List Char} (hverb : verb ≠ [])
    (h : ∀ c ∈ verb, isWhitespace c = false) (rest : List Char) :
    splitVerb (verb ++ ' ' :: rest) = some (toUppercase verb, trimStart rest) := by
  obtain ⟨c, cs, rfl⟩ := List.exists_cons_of_ne_nil hverb
  have hstart : trimStart (c :: cs ++ ' ' :: rest) = c :: cs ++ ' ' :: rest := by
    have hc : isWhitespace c = false := h c (by simp)
    simp [trimStart, hc]
  have hspan : (c :: cs ++ ' ' :: rest).span (fun c => !isWhitespace c) = (c :: cs, ' ' :: rest) := by
    have hword : ∀ a ∈ c :: cs, (!isWhitespace a) = true := by
      intro a ha
      rw [h a ha]
      rfl
    rw [List.span_eq_takeWhile_dropWhile, List.takeWhile_append_of_pos hword,
      List.dropWhile_append_of_pos hword]
    simp [isWhitespace]
  rw [splitVerb, hstart, hspan]
  rfl

/-- The address after a prefix is found. -/
theorem parseAddr_prefix {pre rest : List Char} (h : trimStart (pre ++ rest) = pre ++ rest) :
    ∃ addr, parseAddr (pre ++ rest) pre = some (some addr) := by
  have hlong : ¬ byteLen (pre ++ rest) < byteLen pre := by
    rw [byteLen_append]
    omega
  have hsame : eqIgnoreAsciiCase pre pre = true := by simp [eqIgnoreAsciiCase]
  unfold parseAddr
  simp only [h, hlong, if_false, splitAtByte_append, Option.map_some, hsame, if_true]
  exact ⟨_, rfl⟩

/-! ## Rounds -/

section Rounds

variable {fuel : ℕ} {hostname : List Char} {s s' : Session}

/-- A round of the catcher: a command line is read, and its verb is answered. -/
theorem play_handleNext {line verb rest reply : List Char} {r : Option Session}
    (hline : '\n' ∉ line) (hlength : byteLen (line ++ crlf) ≤ maxLineBytes)
    (hverb : splitVerb (trimEol line) = some (verb, rest))
    (h : play (catcherPort id timestamp) '\n'
      (handleVerb fuel hostname s rest (Verb.ofText verb)).run [] = some ⟨.ok r, reply, [], []⟩) :
    play (catcherPort id timestamp) '\n' (handleNext fuel hostname s).run (line ++ crlf) =
      some ⟨.ok r, reply, [], []⟩ := by
  rw [handleNext, play_bind_silent (play_readCommand hline hlength), if_neg (by simp [crlf]),
    handleCommand, trimEol_crlf, hverb]
  exact h

theorem play_answer {β : Type} (line inbox : List Char) (b : β) :
    play (catcherPort id timestamp) '\n' (Catcher.writeLine line >>= fun _ => pure b).run inbox =
      some ⟨.ok b, line ++ crlf, [], inbox⟩ := by
  rw [play_bind_ok (play_writeLine line inbox)]
  have hdone : play (catcherPort id timestamp) '\n' (pure b : Catcher β).run inbox =
      some ⟨.ok b, [], [], inbox⟩ := rfl
  rw [hdone]
  simp [Played.after]

theorem catcher_round {text reply : List Char} {rounds : ℕ} {mailbox : List Email}
    {other : End SmtpOp SmtpOp.Resp Char Email (Except Stop Unit)}
    (h : play (catcherPort id timestamp) '\n' (handleNext fuel hostname s).run text =
      some ⟨.ok (some s'), reply, [], []⟩) :
    Talks id timestamp
      ⟨other, catcherAt (handleCommands fuel hostname (rounds + 1) s) text mailbox⟩
      ⟨other.receive reply, catcherAt (handleCommands fuel hostname rounds s') [] mailbox⟩ := by
  have hround : Talks id timestamp
      ⟨other, catcherAt (handleCommands fuel hostname (rounds + 1) s) text mailbox⟩
      ⟨other.receive reply, catcherAt (handleCommands fuel hostname rounds s') [] (mailbox ++ [])⟩ := by
    rw [handleCommands]
    exact catcher_plays h
  rwa [List.append_nil] at hround

/-- **A command and its reply**: the client writes its line, the catcher answers it, and
both go on with nothing left to read. -/
theorem command_round {line reply : List Char} {code : UInt16} {clientFuel rounds : ℕ}
    {mailbox : List Email} (phase : String) (K : List (List Char) → Smtp Unit)
    (hnext : play (catcherPort id timestamp) '\n' (handleNext fuel hostname s).run (line ++ crlf) =
      some ⟨.ok (some s'), reply, [], []⟩)
    (hreply : Replies clientFuel code reply) : ∃ lines, Talks id timestamp
      ⟨clientAt (SmtpStream.plain.command clientFuel line code phase >>= K) [],
        catcherAt (handleCommands fuel hostname (rounds + 1) s) [] mailbox⟩
      ⟨clientAt (K lines) [], catcherAt (handleCommands fuel hostname rounds s') [] mailbox⟩ := by
  obtain ⟨lines, hawait⟩ := play_awaitReply phase hreply
  refine ⟨lines, ?_⟩
  have hwrites : Talks id timestamp
      ⟨clientAt (SmtpStream.plain.command clientFuel line code phase >>= K) [],
        catcherAt (handleCommands fuel hostname (rounds + 1) s) [] mailbox⟩
      ⟨clientAt (SmtpStream.plain.awaitReply clientFuel code phase >>= K) [],
        catcherAt (handleCommands fuel hostname (rounds + 1) s) (line ++ crlf) mailbox⟩ := by
    rw [SmtpStream.command, bind_assoc]
    exact client_plays (play_sendLine line [])
  have hanswers : Talks id timestamp
      ⟨clientAt (SmtpStream.plain.awaitReply clientFuel code phase >>= K) [],
        catcherAt (handleCommands fuel hostname (rounds + 1) s) (line ++ crlf) mailbox⟩
      ⟨clientAt (SmtpStream.plain.awaitReply clientFuel code phase >>= K) reply,
        catcherAt (handleCommands fuel hostname rounds s') [] mailbox⟩ := by
    exact catcher_round hnext
  exact (hwrites.trans hanswers).trans (client_plays hawait)

/-! ## The commands of a message -/

theorem splitVerb_command {verb : List Char} (hverb : verb ≠ [])
    (h : ∀ c ∈ verb, isWhitespace c = false) (args : List Char) :
    splitVerb (trimEol (verb ++ ' ' :: args)) =
      some (toUppercase verb, trimStart (trimEol args)) := by
  rw [trimEol_append verb (by decide), splitVerb_word hverb h]

/-- The catcher answers EHLO. -/
theorem play_ehlo {name : List Char} (hname : '\n' ∉ name)
    (hlength : byteLen ("EHLO ".toList ++ name ++ crlf) ≤ maxLineBytes) :
    play (catcherPort id timestamp) '\n' (handleNext fuel hostname s).run
        ("EHLO ".toList ++ name ++ crlf) =
      some ⟨.ok (some s), ("250-".toList ++ hostname ++ crlf) ++
        (("250-SIZE 10485760".toList ++ crlf) ++ ("250 SMTPUTF8".toList ++ crlf)), [], []⟩ := by
  have hverb : splitVerb (trimEol ("EHLO ".toList ++ name)) =
      some ("EHLO".toList, trimStart (trimEol name)) :=
    splitVerb_command (show "EHLO".toList ≠ [] by decide) (by decide) name
  refine play_handleNext (by simp [hname]) hlength hverb ?_
  have hehlo : Verb.ofText "EHLO".toList = .ehlo := by decide
  rw [hehlo, handleVerb, play_bind_ok (play_writeLine _ _), play_bind_ok (play_writeLine _ _),
    play_answer]
  simp [Played.after]

variable (id timestamp fuel hostname s) in
/-- The catcher answers MAIL, and remembers the sender. -/
theorem play_mail {sender : List Char} (hsender : '\n' ∉ sender)
    (hlength : byteLen ("MAIL FROM:<".toList ++ sender ++ ">".toList ++ crlf) ≤ maxLineBytes) :
    ∃ addr, play (catcherPort id timestamp) '\n' (handleNext fuel hostname s).run
        ("MAIL FROM:<".toList ++ sender ++ ">".toList ++ crlf) =
      some ⟨.ok (some ⟨some addr, []⟩), "250 2.1.0 OK".toList ++ crlf, [], []⟩ := by
  have htext : "MAIL FROM:<".toList ++ sender ++ ">".toList =
      "MAIL".toList ++ ' ' :: ("FROM:".toList ++ '<' :: (sender ++ ['>'])) := by simp
  have hrest : trimStart ("FROM:".toList ++ '<' :: trimEol (sender ++ ['>'])) =
      "FROM:".toList ++ '<' :: trimEol (sender ++ ['>']) := by simp [trimStart, isWhitespace]
  have hverb : splitVerb (trimEol ("MAIL FROM:<".toList ++ sender ++ ">".toList)) =
      some ("MAIL".toList, "FROM:".toList ++ '<' :: trimEol (sender ++ ['>'])) := by
    rw [htext, splitVerb_command (by decide) (by decide), trimEol_append "FROM:".toList (by decide),
      hrest]
    rfl
  obtain ⟨addr, haddr⟩ := parseAddr_prefix hrest
  refine ⟨addr, play_handleNext (by simp [hsender]) hlength hverb ?_⟩
  have hmail : Verb.ofText "MAIL".toList = .mail := by decide
  rw [hmail, handleVerb, haddr]
  exact play_answer _ _ _

variable (id timestamp fuel hostname s) in
/-- The catcher answers RCPT, and remembers the recipient. -/
theorem play_rcpt {rcpt : List Char} (hrcpt : '\n' ∉ rcpt)
    (hlength : byteLen ("RCPT TO:<".toList ++ rcpt ++ ">".toList ++ crlf) ≤ maxLineBytes) :
    ∃ addr, play (catcherPort id timestamp) '\n' (handleNext fuel hostname s).run
        ("RCPT TO:<".toList ++ rcpt ++ ">".toList ++ crlf) =
      some ⟨.ok (some ⟨s.mailFrom, s.rcpts ++ [addr]⟩), "250 2.1.5 OK".toList ++ crlf, [], []⟩ := by
  have htext : "RCPT TO:<".toList ++ rcpt ++ ">".toList =
      "RCPT".toList ++ ' ' :: ("TO:".toList ++ '<' :: (rcpt ++ ['>'])) := by simp
  have hrest : trimStart ("TO:".toList ++ '<' :: trimEol (rcpt ++ ['>'])) =
      "TO:".toList ++ '<' :: trimEol (rcpt ++ ['>']) := by simp [trimStart, isWhitespace]
  have hverb : splitVerb (trimEol ("RCPT TO:<".toList ++ rcpt ++ ">".toList)) =
      some ("RCPT".toList, "TO:".toList ++ '<' :: trimEol (rcpt ++ ['>'])) := by
    rw [htext, splitVerb_command (by decide) (by decide), trimEol_append "TO:".toList (by decide),
      hrest]
    rfl
  obtain ⟨addr, haddr⟩ := parseAddr_prefix hrest
  refine ⟨addr, play_handleNext (by simp [hrcpt]) hlength hverb ?_⟩
  have hverbRcpt : Verb.ofText "RCPT".toList = .rcpt := by decide
  rw [hverbRcpt, handleVerb, haddr]
  exact play_answer _ _ _

/-- The catcher asks for the message. -/
theorem catcher_data {addr rcpt : List Char} {rcpts : List (List Char)} {rounds : ℕ}
    {mailbox : List Email} {other : End SmtpOp SmtpOp.Resp Char Email (Except Stop Unit)} :
    Talks id timestamp
      ⟨other, catcherAt (handleCommands fuel hostname (rounds + 1) ⟨some addr, rcpt :: rcpts⟩)
        ("DATA".toList ++ crlf) mailbox⟩
      ⟨other.receive ("354 End data with <CR><LF>.<CR><LF>".toList ++ crlf),
        catcherAt (takeMessage fuel addr (rcpt :: rcpts) >>= handleCommands fuel hostname rounds)
          [] mailbox⟩ := by
  have hverb : splitVerb (trimEol ("DATA".toList ++ crlf)) = some ("DATA".toList, []) := by decide
  have hdata : Verb.ofText "DATA".toList = .data := by decide
  have hcommand : handleCommand fuel hostname ⟨some addr, rcpt :: rcpts⟩ ("DATA".toList ++ crlf) =
      Catcher.writeLine "354 End data with <CR><LF>.<CR><LF>".toList >>= fun _ =>
        takeMessage fuel addr (rcpt :: rcpts) >>= fun s' => pure (some s') := by
    rw [handleCommand, hverb]
    simp only [hdata, handleVerb, handleData, bind_assoc]
  have hwrite : Talks id timestamp
      ⟨other, catcherAt (Catcher.writeLine "354 End data with <CR><LF>.<CR><LF>".toList >>= fun _ =>
        takeMessage fuel addr (rcpt :: rcpts) >>= handleCommands fuel hostname rounds) [] mailbox⟩
      ⟨other.receive ("354 End data with <CR><LF>.<CR><LF>".toList ++ crlf),
        catcherAt (takeMessage fuel addr (rcpt :: rcpts) >>= handleCommands fuel hostname rounds)
          [] (mailbox ++ [])⟩ := catcher_plays (play_writeLine _ _)
  rw [List.append_nil] at hwrite
  rw [handleCommands, handleNext, bind_assoc]
  refine (catcher_plays (play_readCommand (by decide) (by decide))).trans ?_
  rw [End.receive_nil, List.append_nil, hcommand, if_neg (by decide)]
  simp only [bind_assoc, pure_bind]
  exact hwrite

/-- **The command DATA**: the catcher is left waiting for the message. -/
theorem data_round {addr rcpt : List Char} {rcpts : List (List Char)} {clientFuel rounds : ℕ}
    {mailbox : List Email} (K : List (List Char) → Smtp Unit) : ∃ lines, Talks id timestamp
      ⟨clientAt (SmtpStream.plain.command (clientFuel + 1) "DATA".toList 354 "DATA" >>= K) [],
        catcherAt (handleCommands fuel hostname (rounds + 1) ⟨some addr, rcpt :: rcpts⟩) [] mailbox⟩
      ⟨clientAt (K lines) [],
        catcherAt (takeMessage fuel addr (rcpt :: rcpts) >>= handleCommands fuel hostname rounds)
          [] mailbox⟩ := by
  obtain ⟨lines, hawait⟩ := play_awaitReply "DATA"
    (replies_line "354".toList "End data with <CR><LF>.<CR><LF>".toList (by decide)
      (show parseU16 "354".toList = some 354 by decide) (by decide) clientFuel)
  refine ⟨lines, ?_⟩
  rw [SmtpStream.command, bind_assoc]
  refine (client_plays (play_sendLine _ _)).trans ?_
  rw [catcherAt_receive, List.nil_append]
  refine catcher_data.trans ?_
  rw [clientAt_receive, List.nil_append]
  exact client_plays hawait

/-! ## The message and the end -/

theorem play_sendMessage {message : List Char} (h : crlf <:+ message) (inbox : List Char) :
    play clientPort '\n' (SmtpSenderClient.sendMessage .plain message).run inbox =
      some ⟨.ok (), message ++ '.' :: crlf, [], inbox⟩ := by
  have hend : SmtpSenderClient.endMessage .plain message = pure () := if_pos h
  have hcalls : play clientPort '\n' (SmtpSenderClient.sendMessage .plain message).run inbox =
      some ⟨.ok (), message ++ ('.' :: crlf ++ ([] ++ [])), [], inbox⟩ := by
    rw [SmtpSenderClient.sendMessage, hend]
    rfl
  rw [hcalls]
  simp

/-- The catcher takes the message and queues it. -/
theorem play_takeMessage {lines : List (List Char)} {addr : List Char} {rcpts : List (List Char)}
    (h : ∀ line ∈ lines, '\n' ∉ line ∧ trimEol line ≠ ['.']) (hfuel : lines.length < fuel)
    (hlength : byteLen (lines.flatMap fun line => unstuff line ++ ['\n']) ≤ maxMessageBytes) :
    play (catcherPort id timestamp) '\n' (takeMessage fuel addr rcpts).run
        (lines.flatMap (· ++ crlf) ++ '.' :: crlf) =
      some ⟨.ok ⟨none, []⟩, "250 2.0.0 OK: message queued".toList ++ crlf,
        [parseEmail id timestamp addr rcpts (lines.flatMap fun line => unstuff line ++ ['\n'])],
        []⟩ := by
  have hdata := play_readDataFrom id timestamp h [] fuel [] hfuel hlength
  rw [List.append_nil, List.nil_append] at hdata
  rw [takeMessage, readData, play_bind_silent hdata]
  rfl

/-- **The message**: the client writes it, the catcher queues it, and both go on. -/
theorem message_round {lines : List (List Char)} {message addr : List Char}
    {rcpts : List (List Char)} {clientFuel rounds : ℕ} {mailbox : List Email} (K : Smtp Unit)
    (hmessage : message = lines.flatMap (· ++ crlf)) (hsuffix : crlf <:+ message)
    (hframed : ∀ line ∈ lines, '\n' ∉ line ∧ trimEol line ≠ ['.']) (hfuel : lines.length < fuel)
    (hlength : byteLen (lines.flatMap fun line => unstuff line ++ ['\n']) ≤ maxMessageBytes) :
    Talks id timestamp
      ⟨clientAt (SmtpSenderClient.sendMessage .plain message >>= fun _ =>
          SmtpStream.plain.readReply (clientFuel + 1) >>= fun reply =>
            check (reply.1 = 250) (.rejected reply.1 "message") >>= fun _ => K) [],
        catcherAt (takeMessage fuel addr rcpts >>= handleCommands fuel hostname rounds) [] mailbox⟩
      ⟨clientAt K [], catcherAt (handleCommands fuel hostname rounds ⟨none, []⟩) []
        (mailbox ++ [parseEmail id timestamp addr rcpts
          (lines.flatMap fun line => unstuff line ++ ['\n'])])⟩ := by
  obtain ⟨_, hqueued⟩ := replies_line "250".toList "2.0.0 OK: message queued".toList (by decide)
    (show parseU16 "250".toList = some 250 by decide) (by decide) clientFuel
  have hchecked (inbox : List Char) : play clientPort '\n'
      (check ((250 : UInt16) = 250) (.rejected 250 "message")).run inbox =
        some ⟨.ok (), [], [], inbox⟩ := rfl
  refine (client_plays (play_sendMessage hsuffix [])).trans ?_
  rw [catcherAt_receive, List.nil_append, hmessage]
  refine (catcher_plays (play_takeMessage hframed hfuel hlength)).trans ?_
  rw [clientAt_receive, List.nil_append]
  refine (client_plays hqueued).trans ?_
  rw [End.receive_nil]
  exact client_plays (hchecked [])

/-- What a command sends before its reply is read, also when the result is ignored. -/
theorem dropError_plays {α β : Type} {m : Smtp α} {K : α → Smtp β} {inbox sent unread : List Char}
    {a : α} {other : End CatcherOp CatcherOp.Resp Char Email (Except Stop Unit)}
    (h : play clientPort '\n' m.run inbox = some ⟨.ok a, sent, [], unread⟩) :
    Talks id timestamp ⟨clientAt (dropError (m >>= K)) inbox, other⟩
      ⟨clientAt (dropError (K a)) unread, other.receive sent⟩ := by
  have hprog : (dropError (m >>= K)).run =
      m.run >>= fun r => ExceptT.bindCont K r >>= fun r' => pure (dropped r') := by
    show (m.run >>= ExceptT.bindCont K) >>= (fun r' => pure (dropped r')) = _
    rw [bind_assoc]
  have hplays : Talks id timestamp
      ⟨⟨m.run >>= fun r => ExceptT.bindCont K r >>= fun r' => pure (dropped r'), inbox, []⟩, other⟩
      ⟨⟨ExceptT.bindCont K (.ok a) >>= fun r' => pure (dropped r'), unread, [] ++ []⟩,
        other.receive sent⟩ := reaches_left h
  unfold clientAt
  rw [hprog]
  exact hplays

theorem dropError_ends {α : Type} {m : Smtp α} {inbox unread : List Char} {a : α}
    {other : End CatcherOp CatcherOp.Resp Char Email (Except Stop Unit)}
    (h : play clientPort '\n' m.run inbox = some ⟨.ok a, [], [], unread⟩) :
    Talks id timestamp ⟨clientAt (dropError m) inbox, other⟩
      ⟨clientAt (pure ()) unread, other⟩ := by
  have hplays : Talks id timestamp
      ⟨⟨m.run >>= fun r => pure (dropped r), inbox, []⟩, other⟩
      ⟨⟨pure (dropped (.ok a)), unread, [] ++ []⟩, other.receive []⟩ := reaches_left h
  rw [End.receive_nil] at hplays
  exact hplays

/-- The catcher answers QUIT, and its connection ends. -/
theorem catcher_quit {rounds : ℕ} {mailbox : List Email}
    {other : End SmtpOp SmtpOp.Resp Char Email (Except Stop Unit)} :
    Talks id timestamp
      ⟨other, catcherAt (handleCommands fuel hostname (rounds + 1) s) ("QUIT".toList ++ crlf) mailbox⟩
      ⟨other.receive ("221 2.0.0 ".toList ++ hostname ++ " closing connection".toList ++ crlf),
        catcherAt (pure ()) [] mailbox⟩ := by
  have hverb : splitVerb (trimEol "QUIT".toList) = some ("QUIT".toList, []) := by decide
  have hquit : Verb.ofText "QUIT".toList = .quit := by decide
  have hnext : play (catcherPort id timestamp) '\n' (handleNext fuel hostname s).run
      ("QUIT".toList ++ crlf) =
      some ⟨.ok none, "221 2.0.0 ".toList ++ hostname ++ " closing connection".toList ++ crlf, [],
        []⟩ := by
    refine play_handleNext (by decide) (by decide) hverb ?_
    rw [hquit, handleVerb]
    exact play_answer _ _ _
  have hround : Talks id timestamp
      ⟨other, catcherAt (handleCommands fuel hostname (rounds + 1) s) ("QUIT".toList ++ crlf) mailbox⟩
      ⟨other.receive ("221 2.0.0 ".toList ++ hostname ++ " closing connection".toList ++ crlf),
        catcherAt (pure ()) [] (mailbox ++ [])⟩ := by
    rw [handleCommands]
    exact catcher_plays hnext
  rwa [List.append_nil] at hround

/-- **The end**: whatever the client makes of the reply to QUIT, both return. -/
theorem quit_round {clientFuel rounds : ℕ} {mailbox : List Email} (hhostname : '\n' ∉ hostname) :
    Talks id timestamp
      ⟨clientAt (dropError (SmtpStream.plain.command (clientFuel + 1) "QUIT".toList 221 "QUIT")) [],
        catcherAt (handleCommands fuel hostname (rounds + 1) s) [] mailbox⟩
      ⟨clientAt (pure ()) [], catcherAt (pure ()) [] mailbox⟩ := by
  obtain ⟨_, hclosing⟩ := play_awaitReply "QUIT"
    (replies_line "221".toList ("2.0.0 ".toList ++ hostname ++ " closing connection".toList)
      (by decide) (show parseU16 "221".toList = some 221 by decide) (by simp [hhostname]) clientFuel)
  refine (dropError_plays (play_sendLine _ _)).trans ?_
  rw [catcherAt_receive, List.nil_append]
  refine catcher_quit.trans ?_
  rw [clientAt_receive, List.nil_append]
  exact dropError_ends hclosing

end Rounds

/-! ## The whole dialogue -/

section Dialogue

variable {X : Crates} {c : SmtpSenderClient} {clientFuel rounds fuel : ℕ}
  {hostname rcpt subject body : List Char} {mailbox : List Email}

/-- Without TLS and a login, the dialogue is a greeting, EHLO, and the message. -/
theorem sendEmail_eq (htls : c.tlsMode = .none) (hcreds : c.credentials = none) :
    c.sendEmail X clientFuel rcpt subject body =
      (smtpCall .connect (.connect c.smtpHost c.smtpPort) : Smtp Unit) >>= fun _ =>
        SmtpStream.plain.readReply clientFuel >>= fun greeting =>
          check (greeting.1 = 220) (.rejected greeting.1 "greeting") >>= fun _ =>
            SmtpStream.plain.command clientFuel c.ehlo 250 "EHLO" >>= fun _ =>
              c.transact X clientFuel .plain rcpt subject body := by
  have hstart : check (¬ (c.credentials.isSome = true ∧ c.tlsMode = .none)) .authRequiresTls =
      pure () := if_pos (by simp [hcreds])
  have htlsStep (caps : List (List Char)) :
      c.startTls clientFuel .plain caps = pure (.plain, caps) := by
    unfold SmtpSenderClient.startTls
    rw [htls]
  have hauth (caps : List (List Char)) :
      c.authenticate X clientFuel .plain caps = pure () := by
    unfold SmtpSenderClient.authenticate
    rw [hcreds]
  rw [SmtpSenderClient.sendEmail, hstart]
  simp only [htlsStep, hauth, pure_bind]
  rfl

/-- The greeting and EHLO. -/
theorem greeting_talks (htls : c.tlsMode = .none) (hcreds : c.credentials = none)
    (hname : '\n' ∉ c.ehloName) (hhostname : '\n' ∉ hostname)
    (hlength : byteLen (c.ehlo ++ crlf) ≤ maxLineBytes) :
    Talks id timestamp
      ⟨clientAt (c.sendEmail X (clientFuel + 3) rcpt subject body) [],
        catcherAt (Catcher.writeLine ("220 ".toList ++ hostname ++ " ESMTP cctf-rs catcher".toList)
          >>= fun _ => handleCommands fuel hostname (rounds + 1) ⟨none, []⟩) [] mailbox⟩
      ⟨clientAt (c.transact X (clientFuel + 3) .plain rcpt subject body) [],
        catcherAt (handleCommands fuel hostname rounds ⟨none, []⟩) [] mailbox⟩ := by
  obtain ⟨lines, hgreeting⟩ : Replies (clientFuel + 3) 220
      ("220 ".toList ++ hostname ++ " ESMTP cctf-rs catcher".toList ++ crlf) := by
    have hrest : '\n' ∉ hostname ++ " ESMTP cctf-rs catcher".toList := by simp [hhostname]
    have hreply : Replies (clientFuel + 3) 220 ("220".toList ++
        ' ' :: (hostname ++ " ESMTP cctf-rs catcher".toList) ++ crlf) :=
      replies_line _ _ (by decide) (by decide) (by simpa using hrest) (clientFuel + 2)
    simpa using hreply
  have hchecked (inbox : List Char) : play clientPort '\n'
      (check ((220 : UInt16) = 220) (.rejected 220 "greeting")).run inbox =
        some ⟨.ok (), [], [], inbox⟩ := rfl
  have hnext : play (catcherPort id timestamp) '\n' (handleNext fuel hostname ⟨none, []⟩).run
      (c.ehlo ++ crlf) = some ⟨.ok (some ⟨none, []⟩), _, [], []⟩ := play_ehlo hname hlength
  obtain ⟨caps, hehlo⟩ := command_round "EHLO"
    (fun _ => c.transact X (clientFuel + 3) .plain rcpt subject body) hnext
    (replies_ehlo hhostname clientFuel)
  have hconnect : play clientPort '\n'
      (smtpCall .connect (.connect c.smtpHost c.smtpPort) : Smtp Unit).run [] =
        some ⟨.ok (), [], [], []⟩ := rfl
  rw [sendEmail_eq htls hcreds]
  refine (client_plays hconnect).trans ?_
  rw [End.receive_nil]
  refine (catcher_plays (play_writeLine _ _)).trans ?_
  rw [clientAt_receive, List.nil_append, List.append_nil]
  refine (client_plays hgreeting).trans ?_
  rw [End.receive_nil]
  refine (client_plays (hchecked [])).trans ?_
  rw [End.receive_nil]
  exact hehlo

/-- The sender, the recipient, the message, and the end. -/
theorem transact_talks (hfrom : Clean c.fromEmail) (hrcpt : Clean rcpt) (hsubject : Clean subject)
    (hhostname : '\n' ∉ hostname)
    (hmail : byteLen ("MAIL FROM:<".toList ++ c.fromEmail ++ ">".toList ++ crlf) ≤ maxLineBytes)
    (hto : byteLen ("RCPT TO:<".toList ++ rcpt ++ ">".toList ++ crlf) ≤ maxLineBytes)
    (hmessage : byteLen (receivedText X c.fromEmail rcpt subject body) ≤ maxMessageBytes)
    (hfuel : (messageLines X c.fromEmail rcpt subject body).length < fuel) :
    Talks id timestamp
      ⟨clientAt (c.transact X (clientFuel + 1) .plain rcpt subject body) [],
        catcherAt (handleCommands fuel hostname (rounds + 4) ⟨none, []⟩) [] mailbox⟩
      ⟨clientAt (pure ()) [], catcherAt (pure ()) []
        (mailbox ++ [⟨id, trimChars c.fromEmail, trimChars rcpt, trimChars subject,
          receivedBody body, timestamp⟩])⟩ := by
  have hframed : ∀ line ∈ messageLines X c.fromEmail rcpt subject body,
      '\n' ∉ line ∧ trimEol line ≠ ['.'] := fun line hline => messageLines_framed hfrom hline
  have hlength : byteLen ((messageLines X c.fromEmail rcpt subject body).flatMap fun line =>
      unstuff line ++ ['\n']) ≤ maxMessageBytes := by
    rw [← receivedText_eq hfrom]
    exact hmessage
  have h250 : byteLen "250".toList = 3 := by decide
  have hcode : parseU16 "250".toList = some 250 := by decide
  obtain ⟨addr, hnextMail⟩ := play_mail id timestamp fuel hostname ⟨none, []⟩ hfrom.not_mem hmail
  obtain ⟨addr', hnextRcpt⟩ := play_rcpt id timestamp fuel hostname ⟨some addr, []⟩ hrcpt.not_mem hto
  unfold SmtpSenderClient.transact
  obtain ⟨_, hmailRound⟩ := command_round "MAIL FROM" _ hnextMail
    (replies_line "250".toList "2.1.0 OK".toList h250 hcode (by decide) clientFuel)
  refine hmailRound.trans ?_
  obtain ⟨_, hrcptRound⟩ := command_round "RCPT TO" _ hnextRcpt
    (replies_line "250".toList "2.1.5 OK".toList h250 hcode (by decide) clientFuel)
  refine hrcptRound.trans ?_
  obtain ⟨_, hdata⟩ := data_round _
  refine hdata.trans ?_
  refine (message_round _ (buildMessage_eq X c.fromEmail rcpt subject body)
    (crlf_suffix_buildMessage X c.fromEmail rcpt subject body) hframed hfuel hlength).trans ?_
  rw [← receivedText_eq hfrom, parseEmail_receivedText hfrom hrcpt hsubject]
  exact quit_round hhostname

/-! ## Delivery -/

/-- The connection at its start: neither has sent anything. -/
def connection (X : Crates) (c : SmtpSenderClient) (clientFuel catcherFuel : ℕ)
    (hostname rcpt subject body : List Char) (mailbox : List Email) : MailLink :=
  ⟨clientAt (c.sendEmail X clientFuel rcpt subject body) [],
    catcherAt (handleConnection catcherFuel hostname) [] mailbox⟩

/-- The connection at its end: both have returned without an error, and nothing is left to
read. -/
def hungUp (mailbox : List Email) : MailLink :=
  ⟨clientAt (pure ()) [], catcherAt (pure ()) [] mailbox⟩

/-- The command lines with the arguments of the client. -/
def argumentLines (c : SmtpSenderClient) (rcpt : List Char) : List (List Char) :=
  [c.ehlo, "MAIL FROM:<".toList ++ c.fromEmail ++ ">".toList,
    "RCPT TO:<".toList ++ rcpt ++ ">".toList]

/-- The text after DATA, as lines: the last is a single dot, and no other is. -/
theorem message_framed (hfrom : Clean c.fromEmail) :
    ∃ lines, Lines.complete '\n' (buildMessage X c.fromEmail rcpt subject body ++ '.' :: crlf) =
        lines ++ ['.' :: crlf] ∧ ∀ line ∈ lines, trimEol line ≠ ['.'] := by
  have hlines : ∀ line ∈ messageLines X c.fromEmail rcpt subject body ++ [['.']], '\n' ∉ line := by
    intro line hline
    rcases List.mem_append.1 hline with hmessage | hdot
    · exact (messageLines_framed hfrom hmessage).1
    · obtain rfl := List.mem_singleton.1 hdot
      decide
  have htext : buildMessage X c.fromEmail rcpt subject body ++ '.' :: crlf =
      (messageLines X c.fromEmail rcpt subject body ++ [['.']]).flatMap (· ++ crlf) := by
    rw [buildMessage_eq]
    simp
  refine ⟨(messageLines X c.fromEmail rcpt subject body).map (· ++ crlf), ?_, ?_⟩
  · rw [htext, complete_crlf hlines]
    simp
  · intro line hline
    obtain ⟨line', hline', rfl⟩ := List.mem_map.1 hline
    rw [trimEol_crlf]
    exact (messageLines_framed hfrom hline').2

/-- **Mail arrives intact.**  Whatever the order in which the client and the catcher move,
both return without an error, and the mailbox has one more message, the one that was sent;
of the text after DATA only the last line is a single dot. -/
theorem mail_delivered (X : Crates) (c : SmtpSenderClient)
    (hostname rcpt subject body id : List Char) (timestamp : ℤ) (mailbox : List Email)
    (htls : c.tlsMode = .none) (hcreds : c.credentials = none)
    (hfrom : Clean c.fromEmail) (hrcpt : Clean rcpt) (hsubject : Clean subject)
    (hname : '\n' ∉ c.ehloName) (hhostname : '\n' ∉ hostname)
    (hcommands : ∀ line ∈ argumentLines c rcpt, byteLen (line ++ crlf) ≤ maxLineBytes)
    (hmessage : byteLen (receivedText X c.fromEmail rcpt subject body) ≤ maxMessageBytes)
    (clientFuel catcherFuel : ℕ) (hclient : 3 ≤ clientFuel)
    (hcatcher : (messageLines X c.fromEmail rcpt subject body).length < catcherFuel) :
    EndsIn clientPort (catcherPort id timestamp) '\n'
        (connection X c clientFuel catcherFuel hostname rcpt subject body mailbox)
        (hungUp (mailbox ++ [⟨id, trimChars c.fromEmail, trimChars rcpt, trimChars subject,
          receivedBody body, timestamp⟩])) ∧
      ∃ text, (∀ inbox, play clientPort '\n' (SmtpSenderClient.sendMessage .plain
          (buildMessage X c.fromEmail rcpt subject body)).run inbox =
            some ⟨.ok (), text, [], inbox⟩) ∧
        ∃ lines, Lines.complete '\n' text = lines ++ ['.' :: crlf] ∧
          ∀ line ∈ lines, trimEol line ≠ ['.'] := by
  have hfinal : Final clientPort (catcherPort id timestamp) '\n'
      (hungUp (mailbox ++ [⟨id, trimChars c.fromEmail, trimChars rcpt, trimChars subject,
        receivedBody body, timestamp⟩])) := by
    intro side
    cases side with
    | left => rfl
    | right => rfl
  have hsuffix := crlf_suffix_buildMessage X c.fromEmail rcpt subject body
  obtain ⟨clientFuel, rfl⟩ : ∃ n, clientFuel = n + 3 := ⟨clientFuel - 3, by omega⟩
  obtain ⟨rounds, hrounds⟩ : ∃ n, catcherFuel = n + 5 := by
    refine ⟨catcherFuel - 5, ?_⟩
    simp [messageLines, messageHeaders] at hcatcher
    omega
  simp only [argumentLines, List.forall_mem_cons] at hcommands
  obtain ⟨hehlo, hmail, hto, -⟩ := hcommands
  refine ⟨endsIn_of_reaches hfinal ?_, _, play_sendMessage hsuffix, message_framed hfrom⟩
  have hgreeting : Talks id timestamp
      (connection X c (clientFuel + 3) catcherFuel hostname rcpt subject body mailbox)
      ⟨clientAt (c.transact X (clientFuel + 3) .plain rcpt subject body) [],
        catcherAt (handleCommands catcherFuel hostname (rounds + 4) ⟨none, []⟩) [] mailbox⟩ := by
    unfold connection handleConnection
    nth_rewrite 2 [hrounds]
    exact greeting_talks htls hcreds hname hhostname hehlo
  exact hgreeting.trans
    (transact_talks hfrom hrcpt hsubject hhostname hmail hto hmessage hcatcher)

end Dialogue

/-- A body with a leading dot, an empty line and carriage returns. -/
theorem mail_delivered_dots :
    EndsIn clientPort (catcherPort "1".toList 0) '\n'
        (connection Crates.sample
          (SmtpSenderClient.new "127.0.0.1".toList 2525 "noreply@cctf.rs".toList) 3 20
          "cctf-catcher".toList "captain@chordjack.dev".toList "Verify".toList
          "\n.leading dot\r\r\nGLHF".toList [])
        (hungUp [⟨"1".toList, "noreply@cctf.rs".toList, "captain@chordjack.dev".toList,
          "Verify".toList, "\n.leading dot\nGLHF\n".toList, 0⟩]) :=
  (mail_delivered Crates.sample
    (SmtpSenderClient.new "127.0.0.1".toList 2525 "noreply@cctf.rs".toList)
    "cctf-catcher".toList "captain@chordjack.dev".toList "Verify".toList
    "\n.leading dot\r\r\nGLHF".toList "1".toList 0 [] rfl rfl (by decide) (by decide) (by decide)
    (by decide) (by decide) (by decide) (by decide +kernel) 3 20 (by decide) (by decide)).1

end Cctf
