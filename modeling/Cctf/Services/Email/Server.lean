import Cctf.Library.Program
import Cctf.Library.Slices
import Cctf.Services.Email

/-!
# The mail catcher

`SmtpCatcherServer` takes mail over SMTP and keeps it in a mailbox.  This is one of its
connections.

* `CatcherOp` — the calls of a connection: its stream, a fresh id, the time, the mailbox.
* `splitVerb`, `parseAddr` — how a command line is read.
* `readData` — the text of a message, unstuffed.
* `headerValue`, `parseEmail` — the message it becomes.
* `handleCommand`, `handleConnection` — the dialogue.
-/

namespace Cctf

open Text

/-! ## Calls -/

/-- The calls of a connection.  An empty line is the end of the stream. -/
inductive CatcherOp where
  | readLine
  | writeAll (text : List Char)
  | flush
  /-- `uuid::Uuid::new_v4()`, as text. -/
  | newId
  /-- `chrono::Utc::now().timestamp()`. -/
  | now
  /-- `mailbox.lock().await.push(email)`. -/
  | push (email : Email)
  deriving DecidableEq, Repr

namespace CatcherOp

/-- What a call returns; the stream may fail. -/
def Resp : CatcherOp → Type
  | .readLine => Except String (List Char)
  | .writeAll _ => Except String Unit
  | .flush => Except String Unit
  | .newId => List Char
  | .now => ℤ
  | .push _ => Unit

end CatcherOp

/-- The programs of a connection. -/
abbrev Catcher (α : Type) : Type := ExceptT Stop (Program CatcherOp CatcherOp.Resp) α

namespace Catcher

/-- The `?` of a call on the stream. -/
def orIo {α : Type} (r : Except String α) : Except Stop α :=
  r.mapError fun reason => .err (.io reason)

def readLine : Catcher (List Char) :=
  ExceptT.mk (.call .readLine fun (r : Except String (List Char)) => .done (orIo r))

def writeAll (text : List Char) : Catcher Unit :=
  ExceptT.mk (.call (.writeAll text) fun (r : Except String Unit) => .done (orIo r))

def flush : Catcher Unit :=
  ExceptT.mk (.call .flush fun (r : Except String Unit) => .done (orIo r))

def newId : Catcher (List Char) :=
  ExceptT.mk (.call .newId fun (id : List Char) => .done (.ok id))

def now : Catcher ℤ := ExceptT.mk (.call .now fun (t : ℤ) => .done (.ok t))

def push (email : Email) : Catcher Unit := ExceptT.mk (.call (.push email) fun _ => .done (.ok ()))

def writeLine (line : List Char) : Catcher Unit := do
  writeAll line
  writeAll crlf
  flush

end Catcher

namespace SmtpCatcherServer

open Catcher

def maxLineBytes : ℕ := 64 * 1024

def maxMessageBytes : ℕ := 10 * 1024 * 1024

/-! ## Lines -/

def readCommand : Catcher (List Char) := do
  let line ← readLine
  if maxLineBytes < byteLen line then throw (.err .messageTooLarge) else pure line

/-- The loop of `read_data`; `data` has been read. -/
def readDataFrom : ℕ → List Char → Catcher (List Char)
  | 0, _ => throw .fuel
  | fuel + 1, data => do
    let line ← readLine
    if line = [] then throw (.err .unexpectedEof)
    else if trimEol line = ['.'] then pure data
    else
      let unstuffed := stripPrefix '.' (trimEol line)
      if maxMessageBytes < byteLen data + byteLen unstuffed + 1 then
        throw (.err .messageTooLarge)
      else readDataFrom fuel (data ++ unstuffed ++ ['\n'])

def readData (fuel : ℕ) : Catcher (List Char) := readDataFrom fuel []

/-! ## Commands -/

/-- The upper case of a character, where it is a text in ASCII.  `str::to_uppercase` also
changes other characters, but to texts that are not in ASCII, and so no verb. -/
def upperChars : Char → List Char
  | 'ı' => ['I']
  | 'ſ' => ['S']
  | 'ß' => ['S', 'S']
  | 'ﬀ' => ['F', 'F']
  | 'ﬁ' => ['F', 'I']
  | 'ﬂ' => ['F', 'L']
  | 'ﬃ' => ['F', 'F', 'I']
  | 'ﬄ' => ['F', 'F', 'L']
  | 'ﬅ' => ['S', 'T']
  | 'ﬆ' => ['S', 'T']
  | c => [c.toUpper]

def toUppercase (cs : List Char) : List Char := cs.flatMap upperChars

/-- The first word, in upper case, and what follows it; `none` where it panics: the rest
is cut one byte after the start of the whitespace. -/
def splitVerb (line : List Char) : Option (List Char × List Char) :=
  match (trimStart line).span fun c => !isWhitespace c with
  | (verb, []) => some (toUppercase verb, [])
  | (verb, w :: rest) =>
    if w.utf8Size = 1 then some (toUppercase verb, trimStart rest) else none

/-- The address after a prefix, if the prefix is there; the outer `none` is a panic. -/
def parseAddr (rest pre : List Char) : Option (Option (List Char)) :=
  let rest := trimStart rest
  if byteLen rest < byteLen pre then some none
  else
    (splitAtByte (byteLen pre) rest).map fun cut =>
      if eqIgnoreAsciiCase cut.1 pre then
        let after := trimChars cut.2
        let inside :=
          if after.head? = some '<' then after.tail.takeWhile (· != '>') else after
        some (trimChars inside)
      else none

/-- The verbs a connection knows. -/
inductive Verb where
  | helo
  | ehlo
  | mail
  | rcpt
  | data
  | rset
  | noop
  | vrfy
  | quit
  | empty
  | other
  deriving DecidableEq, Repr

/-- The verb a command line begins with. -/
def Verb.ofText (verb : List Char) : Verb :=
  if verb = "HELO".toList then .helo
  else if verb = "EHLO".toList then .ehlo
  else if verb = "MAIL".toList then .mail
  else if verb = "RCPT".toList then .rcpt
  else if verb = "DATA".toList then .data
  else if verb = "RSET".toList then .rset
  else if verb = "NOOP".toList then .noop
  else if verb = "VRFY".toList then .vrfy
  else if verb = "QUIT".toList then .quit
  else if verb = [] then .empty
  else .other

/-! ## Messages -/

/-- The value of the first header line with a name. -/
def headerIn (name : List Char) : List (List Char) → Option (List Char)
  | [] => none
  | line :: rest =>
    match splitOnce [':'] line with
    | some (before, after) =>
      if eqIgnoreAsciiCase (trimChars before) name then some (trimChars after)
      else headerIn name rest
    | none => headerIn name rest

def headerValue (block name : List Char) : Option (List Char) := headerIn name (lines block)

/-- The headers and the body of a text. -/
def splitMessage (raw : List Char) : List Char × List Char :=
  match splitOnce (crlf ++ crlf) raw with
  | some r => r
  | none =>
    match splitOnce ['\n', '\n'] raw with
    | some r => r
    | none => ([], raw)

def parseEmail (id : List Char) (timestamp : ℤ) (envelopeFrom : List Char)
    (rcpts : List (List Char)) (raw : List Char) : Email where
  id := id
  «from» := (headerValue (splitMessage raw).1 "From".toList).getD envelopeFrom
  «to» := (headerValue (splitMessage raw).1 "To".toList).getD (join ", ".toList rcpts)
  subject := (headerValue (splitMessage raw).1 "Subject".toList).getD []
  body := (splitMessage raw).2
  timestamp := timestamp

/-! ## The dialogue -/

/-- What a connection remembers between commands. -/
structure Session where
  mailFrom : Option (List Char)
  rcpts : List (List Char)
  deriving DecidableEq, Repr

variable (fuel : ℕ) (hostname : List Char)

/-- The message that follows the reply to `DATA`. -/
def takeMessage (envelopeFrom : List Char) (rcpts : List (List Char)) : Catcher Session := do
  let raw ← readData fuel
  let id ← newId
  let timestamp ← now
  push (parseEmail id timestamp envelopeFrom rcpts raw)
  writeLine "250 2.0.0 OK: message queued".toList
  pure ⟨none, []⟩

/-- `DATA`. -/
def handleData (s : Session) : Catcher Session :=
  match s.mailFrom, s.rcpts with
  | some envelopeFrom, rcpt :: rcpts => do
    writeLine "354 End data with <CR><LF>.<CR><LF>".toList
    takeMessage fuel envelopeFrom (rcpt :: rcpts)
  | _, _ => do
    writeLine "503 5.5.1 Need MAIL and RCPT first".toList
    pure s

/-- Answer a verb; `none` ends the connection. -/
def handleVerb (s : Session) (rest : List Char) : Verb → Catcher (Option Session)
  | .helo => do
    writeLine ("250 ".toList ++ hostname)
    pure (some s)
  | .ehlo => do
    writeLine ("250-".toList ++ hostname)
    writeLine "250-SIZE 10485760".toList
    writeLine "250 SMTPUTF8".toList
    pure (some s)
  | .mail =>
    match parseAddr rest "FROM:".toList with
    | none => throw .panic
    | some mailFrom => do
      writeLine "250 2.1.0 OK".toList
      pure (some ⟨mailFrom, []⟩)
  | .rcpt =>
    match parseAddr rest "TO:".toList with
    | none => throw .panic
    | some (some addr) => do
      writeLine "250 2.1.5 OK".toList
      pure (some ⟨s.mailFrom, s.rcpts ++ [addr]⟩)
    | some none => do
      writeLine "501 5.5.4 Syntax: RCPT TO:<address>".toList
      pure (some s)
  | .data => do
    let s' ← handleData fuel s
    pure (some s')
  | .rset => do
    writeLine "250 2.0.0 OK".toList
    pure (some ⟨none, []⟩)
  | .noop => do
    writeLine "250 2.0.0 OK".toList
    pure (some s)
  | .vrfy => do
    writeLine "252 2.5.2 Cannot VRFY user".toList
    pure (some s)
  | .quit => do
    writeLine ("221 2.0.0 ".toList ++ hostname ++ " closing connection".toList)
    pure none
  | .empty => do
    writeLine "500 5.5.2 Error: bad syntax".toList
    pure (some s)
  | .other => do
    writeLine "502 5.5.1 Command not implemented".toList
    pure (some s)

/-- Answer a command line. -/
def handleCommand (s : Session) (line : List Char) : Catcher (Option Session) :=
  match splitVerb (trimEol line) with
  | none => throw .panic
  | some (verb, rest) => handleVerb fuel hostname s rest (Verb.ofText verb)

/-- One round of the loop of `handle_connection`; `none` ends it. -/
def handleNext (s : Session) : Catcher (Option Session) := do
  let line ← readCommand
  if line = [] then pure none else handleCommand fuel hostname s line

/-- The loop of `handle_connection`. -/
def handleCommands : ℕ → Session → Catcher Unit
  | 0, _ => throw .fuel
  | rounds + 1, s => do
    match ← handleNext fuel hostname s with
    | none => pure ()
    | some s' => handleCommands rounds s'

def handleConnection : Catcher Unit := do
  writeLine ("220 ".toList ++ hostname ++ " ESMTP cctf-rs catcher".toList)
  handleCommands fuel hostname fuel ⟨none, []⟩

end SmtpCatcherServer

end Cctf
