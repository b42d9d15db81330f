import Cctf.Library.Program
import Cctf.Library.Slices
import Cctf.Services.Email

/-!
# The SMTP client

`SmtpSenderClient` sends one message over one connection.  The calls it makes are those of
its stream: connect, read a line, write, flush, and the TLS handshake.

* `SmtpOp` — the calls; each says on which stream it is made.
* `readReply`, `sendLine`, `command` — a reply, which may have many lines, and a command
  with its reply.
* `upgrade` — the switch to TLS.
* `buildMessage` — the message with its headers, dot-stuffed.
* `sendEmail` — the dialogue.
-/

namespace Cctf

open Text

/-! ## The client -/

inductive TlsMode where
  | none
  | startTls
  deriving DecidableEq, Repr

structure SmtpCredentials where
  username : List Char
  password : List Char
  deriving DecidableEq, Repr

structure SmtpSenderClient where
  smtpHost : List Char
  smtpPort : UInt16
  fromEmail : List Char
  ehloName : List Char
  tlsMode : TlsMode
  credentials : Option SmtpCredentials
  deriving DecidableEq, Repr

namespace SmtpSenderClient

def new (smtpHost : List Char) (smtpPort : UInt16) (fromEmail : List Char) : SmtpSenderClient where
  smtpHost := smtpHost
  smtpPort := smtpPort
  fromEmail := fromEmail
  ehloName := "localhost".toList
  tlsMode := .none
  credentials := none

def withStarttls (c : SmtpSenderClient) : SmtpSenderClient := { c with tlsMode := .startTls }

def withCredentials (c : SmtpSenderClient) (username password : List Char) : SmtpSenderClient :=
  { c with credentials := some ⟨username, password⟩ }

def withEhloName (c : SmtpSenderClient) (name : List Char) : SmtpSenderClient :=
  { c with ehloName := name }

end SmtpSenderClient

/-- What other crates compute for the client, and what their documentation says of it. -/
structure Crates where
  /-- `BASE64_STANDARD.encode` of the bytes of a string. -/
  encode : List Char → List Char
  /-- `chrono::Utc::now().to_rfc2822()`. -/
  date : List Char
  /-- `uuid::Uuid::new_v4()`, as text. -/
  uuid : List Char
  encode_clean : ∀ text, Clean (encode text)
  date_clean : Clean date
  uuid_clean : Clean uuid

/-- What other crates might compute for a client without a login. -/
def Crates.sample : Crates where
  encode _ := []
  date := "Tue, 1 Jul 2025 10:52:37 +0000".toList
  uuid := "67e55044-10b1-426f-9247-bb680e5fe0c8".toList
  encode_clean _ := by decide
  date_clean := by decide
  uuid_clean := by decide

/-! ## The stream -/

/-- The stream is the TCP connection, or TLS on it. -/
inductive SmtpStream where
  | plain
  | tls
  deriving DecidableEq, Repr

/-- The calls of the client.  An empty line is the end of the stream. -/
inductive SmtpOp where
  | connect (host : List Char) (port : UInt16)
  | readLine (stream : SmtpStream)
  | writeAll (stream : SmtpStream) (text : List Char)
  | flush (stream : SmtpStream)
  /-- `build_tls_connector`. -/
  | buildTlsConnector
  /-- `ServerName::try_from`. -/
  | serverName (host : List Char)
  /-- `BufReader::into_inner`, which drops what is buffered, and `TlsConnector::connect`. -/
  | handshake
  deriving DecidableEq, Repr

namespace SmtpOp

/-- What a call returns. -/
def Answer : SmtpOp → Type
  | .readLine _ => List Char
  | _ => Unit

/-- A call may fail with the text of an error. -/
abbrev Resp (op : SmtpOp) : Type := Except String op.Answer

end SmtpOp

/-- The programs of the client. -/
abbrev Smtp (α : Type) : Type := ExceptT Stop (Program SmtpOp SmtpOp.Resp) α

/-- Make a call; `wrap` is the error it is turned into, as by `.map_err(wrap)?`. -/
def smtpCall (wrap : String → EmailError) (op : SmtpOp) : Smtp op.Answer :=
  ExceptT.mk (.call op fun r => .done (r.mapError fun reason => .err (wrap reason)))

/-- Return an error unless a condition holds. -/
def check (ok : Prop) [Decidable ok] (e : EmailError) : Smtp Unit :=
  if ok then pure () else throw (.err e)

/-- Panic unless there is a value. -/
def orPanic {α : Type} : Option α → Smtp α
  | some a => pure a
  | none => throw .panic

/-- What is left of a result that is ignored: an error is dropped, a panic is not. -/
def dropped {α : Type} : Except Stop α → Except Stop Unit
  | .error .panic => .error .panic
  | .error .fuel => .error .fuel
  | .error (.err _) => .ok ()
  | .ok _ => .ok ()

/-- `let _ = …`. -/
def dropError {α : Type} (m : Smtp α) : Smtp Unit :=
  ExceptT.mk (m.run >>= fun r => pure (dropped r))

namespace SmtpStream

def readLine (stream : SmtpStream) : Smtp (List Char) := smtpCall .io (.readLine stream)

def writeAll (stream : SmtpStream) (text : List Char) : Smtp Unit :=
  smtpCall .io (.writeAll stream text)

def flush (stream : SmtpStream) : Smtp Unit := smtpCall .io (.flush stream)

/-- One line of a reply: its code, the line, and whether it is the last. -/
def replyLine (line : List Char) : Except Stop (UInt16 × List Char × Bool) :=
  if line = [] then .error (.err .unexpectedEof)
  else if byteLen (trimEol line) < 3 then .error (.err .invalidResponse)
  else
    match splitAtByte 3 (trimEol line) with
    | none => .error .panic
    | some (digits, rest) =>
      match parseU16 digits with
      | none => .error (.err .invalidResponse)
      | some code =>
        -- the byte after the code is a space exactly when the character there is one
        .ok (code, trimEol line, byteLen (trimEol line) = 3 ∨ rest.head? = some ' ')

/-- The loop of `read_reply`; `lines` have been read. -/
def readReplyFrom (stream : SmtpStream) : ℕ → List (List Char) → Smtp (UInt16 × List (List Char))
  | 0, _ => throw .fuel
  | fuel + 1, lines => do
    let line ← stream.readLine
    match replyLine line with
    | .error stop => throw stop
    | .ok (code, trimmed, isLast) =>
      if isLast then pure (code, lines ++ [trimmed])
      else readReplyFrom stream fuel (lines ++ [trimmed])

def readReply (fuel : ℕ) (stream : SmtpStream) : Smtp (UInt16 × List (List Char)) :=
  readReplyFrom stream fuel []

def sendLine (stream : SmtpStream) (line : List Char) : Smtp Unit := do
  stream.writeAll line
  stream.writeAll crlf
  stream.flush

/-- What follows the line of a command. -/
def awaitReply (fuel : ℕ) (stream : SmtpStream) (expected : UInt16) (phase : String) :
    Smtp (List (List Char)) := do
  let reply ← readReply fuel stream
  check (reply.1 = expected) (.rejected reply.1 phase)
  pure reply.2

def command (fuel : ℕ) (stream : SmtpStream) (line : List Char) (expected : UInt16)
    (phase : String) : Smtp (List (List Char)) := do
  sendLine stream line
  awaitReply fuel stream expected phase

def upgrade (stream : SmtpStream) (host : List Char) : Smtp SmtpStream :=
  match stream with
  | .tls => throw (.err .alreadySecured)
  | .plain => do
    smtpCall .tls .buildTlsConnector
    smtpCall .invalidServerName (.serverName host)
    smtpCall .tls .handshake
    pure .tls

end SmtpStream

/-! ## Capabilities -/

/-- What a line of the reply to EHLO says after its code; `none` where cutting it
panics. -/
def capText (line : List Char) : Option (List Char) :=
  if 4 < byteLen line then (splitAtByte 4 line).map (·.2) else some []

/-- Some line has words that satisfy a predicate; the lines after the first such are not
looked at. -/
def anyCap (p : List (List Char) → Bool) : List (List Char) → Option Bool
  | [] => some false
  | line :: rest =>
    (capText line).bind fun text => if p (words text) then some true else anyCap p rest

def ehloSupports (caps : List (List Char)) (token : List Char) : Option Bool :=
  anyCap (fun ws => ws.head?.any (eqIgnoreAsciiCase · token)) caps

def ehloSupportsAuthLogin (caps : List (List Char)) : Option Bool :=
  anyCap (fun ws => ws.head?.any (eqIgnoreAsciiCase · "AUTH".toList) &&
    ws.tail.any (eqIgnoreAsciiCase · "LOGIN".toList)) caps

/-! ## The message -/

def headerSafe (value : List Char) : List Char := value.filter fun c => c != '\r' && c != '\n'

/-- What is after the last `@` of an address. -/
def messageDomain (fromEmail : List Char) : List Char :=
  if '@' ∈ fromEmail ∧ fromEmail.rtakeWhile (· != '@') ≠ [] then
    fromEmail.rtakeWhile (· != '@')
  else "localhost".toList

/-- The header lines. -/
def messageHeaders (X : Crates) (fromEmail rcpt subject : List Char) : List (List Char) :=
  ["From: ".toList ++ headerSafe fromEmail,
    "To: ".toList ++ headerSafe rcpt,
    "Subject: ".toList ++ headerSafe subject,
    "Date: ".toList ++ X.date,
    "Message-ID: <".toList ++ X.uuid ++ "@".toList ++ messageDomain fromEmail ++ ">".toList,
    "MIME-Version: 1.0".toList,
    "Content-Type: text/plain; charset=utf-8".toList]

/-- One line of the body: a carriage return at its end is dropped, and a dot at its start
is doubled. -/
def stuffLine (rawLine : List Char) : List Char :=
  let line := stripSuffix '\r' rawLine
  if line.head? = some '.' then '.' :: line else line

def buildMessage (X : Crates) (fromEmail rcpt subject body : List Char) : List Char :=
  (messageHeaders X fromEmail rcpt subject).flatMap (· ++ crlf) ++ crlf ++
    (body.splitOn '\n').flatMap fun rawLine => stuffLine rawLine ++ crlf

/-- A message ends its last line. -/
theorem crlf_suffix_buildMessage (X : Crates) (fromEmail rcpt subject body : List Char) :
    crlf <:+ buildMessage X fromEmail rcpt subject body := by
  obtain ⟨init, last, hsplit⟩ :=
    (List.eq_nil_or_concat (body.splitOn '\n')).resolve_left (List.splitOn_ne_nil _ _)
  unfold buildMessage
  rw [hsplit, List.concat_eq_append, List.flatMap_append, List.flatMap_singleton]
  simp only [← List.append_assoc]
  exact List.suffix_append _ _

/-! ## The dialogue -/

namespace SmtpSenderClient

variable (X : Crates) (fuel : ℕ) (c : SmtpSenderClient)

def ehlo : List Char := "EHLO ".toList ++ c.ehloName

/-- The switch to TLS, and the second EHLO. -/
def startTls (stream : SmtpStream) (caps : List (List Char)) :
    Smtp (SmtpStream × List (List Char)) :=
  match c.tlsMode with
  | .none => pure (stream, caps)
  | .startTls => do
    let supported ← orPanic (ehloSupports caps "STARTTLS".toList)
    check (supported = true) .startTlsUnsupported
    let _ ← stream.command fuel "STARTTLS".toList 220 "STARTTLS"
    let secured ← stream.upgrade c.smtpHost
    let caps' ← secured.command fuel c.ehlo 250 "EHLO"
    pure (secured, caps')

/-- The login. -/
def authenticate (stream : SmtpStream) (caps : List (List Char)) : Smtp Unit :=
  match c.credentials with
  | none => pure ()
  | some creds => do
    let supported ← orPanic (ehloSupportsAuthLogin caps)
    check (supported = true) .authUnsupported
    let _ ← stream.command fuel "AUTH LOGIN".toList 334 "AUTH"
    let _ ← stream.command fuel (X.encode creds.username) 334 "AUTH username"
    stream.sendLine (X.encode creds.password)
    let reply ← stream.readReply fuel
    check (reply.1 = 235) .authFailed

/-- A message that does not end its last line is made to. -/
def endMessage (stream : SmtpStream) (message : List Char) : Smtp Unit :=
  if crlf <:+ message then pure () else stream.writeAll crlf

/-- The message and the line that ends it. -/
def sendMessage (stream : SmtpStream) (message : List Char) : Smtp Unit := do
  stream.writeAll message
  endMessage stream message
  stream.writeAll ('.' :: crlf)
  stream.flush

/-- What follows once the client is known to the server. -/
def transact (stream : SmtpStream) (rcpt subject body : List Char) : Smtp Unit := do
  let _ ← stream.command fuel ("MAIL FROM:<".toList ++ c.fromEmail ++ ">".toList) 250 "MAIL FROM"
  let _ ← stream.command fuel ("RCPT TO:<".toList ++ rcpt ++ ">".toList) 250 "RCPT TO"
  let _ ← stream.command fuel "DATA".toList 354 "DATA"
  sendMessage stream (buildMessage X c.fromEmail rcpt subject body)
  let reply ← stream.readReply fuel
  check (reply.1 = 250) (.rejected reply.1 "message")
  dropError (stream.command fuel "QUIT".toList 221 "QUIT")

def sendEmail (rcpt subject body : List Char) : Smtp Unit := do
  check (¬ (c.credentials.isSome = true ∧ c.tlsMode = .none)) .authRequiresTls
  smtpCall .connect (.connect c.smtpHost c.smtpPort)
  let greeting ← SmtpStream.plain.readReply fuel
  check (greeting.1 = 220) (.rejected greeting.1 "greeting")
  let caps ← SmtpStream.plain.command fuel c.ehlo 250 "EHLO"
  let secured ← c.startTls fuel .plain caps
  c.authenticate X fuel secured.1 secured.2
  c.transact X fuel secured.1 rcpt subject body

end SmtpSenderClient

end Cctf
