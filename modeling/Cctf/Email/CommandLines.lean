import Cctf.Library.Checks
import Cctf.Library.Traces
import Cctf.Services.Email.Server

/-!
# Commands that are cut inside a character

A command line is taken apart at byte offsets: one byte after the start of the whitespace that
ends its first word, and at the length of `FROM:` or `TO:`.

* `argument`, `Uncut` — what follows the first word, and the lines where every offset is one
  that a string can be cut at.
* `Overheard` — what is remembered of a connection: the replies, and the lines that were
  taken for commands.
* `Answered` — a command was answered by a reply line or ended with an error.
* `answered_iff` — **a command is answered exactly when it is not cut inside a character**, and
  a connection panics on no other line.
-/

namespace Cctf

open Text Program

namespace SmtpCatcherServer

/-! ## Lines -/

/-- The first word of a line. -/
def firstWord (line : List Char) : List Char :=
  (trimStart line).takeWhile fun c => !isWhitespace c

/-- What a line has from the end of its first word on. -/
def afterWord (line : List Char) : List Char :=
  (trimStart line).dropWhile fun c => !isWhitespace c

/-- What follows the first word. -/
def argument (line : List Char) : List Char := trimStart (afterWord line).tail

/-- The verb of a line. -/
def verbOf (line : List Char) : Verb := Verb.ofText (toUppercase (firstWord line))

/-- Wherever a command line is cut, a character starts or the line ends. -/
structure Uncut (line : List Char) : Prop where
  /-- The whitespace after the first word has one byte. -/
  space : ∀ w ∈ (afterWord line).head?, w.utf8Size = 1
  mail : verbOf line = .mail → Whole (byteLen "FROM:".toList) (argument line)
  rcpt : verbOf line = .rcpt → Whole (byteLen "TO:".toList) (argument line)

theorem splitVerb_of_space {line : List Char}
    (h : ∀ w ∈ (afterWord line).head?, w.utf8Size = 1) :
    splitVerb line = some (toUppercase (firstWord line), argument line) := by
  unfold splitVerb
  rw [List.span_eq_takeWhile_dropWhile]
  unfold argument
  change ∀ w ∈ ((trimStart line).dropWhile fun c => !isWhitespace c).head?, _ at h
  unfold afterWord firstWord
  generalize (trimStart line).dropWhile (fun c => !isWhitespace c) = after at h ⊢
  cases after with
  | nil => rfl
  | cons w rest =>
    simp only
    rw [if_pos (h w rfl)]
    rfl

theorem splitVerb_of_not_space {line : List Char}
    (h : ¬ ∀ w ∈ (afterWord line).head?, w.utf8Size = 1) : splitVerb line = none := by
  unfold splitVerb
  rw [List.span_eq_takeWhile_dropWhile]
  change ¬ ∀ w ∈ ((trimStart line).dropWhile fun c => !isWhitespace c).head?, _ at h
  generalize (trimStart line).dropWhile (fun c => !isWhitespace c) = after at h ⊢
  cases after with
  | nil => exact absurd (by simp) h
  | cons w rest =>
    simp only
    rw [if_neg fun hw => h (by simpa using hw)]

/-- An address is cut off its prefix at the length of the prefix. -/
theorem isSome_parseAddr (line pre : List Char) :
    (parseAddr (argument line) pre).isSome = true ↔ Whole (byteLen pre) (argument line) := by
  have htrim : trimStart (argument line) = argument line :=
    List.dropWhile_idempotent isWhitespace _
  unfold parseAddr
  simp only [htrim]
  by_cases hlen : byteLen (argument line) < byteLen pre
  · rw [if_pos hlen]
    exact iff_of_true rfl (.inl hlen)
  · rw [if_neg hlen, Option.isSome_map, isSome_splitAtByte]
    exact ⟨.inr, fun h => h.boundary hlen⟩

/-- A line that is cut inside a character. -/
theorem handleCommand_of_not_uncut (fuel : ℕ) (hostname : List Char) (s : Session)
    {line : List Char} (h : ¬ Uncut (trimEol line)) :
    handleCommand fuel hostname s line = throw .panic := by
  unfold handleCommand
  by_cases hspace : ∀ w ∈ (afterWord (trimEol line)).head?, w.utf8Size = 1
  · rw [splitVerb_of_space hspace]
    simp only
    change handleVerb fuel hostname s _ (verbOf (trimEol line)) = _
    -- the verb is one that takes an address, or nothing else is cut
    cases hverb : verbOf (trimEol line) with
    | mail =>
      have hcut : ¬ Whole _ _ := fun hwhole => h ⟨hspace, fun _ => hwhole, by simp [hverb]⟩
      rw [← isSome_parseAddr, Option.not_isSome_iff_eq_none] at hcut
      rw [handleVerb, hcut]
    | rcpt =>
      have hcut : ¬ Whole _ _ := fun hwhole => h ⟨hspace, by simp [hverb], fun _ => hwhole⟩
      rw [← isSome_parseAddr, Option.not_isSome_iff_eq_none] at hcut
      rw [handleVerb, hcut]
    | _ => exact absurd ⟨hspace, by simp [hverb], by simp [hverb]⟩ h
  · rw [splitVerb_of_not_space hspace]

/-! ## What is remembered -/

/-- An answer for every call. -/
abbrev StreamAnswers : Type := (op : CatcherOp) → op.Resp

/-- Calls are answered in any way. -/
def anyStream : Handler CatcherOp CatcherOp.Resp StreamAnswers :=
  ⟨fun answers op => answers op, fun s _ => s⟩

/-- The lines that were written, and the lines that were read as commands. -/
structure Overheard where
  texts : List (List Char)
  commands : List (List Char)
  deriving DecidableEq, Repr

namespace Overheard

/-- Nothing yet. -/
def start : Overheard := ⟨[], []⟩

/-- The last reply asks for a message, and what is read next is none of the commands. -/
def Asked (g : Overheard) : Prop := ∃ text ∈ g.texts.getLast?, text.take 3 = "354".toList

instance decidableAsked (g : Overheard) : Decidable g.Asked :=
  inferInstanceAs (Decidable (∃ text ∈ g.texts.getLast?, _))

/-- A line was written. -/
def write (g : Overheard) (text : List Char) : Overheard :=
  if text = crlf then g else { g with texts := g.texts ++ [text] }

/-- A line was read; an empty one is the end of the stream. -/
def read (g : Overheard) (line : List Char) : Overheard :=
  if line = [] ∨ g.Asked then g else { g with commands := g.commands ++ [line] }

def tick (g : Overheard) : CatcherOp × StreamAnswers → Overheard
  | (.writeAll text, _) => g.write text
  | (.readLine, answers) =>
    match (answers .readLine : Except String (List Char)) with
    | .ok line => g.read line
    | .error _ => g
  | _ => g

end Overheard

/-- What is remembered of a trace. -/
def overheard (evs : List (CatcherOp × StreamAnswers)) : Overheard :=
  evs.foldl Overheard.tick .start

/-! ## Replies -/

/-- A line of a reply: three digits, and a space or a dash. -/
def isReply : List Char → Bool
  | a :: b :: c :: d :: _ => a.isDigit && b.isDigit && c.isDigit && (d == ' ' || d == '-')
  | _ => false

/-- Replies were written, and no command was read. -/
structure Replied (g g' : Overheard) : Prop where
  commands : g'.commands = g.commands
  texts : ∃ text more, isReply text = true ∧ g'.texts = g.texts ++ text :: more

/-- A failure that is no panic, after a reply. -/
def FailsAfter (g g' : Overheard) (e : Stop) : Prop := e ≠ .panic ∧ Replied g g'

/-- A reply was written, and the next line is a command. -/
def RepliedTo (g g' : Overheard) : Prop := Replied g g' ∧ ¬ g'.Asked

/-- A reply with a code of its own is no line ending. -/
theorem write_of_isReply {line : List Char} (h : isReply line = true) (g : Overheard) :
    g.write line = { g with texts := g.texts ++ [line] } := by
  have hne : line ≠ crlf := by
    rintro rfl
    exact absurd h (by decide)
  exact if_neg hne

theorem replied_write {line : List Char} (h : isReply line = true) (g : Overheard) :
    Replied g (g.write line) := by
  rw [write_of_isReply h]
  exact ⟨rfl, line, [], h, rfl⟩

theorem Replied.write {g g' : Overheard} (h : Replied g g') {line : List Char}
    (hline : isReply line = true) : Replied g (g'.write line) := by
  obtain ⟨hcommands, text, more, htext, htexts⟩ := h
  rw [write_of_isReply hline]
  exact ⟨hcommands, text, more ++ [line], htext, by simp [htexts]⟩

theorem asked_write {line : List Char} (h : isReply line = true) (g : Overheard) :
    (g.write line).Asked ↔ line.take 3 = "354".toList := by
  rw [write_of_isReply h, Overheard.Asked]
  simp

@[simp] theorem write_crlf (g : Overheard) : g.write crlf = g := if_pos rfl

/-- Writing a line leaves that line, also where the stream fails. -/
theorem leaves_writeLine {E : Overheard → Stop → Prop} (g : Overheard) (line : List Char)
    (hE : ∀ e, E (g.write line) (.err e)) :
    Leaves anyStream Overheard.tick E g (fun g' _ => g' = g.write line)
      (Catcher.writeLine line) := by
  -- the text fails, or the line ending, or the flush: the line has been written by then
  have hio : ∀ (r : Except String Unit) e, Catcher.orIo r = .error e → E (g.write line) e := by
    rintro (reason | u) e he
    · obtain rfl : Stop.err (.io reason) = e := Except.error.inj he
      exact hE _
    · exact absurd he nofun
  refine Leaves.bind (Q := fun g' _ => g' = g.write line)
    (Leaves.call (fun s a _ => rfl) fun s e he => hio _ e he) ?_
  rintro g' _ rfl
  refine Leaves.bind (Q := fun g' _ => g' = g.write line)
    (Leaves.call (fun s a _ => ?_) fun s e he => ?_) ?_
  · exact write_crlf _
  · rw [show Overheard.tick (g.write line) (.writeAll crlf, s) = g.write line from write_crlf _]
    exact hio _ e he
  · rintro g' _ rfl
    exact Leaves.call (fun s a _ => rfl) fun s e he => hio _ e he

/-- **One reply.** -/
theorem leaves_reply {α : Type} (g : Overheard) {line : List Char} (hline : isReply line = true)
    (hgo : line.take 3 ≠ "354".toList) (a : α) :
    Leaves anyStream Overheard.tick (FailsAfter g) g (fun g' _ => RepliedTo g g')
      (do Catcher.writeLine line; pure a : Catcher α) := by
  refine Leaves.bind (leaves_writeLine g line fun e => ⟨nofun, replied_write hline g⟩) ?_
  rintro g' _ rfl
  exact Leaves.pure ⟨replied_write hline g, fun hasked => hgo ((asked_write hline g).1 hasked)⟩

/-- Reading a line leaves that line; a stream that fails leaves nothing. -/
theorem leaves_readLine {E : Overheard → Stop → Prop} (g : Overheard)
    (hE : ∀ reason, E g (.err (.io reason))) :
    Leaves anyStream Overheard.tick E g (fun g' line => g' = g.read line) Catcher.readLine := by
  have htick : ∀ answers : StreamAnswers, g.tick (.readLine, answers) =
      match (answers .readLine : Except String (List Char)) with
      | .ok line => g.read line
      | .error _ => g := fun _ => rfl
  refine Leaves.call (fun answers line hread => ?_) fun answers e hread => ?_
  · have hanswer : (answers .readLine : Except String (List Char)) = .ok line :=
      Checks.mapError_eq_ok_iff.mp hread
    rw [htick, hanswer]
  · obtain ⟨reason, hanswer, rfl⟩ := Checks.mapError_eq_error_iff.mp hread
    have hanswer' : (answers .readLine : Except String (List Char)) = .error reason := hanswer
    rw [htick, hanswer']
    exact hE reason

/-! ## Messages -/

/-- The lines of a message are no commands. -/
theorem leaves_readDataFrom {E : Overheard → Stop → Prop} {g : Overheard} (hasked : g.Asked)
    (hE : ∀ e, e ≠ .panic → E g e) (fuel : ℕ) (data : List Char) :
    Leaves anyStream Overheard.tick E g (fun g' _ => g' = g) (readDataFrom fuel data) := by
  induction fuel generalizing data with
  | zero => exact Leaves.throw (hE _ nofun)
  | succ fuel ih =>
    refine Leaves.bind (leaves_readLine g fun reason => hE _ nofun) ?_
    rintro g' line rfl
    have hread : g.read line = g := if_pos (.inr hasked)
    rw [hread]
    split
    · exact Leaves.throw (hE _ nofun)
    · split
      · exact Leaves.pure rfl
      · simp only
        split
        · exact Leaves.throw (hE _ nofun)
        · exact ih _

/-- `DATA`. -/
theorem leaves_handleData (fuel : ℕ) (s : Session) (g : Overheard) :
    Leaves anyStream Overheard.tick (FailsAfter g) g (fun g' _ => RepliedTo g g')
      (handleData fuel s) := by
  have hrefuse : Leaves anyStream Overheard.tick (FailsAfter g) g (fun g' _ => RepliedTo g g')
      (do Catcher.writeLine "503 5.5.1 Need MAIL and RCPT first".toList; pure s) :=
    leaves_reply g rfl (by decide) s
  rcases s with ⟨_ | envelopeFrom, rcpts⟩
  · exact hrefuse
  · cases rcpts with
    | nil => exact hrefuse
    | cons rcpt rcpts =>
      have hgo : isReply "354 End data with <CR><LF>.<CR><LF>".toList = true := rfl
      have hreplied := replied_write hgo g
      unfold handleData
      refine Leaves.bind (leaves_writeLine g _ fun e => ⟨nofun, hreplied⟩) ?_
      rintro g' _ rfl
      refine Leaves.bind (leaves_readDataFrom ((asked_write hgo g).2 (by decide))
        (fun e he => ⟨he, hreplied⟩) fuel []) ?_
      rintro g' raw rfl
      refine Leaves.bind (Q := fun g' _ => g' = g.write _) (Leaves.call (fun s a _ => rfl) nofun) ?_
      rintro g' id rfl
      refine Leaves.bind (Q := fun g' _ => g' = g.write _) (Leaves.call (fun s a _ => rfl) nofun) ?_
      rintro g' timestamp rfl
      refine Leaves.bind (Q := fun g' _ => g' = g.write _) (Leaves.call (fun s a _ => rfl) nofun) ?_
      rintro g' _ rfl
      have hqueued : isReply "250 2.0.0 OK: message queued".toList = true := rfl
      refine Leaves.bind (leaves_writeLine _ _ fun e => ⟨nofun, hreplied.write hqueued⟩) ?_
      rintro g' _ rfl
      exact Leaves.pure ⟨hreplied.write hqueued, fun hasked =>
        absurd ((asked_write hqueued _).1 hasked) (by decide)⟩

/-! ## Commands -/

/-- **A verb is answered** where no address is cut inside a character. -/
theorem leaves_handleVerb (fuel : ℕ) (hostname : List Char) (s : Session) {rest : List Char}
    {v : Verb} (hmail : v = .mail → (parseAddr rest "FROM:".toList).isSome = true)
    (hrcpt : v = .rcpt → (parseAddr rest "TO:".toList).isSome = true) (g : Overheard) :
    Leaves anyStream Overheard.tick (FailsAfter g) g (fun g' _ => RepliedTo g g')
      (handleVerb fuel hostname s rest v) := by
  cases v with
  | helo => exact leaves_reply g rfl (by simp) _
  | noop => exact leaves_reply g rfl (by decide) _
  | vrfy => exact leaves_reply g rfl (by decide) _
  | rset => exact leaves_reply g rfl (by decide) _
  | quit => exact leaves_reply g rfl (by simp) _
  | empty => exact leaves_reply g rfl (by decide) _
  | other => exact leaves_reply g rfl (by decide) _
  | ehlo =>
    have hname : isReply ("250-".toList ++ hostname) = true := rfl
    have hsize : isReply "250-SIZE 10485760".toList = true := rfl
    have hutf8 : isReply "250 SMTPUTF8".toList = true := rfl
    have hreplied := replied_write hname g
    refine Leaves.bind (leaves_writeLine g _ fun e => ⟨nofun, hreplied⟩) ?_
    rintro g' _ rfl
    refine Leaves.bind (leaves_writeLine _ _ fun e => ⟨nofun, hreplied.write hsize⟩) ?_
    rintro g' _ rfl
    have hall := (hreplied.write hsize).write hutf8
    refine Leaves.bind (leaves_writeLine _ _ fun e => ⟨nofun, hall⟩) ?_
    rintro g' _ rfl
    exact Leaves.pure ⟨hall, fun hasked => absurd ((asked_write hutf8 _).1 hasked) (by decide)⟩
  | mail =>
    obtain ⟨mailFrom, haddr⟩ := Option.isSome_iff_exists.1 (hmail rfl)
    unfold handleVerb
    simp only [haddr]
    exact leaves_reply g rfl (by decide) _
  | rcpt =>
    obtain ⟨found, haddr⟩ := Option.isSome_iff_exists.1 (hrcpt rfl)
    unfold handleVerb
    simp only [haddr]
    cases found with
    | none => exact leaves_reply g rfl (by decide) _
    | some addr => exact leaves_reply g rfl (by decide) _
  | data =>
    unfold handleVerb
    exact Leaves.bind (leaves_handleData fuel s g) fun g' s' hreplied => Leaves.pure hreplied

/-- **A command line that is not cut inside a character is answered.** -/
theorem leaves_handleCommand (fuel : ℕ) (hostname : List Char) (s : Session) {line : List Char}
    (h : Uncut (trimEol line)) (g : Overheard) :
    Leaves anyStream Overheard.tick (FailsAfter g) g (fun g' _ => RepliedTo g g')
      (handleCommand fuel hostname s line) := by
  unfold handleCommand
  rw [splitVerb_of_space h.space]
  exact leaves_handleVerb fuel hostname s (fun hv => (isSome_parseAddr _ _).2 (h.mail hv))
    (fun hv => (isSome_parseAddr _ _).2 (h.rcpt hv)) g

/-! ## Connections -/

/-- No command that was read is cut inside a character, but for lines that are too long to be
looked at. -/
def Sound (g : Overheard) : Prop :=
  ∀ line ∈ g.commands, byteLen line ≤ maxLineBytes → Uncut (trimEol line)

/-- How a connection fails. -/
def Fails (g : Overheard) (e : Stop) : Prop := e = .panic ↔ ¬ Sound g

theorem fails_of_sound {g : Overheard} (h : Sound g) {e : Stop} (he : e ≠ .panic) : Fails g e :=
  iff_of_false he (not_not_intro h)

theorem Sound.of_commands {g g' : Overheard} (h : Sound g) (heq : g'.commands = g.commands) :
    Sound g' := by
  rw [Sound, heq]
  exact h

/-- A line that was read is one of the commands, unless the stream has ended. -/
theorem read_of_not_asked {g : Overheard} (h : ¬ g.Asked) {line : List Char} (hline : line ≠ []) :
    g.read line = { g with commands := g.commands ++ [line] } :=
  if_neg (not_or.2 ⟨hline, h⟩)

/-- One command more. -/
theorem Sound.concat {g : Overheard} (h : Sound g) {line : List Char}
    (hline : byteLen line ≤ maxLineBytes → Uncut (trimEol line)) :
    Sound { g with commands := g.commands ++ [line] } := by
  intro line' hmem hle
  rcases List.mem_append.1 hmem with hold | hnew
  · exact h line' hold hle
  · rw [List.mem_singleton.1 hnew] at hle ⊢
    exact hline hle

/-- Reading a command. -/
theorem leaves_readCommand {g : Overheard} (hasked : ¬ g.Asked) (hsound : Sound g) :
    Leaves anyStream Overheard.tick Fails g
      (fun g' line => g' = g.read line ∧ byteLen line ≤ maxLineBytes) readCommand := by
  unfold readCommand
  refine Leaves.bind (leaves_readLine g fun reason => fails_of_sound hsound nofun) ?_
  rintro g' line rfl
  split
  · rename_i hlong
    have hne : line ≠ [] := by
      rintro rfl
      exact absurd hlong (by decide)
    rw [read_of_not_asked hasked hne]
    exact Leaves.throw (fails_of_sound (hsound.concat fun hle => absurd hle (by omega)) nofun)
  · rename_i hshort
    exact Leaves.pure ⟨rfl, Nat.le_of_not_lt hshort⟩

/-- **The loop** panics exactly after a command that is cut inside a character. -/
theorem leaves_handleCommands (fuel : ℕ) (hostname : List Char) (rounds : ℕ) (s : Session)
    {g : Overheard} (hasked : ¬ g.Asked) (hsound : Sound g) :
    Leaves anyStream Overheard.tick Fails g (fun g' _ => Sound g')
      (handleCommands fuel hostname rounds s) := by
  induction rounds generalizing s g with
  | zero => exact Leaves.throw (fails_of_sound hsound nofun)
  | succ rounds ih =>
    unfold handleCommands
    refine Leaves.bind (Q := fun g' s' => Sound g' ∧ (s' ≠ none → ¬ g'.Asked)) ?_ ?_
    · unfold handleNext
      refine Leaves.bind (leaves_readCommand hasked hsound) ?_
      rintro g' line ⟨rfl, hlen⟩
      split
      · rename_i hend
        have hread : g.read line = g := if_pos (.inl hend)
        rw [hread]
        exact Leaves.pure ⟨hsound, fun hne => absurd rfl hne⟩
      · rename_i hline
        rw [read_of_not_asked hasked hline]
        by_cases hcut : Uncut (trimEol line)
        · have hsound' := hsound.concat fun _ => hcut
          refine (leaves_handleCommand fuel hostname s hcut _).imp ?_ ?_
          · rintro g' e ⟨he, hreplied⟩
            exact fails_of_sound (hsound'.of_commands hreplied.commands) he
          · rintro g' s' ⟨hreplied, hnext⟩
            exact ⟨hsound'.of_commands hreplied.commands, fun _ => hnext⟩
        · rw [handleCommand_of_not_uncut fuel hostname s hcut]
          refine Leaves.throw (iff_of_true rfl fun hsound' => hcut ?_)
          exact hsound' line (by simp) hlen
    · rintro g' (_ | s') ⟨hsound', hnext⟩
      · exact Leaves.pure hsound'
      · exact ih s' (hnext nofun) hsound'

/-- **The connection.** -/
theorem leaves_handleConnection (fuel : ℕ) (hostname : List Char) :
    Leaves anyStream Overheard.tick Fails .start (fun g' _ => Sound g')
      (handleConnection fuel hostname) := by
  have hgreeting : isReply ("220 ".toList ++ hostname ++ " ESMTP cctf-rs catcher".toList) = true :=
    rfl
  have hsound : Sound (Overheard.start.write
      ("220 ".toList ++ hostname ++ " ESMTP cctf-rs catcher".toList)) := by
    rw [write_of_isReply hgreeting]
    exact fun line hmem => absurd hmem (by simp [Overheard.start])
  unfold handleConnection
  refine Leaves.bind (leaves_writeLine _ _ fun e => fails_of_sound hsound nofun) ?_
  rintro g' _ rfl
  refine leaves_handleCommands fuel hostname fuel _ ?_ hsound
  rw [asked_write hgreeting]
  simp

/-! ## Answers -/

/-- A command was answered by a reply line, or the connection ended with an error. -/
def Answered {α : Type} (evs : List (CatcherOp × StreamAnswers)) (res : Except Stop α) : Prop :=
  (∃ e, res = .error (.err e)) ∨
    res ≠ .error .panic ∧ ∃ text ∈ (overheard evs).texts, isReply text = true

end SmtpCatcherServer

open SmtpCatcherServer

/-- **The commands of a connection are taken apart without a panic exactly where no offset is
inside a character**: whatever the stream answers, a line is answered by a reply line or ends
the connection with an error exactly when it is not cut, and a connection panics exactly when it
has read a command that is. -/
theorem command_answered_iff (fuel : ℕ) (hostname : List Char) (s : Session) (line : List Char)
    {evs evs' : List (CatcherOp × StreamAnswers)} {res : Except Stop (Option Session)}
    {res' : Except Stop Unit}
    (hcommand : Makes anyStream (handleCommand fuel hostname s line).run evs res)
    (hconnection : Makes anyStream (handleConnection fuel hostname).run evs' res') :
    (Answered evs res ↔ Uncut (trimEol line)) ∧
    (res' ≠ .error .panic ↔
      ∀ command ∈ (overheard evs').commands, byteLen command ≤ maxLineBytes →
        Uncut (trimEol command)) := by
  constructor
  · by_cases hcut : Uncut (trimEol line)
    · refine iff_of_true ?_ hcut
      obtain ⟨hok, herr⟩ := leaves_handleCommand fuel hostname s hcut .start evs res hcommand
      have hfound : ∀ g', Replied .start g' → ∃ text ∈ g'.texts, isReply text = true := by
        rintro g' ⟨-, text, more, htext, htexts⟩
        exact ⟨text, by simp [htexts], htext⟩
      cases res with
      | ok next => exact .inr ⟨nofun, hfound _ (hok next rfl).1⟩
      | error e =>
        obtain ⟨he, hreplied⟩ := herr e rfl
        exact .inr ⟨fun hpanic => he (Except.error.inj hpanic), hfound _ hreplied⟩
    · refine iff_of_false ?_ hcut
      rw [handleCommand_of_not_uncut fuel hostname s hcut] at hcommand
      obtain ⟨rfl, rfl⟩ := hcommand
      rintro (⟨e, he⟩ | ⟨hpanic, -⟩)
      · exact absurd he nofun
      · exact hpanic rfl
  · obtain ⟨hok, herr⟩ := leaves_handleConnection fuel hostname evs' res' hconnection
    cases res' with
    | ok u => exact iff_of_true nofun (hok u rfl)
    | error e =>
      have hfails : e = .panic ↔ ¬ Sound (overheard evs') := herr e rfl
      rw [ne_eq, Except.error.injEq, hfails, not_not]
      rfl

/-- A stream that always has the same line, and takes whatever is written. -/
def steady (line : List Char) : StreamAnswers
  | .readLine => (.ok line : Except String (List Char))
  | .writeAll _ => (.ok () : Except String Unit)
  | .flush => (.ok () : Except String Unit)
  | .newId => ([] : List Char)
  | .now => (0 : ℤ)
  | .push _ => ()

/-- The greeting, and one command. -/
def oneCommand (line : List Char) : List (CatcherOp × StreamAnswers) :=
  [.writeAll "220 host ESMTP cctf-rs catcher".toList, .writeAll crlf, .flush, .readLine].map
    fun op => (op, steady line)

/-- A no-break space ends the first word. -/
def noBreakLine : List Char := "NOOP\u00a0x\r\n".toList

/-- A letter lies across the end of the prefix. -/
def letterLine : List Char := "MAIL FROMé<a@b>\r\n".toList

theorem command_answered_iff_noBreak :
    (Answered [] (.error .panic : Except Stop (Option Session)) ↔ Uncut (trimEol noBreakLine)) ∧
    ((.error .panic : Except Stop Unit) ≠ .error .panic ↔
      ∀ command ∈ (overheard (oneCommand noBreakLine)).commands, byteLen command ≤ maxLineBytes →
        Uncut (trimEol command)) :=
  command_answered_iff 2 "host".toList ⟨none, []⟩ noBreakLine ⟨rfl, rfl⟩
    ⟨_, _, rfl, _, _, rfl, _, _, rfl, _, _, rfl, rfl, rfl⟩

/-- **Either line ends the connection in a panic.** -/
theorem commands_panic :
    Makes anyStream (handleConnection 2 "host".toList).run (oneCommand noBreakLine)
        (.error .panic) ∧
      (overheard (oneCommand noBreakLine)).commands = [noBreakLine] ∧
      Makes anyStream (handleConnection 2 "host".toList).run (oneCommand letterLine)
        (.error .panic) ∧
      (overheard (oneCommand letterLine)).commands = [letterLine] :=
  ⟨⟨_, _, rfl, _, _, rfl, _, _, rfl, _, _, rfl, rfl, rfl⟩, rfl,
    ⟨_, _, rfl, _, _, rfl, _, _, rfl, _, _, rfl, rfl, rfl⟩, rfl⟩

end Cctf
