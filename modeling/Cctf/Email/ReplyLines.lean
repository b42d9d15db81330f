import Cctf.Email.Script
import Cctf.Library.Checks

/-!
# Replies that are cut inside a character

The client takes the code of a reply line from its first three bytes, and what the line says
from its fourth byte on, where it looks for what EHLO offers.

* `Offers`, `CapsWhole` — a line names what is looked for, and the lines before the first such
  can be cut after four bytes.
* `Received` — the replies of a run, line by line.
* `ReplyWhole`, `RepliesWhole` — where nothing of a reply is cut inside a character.
* `send_email_ends_iff` — **a message is sent or refused with an error exactly when no reply is
  cut**; the client panics on every other conversation.
-/

namespace Cctf

open Text Program SmtpStream SmtpSenderClient

/-! ## Lines -/

/-- A reply line panics exactly when its third byte is within a character. -/
theorem replyLine_panics_iff (line : List Char) :
    replyLine line = .error .panic ↔ ¬ Whole 3 (trimEol line) := by
  unfold replyLine
  by_cases hempty : line = []
  · subst hempty
    exact iff_of_false nofun (not_not_intro (.inl (by decide)))
  · rw [if_neg hempty]
    by_cases hlen : byteLen (trimEol line) < 3
    · rw [if_pos hlen]
      exact iff_of_false nofun (not_not_intro (.inl hlen))
    · rw [if_neg hlen]
      by_cases hwhole : Whole 3 (trimEol line)
      · obtain ⟨⟨digits, rest⟩, hcut⟩ :=
          Option.isSome_iff_exists.1 (isSome_splitAtByte.2 (hwhole.boundary hlen))
        rw [hcut]
        refine iff_of_false ?_ (not_not_intro hwhole)
        simp only
        split <;> exact nofun
      · rw [splitAtByte_eq_none_iff.2 fun hcut => hwhole (.inr hcut)]
        exact iff_of_true rfl hwhole

theorem whole_of_replyLine {line : List Char} (h : replyLine line ≠ .error .panic) :
    Whole 3 (trimEol line) :=
  not_not.1 fun hcut => h ((replyLine_panics_iff line).2 hcut)

/-- A reply line is read, refused, or cut. -/
theorem replyLine_cases (line : List Char) :
    (∃ code isLast, replyLine line = .ok (code, trimEol line, isLast)) ∨
      (∃ e, replyLine line = .error (.err e)) ∨ replyLine line = .error .panic := by
  unfold replyLine
  split
  · exact .inr (.inl ⟨_, rfl⟩)
  · split
    · exact .inr (.inl ⟨_, rfl⟩)
    · split
      · exact .inr (.inr rfl)
      · split
        · exact .inr (.inl ⟨_, rfl⟩)
        · exact .inl ⟨_, _, rfl⟩

/-! ## Capabilities -/

/-- A line says something, after four bytes, whose words satisfy a predicate. -/
def Offers (p : List (List Char) → Bool) (line : List Char) : Prop :=
  ∃ code text, line = code ++ text ∧ byteLen code = 4 ∧ p (words text) = true

/-- Up to the first line that offers something, every line can be cut after four bytes. -/
def CapsWhole (p : List (List Char) → Bool) (lines : List (List Char)) : Prop :=
  ∀ before line after, lines = before ++ line :: after → (∀ l ∈ before, ¬ Offers p l) →
    Whole 4 line

theorem isSome_capText (line : List Char) : (capText line).isSome = true ↔ Whole 4 line := by
  unfold capText
  by_cases hlen : 4 < byteLen line
  · rw [if_pos hlen, Option.isSome_map, isSome_splitAtByte]
    exact ⟨.inr, fun h => h.boundary (by omega)⟩
  · rw [if_neg hlen]
    refine iff_of_true rfl ?_
    rcases Nat.lt_or_ge (byteLen line) 4 with hshort | hfour
    · exact .inl hshort
    · exact .inr ⟨line, [], by simp, by omega⟩

/-- What a line offers is in its text. -/
theorem offers_iff {p : List (List Char) → Bool} (hp : p [] = false) {line text : List Char}
    (h : capText line = some text) : Offers p line ↔ p (words text) = true := by
  have hnone : p (words []) = false := hp
  unfold capText at h
  by_cases hlen : 4 < byteLen line
  · rw [if_pos hlen] at h
    obtain ⟨⟨code, rest⟩, hcut, hrest⟩ := Option.map_eq_some_iff.1 h
    obtain rfl : rest = text := hrest
    constructor
    · rintro ⟨code', text', heq, hfour, hoffers⟩
      have hcut' := splitAtByte_eq_some_iff.2 ⟨heq, hfour⟩
      rw [hcut] at hcut'
      obtain ⟨-, rfl⟩ := Prod.mk.inj (Option.some.inj hcut')
      exact hoffers
    · intro hoffers
      obtain ⟨heq, hfour⟩ := splitAtByte_eq_some_iff.1 hcut
      exact ⟨code, rest, heq, hfour, hoffers⟩
  · rw [if_neg hlen] at h
    obtain rfl : [] = text := Option.some.inj h
    rw [hnone]
    refine iff_of_false ?_ Bool.false_ne_true
    rintro ⟨code, text, rfl, hfour, hoffers⟩
    rw [byteLen_append] at hlen
    obtain rfl : text = [] := byteLen_eq_zero.1 (by omega)
    rw [hnone] at hoffers
    exact Bool.false_ne_true hoffers

/-- **A capability is looked for without a panic** exactly when the lines that are looked at
can be cut. -/
theorem isSome_anyCap {p : List (List Char) → Bool} (hp : p [] = false)
    (lines : List (List Char)) : (anyCap p lines).isSome = true ↔ CapsWhole p lines := by
  induction lines with
  | nil =>
    refine iff_of_true rfl ?_
    intro before line after heq
    exact absurd heq (by simp)
  | cons line rest ih =>
    by_cases hwhole : Whole 4 line
    · obtain ⟨text, htext⟩ := Option.isSome_iff_exists.1 ((isSome_capText line).2 hwhole)
      rw [anyCap, htext, Option.bind_some]
      by_cases hoffers : p (words text) = true
      · rw [if_pos hoffers]
        refine iff_of_true rfl ?_
        rintro (_ | ⟨first, before⟩) line' after heq hbefore
        · obtain ⟨rfl, -⟩ := List.cons.inj heq
          exact hwhole
        · obtain ⟨rfl, -⟩ := List.cons.inj heq
          exact absurd ((offers_iff hp htext).2 hoffers) (hbefore line (by simp))
      · rw [if_neg hoffers, ih]
        have hnot : ¬ Offers p line := fun h => hoffers ((offers_iff hp htext).1 h)
        constructor
        · rintro hrest (_ | ⟨first, before⟩) line' after heq hbefore
          · obtain ⟨rfl, -⟩ := List.cons.inj heq
            exact hwhole
          · obtain ⟨-, hafter⟩ := List.cons.inj heq
            exact hrest before line' after hafter fun l hl => hbefore l (by simp [hl])
        · intro hall before line' after heq hbefore
          refine hall (line :: before) line' after (by rw [heq]; rfl) ?_
          exact List.forall_mem_cons.2 ⟨hnot, hbefore⟩
    · have htext : capText line = none := by
        rw [← Option.not_isSome_iff_eq_none, isSome_capText]
        exact hwhole
      rw [anyCap, htext]
      exact iff_of_false Bool.false_ne_true fun hall => hwhole (hall [] line rest rfl (by simp))

/-! ## Conversations -/

/-- What was read, reply by reply: a flush ends a command, and what is read after it is
another reply.  The first reply is the greeting. -/
structure Received where
  done : List (List (List Char))
  current : List (List Char)
  deriving DecidableEq, Repr

namespace Received

/-- Nothing yet. -/
def start : Received := ⟨[], []⟩

/-- All replies. -/
def replies (g : Received) : List (List (List Char)) := g.done ++ [g.current]

/-- A command was sent. -/
def next (g : Received) : Received := ⟨g.replies, []⟩

/-- A line was read. -/
def read (g : Received) (line : List Char) : Received := { g with current := g.current ++ [line] }

def tick (g : Received) : SmtpOp × Answers → Received
  | (.flush _, _) => g.next
  | (.readLine stream, answers) =>
    match (answers (.readLine stream) : Except String (List Char)) with
    | .ok line => g.read line
    | .error _ => g
  | _ => g

end Received

/-- The replies of a trace. -/
def received (evs : List (SmtpOp × Answers)) : Received := evs.foldl Received.tick .start

/-- A reply that was read to its end, with code 250. -/
def Accepted (reply : List (List Char)) : Prop :=
  ∃ init last text, reply = init ++ [last] ∧ replyLine last = .ok (250, text, true)

/-- What the first word of STARTTLS is compared with. -/
def isStartTls (ws : List (List Char)) : Bool :=
  ws.head?.any (eqIgnoreAsciiCase · "STARTTLS".toList)

/-- What the words of AUTH LOGIN are compared with. -/
def isAuthLogin (ws : List (List Char)) : Bool :=
  ws.head?.any (eqIgnoreAsciiCase · "AUTH".toList) &&
    ws.tail.any (eqIgnoreAsciiCase · "LOGIN".toList)

/-- What the client looks for in a reply: STARTTLS in the one to the first EHLO, and AUTH LOGIN
in the one to the second. -/
def sought (c : SmtpSenderClient) : ℕ → Option (List (List Char) → Bool)
  | 1 => if c.tlsMode = .startTls then some isStartTls else none
  | 3 => if c.credentials.isSome then some isAuthLogin else none
  | _ => none

/-- No line of a reply is cut inside a character: neither after its code nor, where something
is looked for in the reply, before what it offers. -/
structure ReplyWhole (c : SmtpSenderClient) (k : ℕ) (reply : List (List Char)) : Prop where
  code : ∀ line ∈ reply, Whole 3 (trimEol line)
  caps : ∀ p ∈ sought c k, Accepted reply → CapsWhole p (reply.map trimEol)

/-- No line of a conversation is cut inside a character. -/
def RepliesWhole (c : SmtpSenderClient) (replies : List (List (List Char))) : Prop :=
  ∀ k reply, replies[k]? = some reply → ReplyWhole c k reply

section

variable {c : SmtpSenderClient}

theorem repliesWhole_nil : RepliesWhole c [] := by
  intro k reply h
  exact absurd h (by simp)

theorem repliesWhole_concat {replies : List (List (List Char))} {reply : List (List Char)} :
    RepliesWhole c (replies ++ [reply]) ↔
      RepliesWhole c replies ∧ ReplyWhole c replies.length reply := by
  constructor
  · refine fun h => ⟨fun k r hk => h k r ?_, h _ _ List.getElem?_concat_length⟩
    have hlt : k < replies.length := (List.getElem?_eq_some_iff.1 hk).1
    rw [List.getElem?_append_left hlt]
    exact hk
  · rintro ⟨hinit, hlast⟩ k r hk
    rcases Nat.lt_trichotomy k replies.length with hlt | rfl | hgt
    · rw [List.getElem?_append_left hlt] at hk
      exact hinit k r hk
    · rw [List.getElem?_concat_length] at hk
      obtain rfl : reply = r := Option.some.inj hk
      exact hlast
    · rw [List.getElem?_eq_none (by simp; omega)] at hk
      simp at hk

theorem accepted_concat {init : List (List Char)} {last : List Char} :
    Accepted (init ++ [last]) ↔ ∃ text, replyLine last = .ok (250, text, true) := by
  constructor
  · rintro ⟨init', last', text, heq, hline⟩
    obtain ⟨-, hlast⟩ := List.append_inj' heq rfl
    obtain rfl : last = last' := by simpa using hlast
    exact ⟨text, hline⟩
  · rintro ⟨text, hline⟩
    exact ⟨init, last, text, rfl, hline⟩

/-- Nothing is looked for in a reply that is not accepted. -/
theorem replyWhole_of_not_accepted {k : ℕ} {reply : List (List Char)}
    (hcode : ∀ line ∈ reply, Whole 3 (trimEol line)) (h : ¬ Accepted reply) :
    ReplyWhole c k reply :=
  ⟨hcode, fun _ _ hacc => absurd hacc h⟩

theorem not_accepted_nil : ¬ Accepted [] := by
  rintro ⟨init, last, text, heq, -⟩
  exact absurd heq (by simp)

theorem RepliesWhole.next {g : Received} (h : RepliesWhole c g.replies) :
    RepliesWhole c g.next.replies :=
  repliesWhole_concat.2 ⟨h, replyWhole_of_not_accepted (by simp [Received.next]) not_accepted_nil⟩

end

/-! ## Reading replies -/

/-- How a run fails: in a panic exactly where a reply is cut, and it runs out of rounds only
within a reply of that many lines. -/
structure BreaksOff (fuel : ℕ) (c : SmtpSenderClient) (g : Received) (e : Stop) : Prop where
  panic : e = .panic ↔ ¬ RepliesWhole c g.replies
  fuel : e = .fuel → ∃ reply ∈ g.replies, fuel ≤ reply.length

/-- A reply was read to its end. -/
structure Took (done : List (List (List Char))) (g : Received) (lines : List (List Char)) :
    Prop where
  done : g.done = done
  code : ∀ line ∈ g.current, Whole 3 (trimEol line)
  lines : lines = g.current.map trimEol

section

variable {c : SmtpSenderClient} {fuel : ℕ}

theorem breaksOff_err {g : Received} (h : RepliesWhole c g.replies) (e : EmailError) :
    BreaksOff fuel c g (.err e) :=
  ⟨iff_of_false nofun (not_not_intro h), nofun⟩

/-- A call that the replies do not tell of. -/
theorem leaves_smtpCall {g g' : Received} (wrap : String → EmailError) (op : SmtpOp)
    (htick : ∀ answers, g.tick (op, answers) = g') (h : RepliesWhole c g'.replies) :
    Leaves anyAnswer Received.tick (BreaksOff fuel c) g (fun g'' _ => g'' = g')
      (smtpCall wrap op) := by
  refine Leaves.call (fun answers _ _ => htick answers) fun answers e he => ?_
  obtain ⟨reason, -, rfl⟩ := Checks.mapError_eq_error_iff.mp he
  rw [htick]
  exact breaksOff_err h _

theorem leaves_writeAll {g : Received} (stream : SmtpStream) (text : List Char)
    (h : RepliesWhole c g.replies) :
    Leaves anyAnswer Received.tick (BreaksOff fuel c) g (fun g' _ => g' = g)
      (stream.writeAll text) :=
  leaves_smtpCall .io (.writeAll stream text) (fun _ => rfl) h

/-- A flush ends the reply before. -/
theorem leaves_flush {g : Received} (stream : SmtpStream) (h : RepliesWhole c g.replies) :
    Leaves anyAnswer Received.tick (BreaksOff fuel c) g (fun g' _ => g' = g.next) stream.flush :=
  leaves_smtpCall .io (.flush stream) (fun _ => rfl) h.next

theorem leaves_check {g : Received} (ok : Prop) [Decidable ok] {e : EmailError}
    (h : ¬ ok → RepliesWhole c g.replies) :
    Leaves anyAnswer Received.tick (BreaksOff fuel c) g (fun g' _ => g' = g ∧ ok) (check ok e) := by
  unfold check
  split
  · rename_i hok
    exact Leaves.pure ⟨rfl, hok⟩
  · rename_i hok
    exact Leaves.throw (breaksOff_err (h hok) e)

/-- One line. -/
theorem leaves_readLine {g : Received} (stream : SmtpStream) (h : RepliesWhole c g.replies) :
    Leaves anyAnswer Received.tick (BreaksOff fuel c) g (fun g' line => g' = g.read line)
      stream.readLine := by
  have htick : ∀ answers : Answers, g.tick (.readLine stream, answers) =
      match (answers (.readLine stream) : Except String (List Char)) with
      | .ok line => g.read line
      | .error _ => g := fun _ => rfl
  refine Leaves.call (fun answers line hread => ?_) fun answers e hread => ?_
  · have hanswer : (answers (.readLine stream) : Except String (List Char)) = .ok line :=
      Checks.mapError_eq_ok_iff.mp hread
    rw [htick, hanswer]
  · obtain ⟨reason, hanswer, rfl⟩ := Checks.mapError_eq_error_iff.mp hread
    have hanswer' : (answers (.readLine stream) : Except String (List Char)) = .error reason :=
      hanswer
    rw [htick, hanswer']
    exact breaksOff_err h _

/-- A reply is being read that has not ended. -/
structure Unended (c : SmtpSenderClient) (g : Received) : Prop where
  done : RepliesWhole c g.done
  code : ∀ line ∈ g.current, Whole 3 (trimEol line)
  running : ¬ Accepted g.current

theorem Unended.whole {g : Received} (h : Unended c g) : RepliesWhole c g.replies :=
  repliesWhole_concat.2 ⟨h.done, replyWhole_of_not_accepted h.code h.running⟩

theorem Unended.code_read {g : Received} (h : Unended c g) {line : List Char}
    (hline : Whole 3 (trimEol line)) : ∀ line' ∈ (g.read line).current, Whole 3 (trimEol line') :=
  List.forall_mem_append.2 ⟨h.code, List.forall_mem_singleton.2 hline⟩

/-- Nothing ends a reply but a last line. -/
theorem Unended.read {g : Received} (h : Unended c g) {line : List Char}
    (hline : Whole 3 (trimEol line))
    (hlast : ∀ text, replyLine line ≠ .ok (250, text, true)) : Unended c (g.read line) := by
  refine ⟨h.done, h.code_read hline, fun hacc => ?_⟩
  obtain ⟨text, htext⟩ := accepted_concat.1 hacc
  exact hlast text htext

/-- **Reading a reply**, from a point where it has not ended. -/
theorem leaves_readReplyFrom (stream : SmtpStream) {n : ℕ} {g : Received} (h : Unended c g)
    (hfuel : fuel ≤ g.current.length + n) :
    Leaves anyAnswer Received.tick (BreaksOff fuel c) g
      (fun g' r => Took g.done g' r.2 ∧ (Accepted g'.current ↔ r.1 = 250))
      (readReplyFrom stream n (g.current.map trimEol)) := by
  induction n generalizing g with
  | zero =>
    refine Leaves.throw ⟨iff_of_false nofun (not_not_intro h.whole), fun _ => ?_⟩
    exact ⟨g.current, by simp [Received.replies], hfuel⟩
  | succ n ih =>
    refine Leaves.bind (leaves_readLine stream h.whole) ?_
    rintro g' line rfl
    have hlines : g.current.map trimEol ++ [trimEol line] = (g.read line).current.map trimEol := by
      simp [Received.read]
    rcases replyLine_cases line with ⟨code, isLast, hline⟩ | ⟨e, hline⟩ | hline
    · have hwhole := @whole_of_replyLine line (by rw [hline]; exact nofun)
      simp only [hline]
      cases isLast with
      | true =>
        rw [if_pos rfl]
        refine Leaves.pure ⟨⟨rfl, h.code_read hwhole, hlines⟩, accepted_concat.trans ?_⟩
        rw [hline]
        simp
      | false =>
        rw [if_neg Bool.false_ne_true, hlines]
        refine ih (h.read hwhole (by rw [hline]; simp)) ?_
        simp only [Received.read, List.length_append, List.length_singleton]
        omega
    · have hwhole := @whole_of_replyLine line (by rw [hline]; exact nofun)
      simp only [hline]
      exact Leaves.throw (breaksOff_err (h.read hwhole (by rw [hline]; exact nofun)).whole e)
    · simp only [hline]
      refine Leaves.throw ⟨iff_of_true rfl fun hall => ?_, nofun⟩
      have hcut := (replyLine_panics_iff line).1 hline
      exact hcut ((repliesWhole_concat.1 hall).2.code line (by simp [Received.read]))

theorem leaves_readReply (stream : SmtpStream) {g : Received} (hdone : RepliesWhole c g.done)
    (hcurrent : g.current = []) :
    Leaves anyAnswer Received.tick (BreaksOff fuel c) g
      (fun g' r => Took g.done g' r.2 ∧ (Accepted g'.current ↔ r.1 = 250))
      (stream.readReply fuel) := by
  have hunended : Unended c g := by
    refine ⟨hdone, ?_, ?_⟩
    · simp [hcurrent]
    · rw [hcurrent]
      exact not_accepted_nil
  have hfrom := @leaves_readReplyFrom c fuel stream fuel g hunended (by omega)
  rw [hcurrent] at hfrom
  exact hfrom

/-! ## Commands -/

/-- A reply in which nothing is looked for. -/
theorem Took.whole {done : List (List (List Char))} {g : Received} {lines : List (List Char)}
    (h : Took done g lines) (hdone : RepliesWhole c done) (hs : sought c done.length = none) :
    RepliesWhole c g.replies := by
  rw [Received.replies, h.done]
  refine repliesWhole_concat.2 ⟨hdone, h.code, ?_⟩
  rw [hs]
  exact nofun

/-- Sending a line ends the reply before. -/
theorem leaves_sendLine (stream : SmtpStream) (line : List Char) {g : Received}
    (h : RepliesWhole c g.replies) :
    Leaves anyAnswer Received.tick (BreaksOff fuel c) g (fun g' _ => g' = g.next)
      (stream.sendLine line) := by
  unfold sendLine
  refine Leaves.bind (leaves_writeAll stream line h) ?_
  rintro g' _ rfl
  refine Leaves.bind (leaves_writeAll stream crlf h) ?_
  rintro g' _ rfl
  exact leaves_flush stream h

/-- **A command**, and its reply. -/
theorem leaves_command (stream : SmtpStream) (line : List Char) {expected : UInt16}
    (phase : String) {g : Received} (h : RepliesWhole c g.replies)
    (hs : expected = 250 ∨ sought c g.replies.length = none) :
    Leaves anyAnswer Received.tick (BreaksOff fuel c) g
      (fun g' lines => Took g.replies g' lines ∧ (expected = 250 → Accepted g'.current))
      (stream.command fuel line expected phase) := by
  unfold command
  refine Leaves.bind (leaves_sendLine stream line h) ?_
  rintro g' _ rfl
  unfold awaitReply
  refine Leaves.bind (leaves_readReply stream (g := g.next) h rfl) ?_
  rintro g' ⟨code, lines⟩ ⟨htook, hacc⟩
  refine Leaves.bind (leaves_check _ fun hcode => ?_) ?_
  · rcases hs with rfl | hs
    · have hopen : ¬ Accepted g'.current := fun hacc' => hcode (hacc.1 hacc')
      rw [Received.replies, htook.done]
      exact repliesWhole_concat.2 ⟨h, replyWhole_of_not_accepted htook.code hopen⟩
    · exact htook.whole h hs
  · rintro g'' _ ⟨rfl, hcode⟩
    exact Leaves.pure ⟨htook, fun h250 => hacc.2 (hcode.trans h250)⟩

/-- A command with a reply in which nothing is looked for. -/
theorem leaves_plainCommand (stream : SmtpStream) (line : List Char) (expected : UInt16)
    (phase : String) {g : Received} (h : RepliesWhole c g.replies)
    (hs : sought c g.replies.length = none) :
    Leaves anyAnswer Received.tick (BreaksOff fuel c) g
      (fun g' _ => RepliesWhole c g'.replies ∧ g'.done = g.replies)
      (stream.command fuel line expected phase) :=
  (leaves_command stream line phase h (.inr hs)).imp (fun _ _ he => he) fun _ _ ⟨htook, _⟩ =>
    ⟨htook.whole h hs, htook.done⟩

/-- **Looking for a capability** in a reply. -/
theorem leaves_anyCap {p : List (List Char) → Bool} (hp : p [] = false)
    {done : List (List (List Char))} {g : Received} {lines : List (List Char)}
    (h : Took done g lines) (hacc : Accepted g.current) (hdone : RepliesWhole c done)
    (hs : sought c done.length = some p) :
    Leaves anyAnswer Received.tick (BreaksOff fuel c) g
      (fun g' _ => g' = g ∧ RepliesWhole c g.replies) (orPanic (anyCap p lines)) := by
  have hcaps := isSome_anyCap hp lines
  rw [h.lines] at hcaps ⊢
  cases hfound : anyCap p (g.current.map trimEol) with
  | none =>
    rw [hfound] at hcaps
    refine Leaves.throw ⟨iff_of_true rfl fun hall => ?_, nofun⟩
    rw [Received.replies, h.done] at hall
    have hlast := (repliesWhole_concat.1 hall).2
    exact Bool.false_ne_true (hcaps.2 (hlast.caps p hs hacc))
  | some found =>
    rw [hfound] at hcaps
    refine Leaves.pure ⟨rfl, ?_⟩
    rw [Received.replies, h.done]
    refine repliesWhole_concat.2 ⟨hdone, h.code, fun p' hp' _ => ?_⟩
    obtain rfl : p = p' := by
      rw [hs] at hp'
      exact Option.some.inj hp'
    exact hcaps.1 rfl

/-! ## The dialogue -/

/-- What is between the second EHLO, or the first, and the message. -/
structure Greeted (c : SmtpSenderClient) (g : Received) (lines : List (List Char)) : Prop where
  done : RepliesWhole c g.done
  took : Took g.done g lines
  accepted : Accepted g.current
  place : g.done.length = if c.tlsMode = .startTls then 3 else 1

theorem leaves_startTls {g : Received} {lines : List (List Char)} (hdone : RepliesWhole c g.done)
    (hplace : g.done.length = 1) (htook : Took g.done g lines) (hacc : Accepted g.current) :
    Leaves anyAnswer Received.tick (BreaksOff fuel c) g (fun g' r => Greeted c g' r.2)
      (c.startTls fuel .plain lines) := by
  unfold startTls
  cases hmode : c.tlsMode with
  | none => exact Leaves.pure ⟨hdone, htook, hacc, by rw [hplace, hmode]; rfl⟩
  | startTls =>
    have hs : sought c g.done.length = some isStartTls := by
      rw [hplace]
      exact if_pos hmode
    refine Leaves.bind (leaves_anyCap rfl htook hacc hdone hs) ?_
    rintro g' supported ⟨rfl, hwhole⟩
    refine Leaves.bind (leaves_check _ fun _ => hwhole) ?_
    rintro g' _ ⟨rfl, -⟩
    have hplace₂ : g'.replies.length = 2 := by simp [Received.replies, hplace]
    refine Leaves.bind (leaves_plainCommand .plain _ 220 "STARTTLS" hwhole (by rw [hplace₂]; rfl)) ?_
    rintro g₂ _ ⟨hwhole₂, hdone₂⟩
    have hplace₃ : g₂.replies.length = 3 := by simp [Received.replies, hdone₂, hplace]
    refine Leaves.bind (Q := fun g' _ => g' = g₂) ?_ ?_
    · refine Leaves.bind (leaves_smtpCall .tls .buildTlsConnector (fun _ => rfl) hwhole₂) ?_
      rintro g' _ rfl
      refine Leaves.bind (leaves_smtpCall .invalidServerName (.serverName c.smtpHost)
        (fun _ => rfl) hwhole₂) ?_
      rintro g' _ rfl
      refine Leaves.bind (leaves_smtpCall .tls .handshake (fun _ => rfl) hwhole₂) ?_
      rintro g' _ rfl
      exact Leaves.pure rfl
    · rintro g' secured rfl
      refine Leaves.bind (leaves_command secured c.ehlo "EHLO" hwhole₂ (.inl rfl)) ?_
      rintro g₃ caps ⟨htook₃, hacc₃⟩
      refine Leaves.pure ⟨?_, ?_, hacc₃ rfl, ?_⟩
      · rw [htook₃.done]
        exact hwhole₂
      · rw [htook₃.done]
        exact htook₃
      · rw [htook₃.done, hplace₃, if_pos hmode]

theorem sought_eq_none {k : ℕ} (htls : k = 1 → c.tlsMode ≠ .startTls)
    (hlogin : k = 3 → c.credentials = none) : sought c k = none := by
  unfold sought
  split
  · exact if_neg (htls rfl)
  · rw [hlogin rfl]
    rfl
  · rfl

/-- Nothing is cut, and nothing is looked for in the replies to come. -/
structure Unsought (c : SmtpSenderClient) (g : Received) : Prop where
  whole : RepliesWhole c g.replies
  later : ∀ k, g.done.length < k → sought c k = none

theorem Unsought.next {g g' : Received} (h : Unsought c g) (hdone : g'.done = g.replies)
    (hwhole : RepliesWhole c g'.replies) : Unsought c g' := by
  refine ⟨hwhole, fun k hk => h.later k ?_⟩
  rw [hdone, Received.replies, List.length_append] at hk
  omega

theorem Unsought.sought_eq_none {g : Received} (h : Unsought c g) :
    sought c g.replies.length = none :=
  h.later _ (by simp [Received.replies])

theorem leaves_unsoughtCommand (stream : SmtpStream) (line : List Char) (expected : UInt16)
    (phase : String) {g : Received} (h : Unsought c g) :
    Leaves anyAnswer Received.tick (BreaksOff fuel c) g (fun g' _ => Unsought c g')
      (stream.command fuel line expected phase) :=
  (leaves_plainCommand stream line expected phase h.whole h.sought_eq_none).imp
    (fun _ _ he => he) fun _ _ ⟨hwhole, hdone⟩ => h.next hdone hwhole

/-- The reply to what was sent last. -/
theorem leaves_unsoughtReply (stream : SmtpStream) {g : Received} (h : Unsought c g) :
    Leaves anyAnswer Received.tick (BreaksOff fuel c) g.next (fun g' _ => Unsought c g')
      (stream.readReply fuel) :=
  (leaves_readReply stream (g := g.next) h.whole rfl).imp (fun _ _ he => he)
    fun _ _ ⟨htook, _⟩ => h.next htook.done (htook.whole h.whole h.sought_eq_none)

/-- Without a login nothing is looked for any more. -/
theorem Greeted.unsought {g : Received} {lines : List (List Char)} (h : Greeted c g lines)
    (hcreds : c.credentials = none) : Unsought c g := by
  have hnone : ∀ k, g.done.length ≤ k → sought c k = none := by
    intro k hk
    refine Cctf.sought_eq_none ?_ fun _ => hcreds
    rintro rfl htls
    rw [h.place, if_pos htls] at hk
    exact absurd hk (by decide)
  exact ⟨h.took.whole h.done (hnone _ le_rfl), fun k hk => hnone k hk.le⟩

/-- Nothing is looked for after the reply to the second EHLO. -/
theorem unsought_of_place {g : Received} (hwhole : RepliesWhole c g.replies)
    (hplace : g.done.length = 3) : Unsought c g := by
  refine ⟨hwhole, fun k hk => Cctf.sought_eq_none ?_ ?_⟩
  · rintro rfl
    omega
  · rintro rfl
    omega

theorem leaves_authenticate {X : Crates} (stream : SmtpStream) {g : Received}
    {lines : List (List Char)} (h : Greeted c g lines)
    (hmode : ¬ (c.credentials.isSome = true ∧ c.tlsMode = .none)) :
    Leaves anyAnswer Received.tick (BreaksOff fuel c) g (fun g' _ => Unsought c g')
      (c.authenticate X fuel stream lines) := by
  unfold authenticate
  cases hcreds : c.credentials with
  | none => exact Leaves.pure (h.unsought hcreds)
  | some creds =>
    have htls : c.tlsMode = .startTls := by
      cases hm : c.tlsMode with
      | none => exact absurd ⟨by rw [hcreds]; rfl, hm⟩ hmode
      | startTls => rfl
    have hplace : g.done.length = 3 := by rw [h.place, if_pos htls]
    have hs : sought c g.done.length = some isAuthLogin := by
      rw [hplace]
      exact if_pos (by rw [hcreds]; rfl)
    refine Leaves.bind (leaves_anyCap rfl h.took h.accepted h.done hs) ?_
    rintro g' supported ⟨rfl, hwhole⟩
    refine Leaves.bind (leaves_check _ fun _ => hwhole) ?_
    rintro g' _ ⟨rfl, -⟩
    have hunsought := unsought_of_place hwhole hplace
    refine Leaves.bind (leaves_unsoughtCommand stream _ 334 "AUTH" hunsought) ?_
    intro g₁ _ h₁
    refine Leaves.bind (leaves_unsoughtCommand stream _ 334 "AUTH username" h₁) ?_
    intro g₂ _ h₂
    refine Leaves.bind (leaves_sendLine stream _ h₂.whole) ?_
    rintro g' _ rfl
    refine Leaves.bind (leaves_unsoughtReply stream h₂) ?_
    intro g₃ reply h₃
    refine (leaves_check _ fun _ => h₃.whole).imp (fun _ _ he => he) ?_
    rintro g' _ ⟨rfl, -⟩
    exact h₃

/-- The message is written. -/
theorem leaves_sendMessage (stream : SmtpStream) (message : List Char) {g : Received}
    (h : RepliesWhole c g.replies) :
    Leaves anyAnswer Received.tick (BreaksOff fuel c) g (fun g' _ => g' = g.next)
      (sendMessage stream message) := by
  unfold sendMessage endMessage
  refine Leaves.bind (leaves_writeAll stream message h) ?_
  rintro g' _ rfl
  refine Leaves.bind (Q := fun g'' _ => g'' = g') ?_ ?_
  · split
    · exact Leaves.pure rfl
    · exact leaves_writeAll stream crlf h
  · rintro g'' _ rfl
    refine Leaves.bind (leaves_writeAll stream _ h) ?_
    rintro g' _ rfl
    exact leaves_flush stream h

/-- An error that is dropped is not a panic. -/
theorem leaves_dropError {α : Type} {m : Smtp α} {g : Received} {Q : Received → α → Prop}
    (hm : Leaves anyAnswer Received.tick (BreaksOff fuel c) g Q m)
    (hQ : ∀ g a, Q g a → RepliesWhole c g.replies) :
    Leaves anyAnswer Received.tick (BreaksOff fuel c) g (fun g' _ => RepliesWhole c g'.replies)
      (dropError m) := by
  intro evs res hmakes
  obtain ⟨evs₁, evs₂, r, rfl, h₁, rfl, hres⟩ := makes_bind.1 hmakes
  obtain ⟨hok, herr⟩ := hm evs₁ r h₁
  rw [List.append_nil]
  rcases r with e | a
  · have hbroken := herr e rfl
    cases e with
    | err e =>
      obtain rfl : (.ok () : Except Stop Unit) = res := hres
      refine ⟨fun _ _ => not_not.1 fun hcut => ?_, nofun⟩
      exact absurd (hbroken.panic.2 hcut) nofun
    | panic =>
      obtain rfl : (.error .panic : Except Stop Unit) = res := hres
      exact ⟨nofun, fun e he => Except.error.inj he ▸ hbroken⟩
    | fuel =>
      obtain rfl : (.error .fuel : Except Stop Unit) = res := hres
      exact ⟨nofun, fun e he => Except.error.inj he ▸ hbroken⟩
  · obtain rfl : (.ok () : Except Stop Unit) = res := hres
    exact ⟨fun _ _ => hQ _ a (hok a rfl), nofun⟩

theorem leaves_transact {X : Crates} (stream : SmtpStream) (rcpt subject body : List Char)
    {g : Received} (h : Unsought c g) :
    Leaves anyAnswer Received.tick (BreaksOff fuel c) g (fun g' _ => RepliesWhole c g'.replies)
      (c.transact X fuel stream rcpt subject body) := by
  unfold transact
  refine Leaves.bind (leaves_unsoughtCommand stream _ 250 "MAIL FROM" h) ?_
  intro g₁ _ h₁
  refine Leaves.bind (leaves_unsoughtCommand stream _ 250 "RCPT TO" h₁) ?_
  intro g₂ _ h₂
  refine Leaves.bind (leaves_unsoughtCommand stream _ 354 "DATA" h₂) ?_
  intro g₃ _ h₃
  refine Leaves.bind (leaves_sendMessage stream _ h₃.whole) ?_
  rintro g' _ rfl
  refine Leaves.bind (leaves_unsoughtReply stream h₃) ?_
  intro g₄ reply h₄
  refine Leaves.bind (leaves_check _ fun _ => h₄.whole) ?_
  rintro g' _ ⟨rfl, -⟩
  exact leaves_dropError (leaves_unsoughtCommand stream _ 221 "QUIT" h₄) fun _ _ h => h.whole

/-- **The dialogue**: it breaks off in a panic exactly where a reply is cut. -/
theorem leaves_sendEmail (X : Crates) (fuel : ℕ) (c : SmtpSenderClient)
    (rcpt subject body : List Char) :
    Leaves anyAnswer Received.tick (BreaksOff fuel c) .start
      (fun g _ => RepliesWhole c g.replies) (c.sendEmail X fuel rcpt subject body) := by
  have hstart : RepliesWhole c Received.start.replies := repliesWhole_concat.2
    ⟨repliesWhole_nil, replyWhole_of_not_accepted (by simp [Received.start]) not_accepted_nil⟩
  unfold sendEmail
  refine Leaves.bind (leaves_check _ fun _ => hstart) ?_
  rintro g' _ ⟨rfl, hmode⟩
  refine Leaves.bind (leaves_smtpCall .connect (.connect c.smtpHost c.smtpPort) (fun _ => rfl)
    hstart) ?_
  rintro g' _ rfl
  refine Leaves.bind (leaves_readReply .plain (g := .start) repliesWhole_nil rfl) ?_
  rintro g₀ greeting ⟨htook₀, -⟩
  have hwhole₀ : RepliesWhole c g₀.replies := htook₀.whole repliesWhole_nil rfl
  refine Leaves.bind (leaves_check _ fun _ => hwhole₀) ?_
  rintro g' _ ⟨rfl, -⟩
  refine Leaves.bind (leaves_command .plain c.ehlo "EHLO" hwhole₀ (.inl rfl)) ?_
  rintro g₁ caps ⟨htook₁, hacc₁⟩
  have hplace : g₁.done.length = 1 := by
    rw [htook₁.done, Received.replies, htook₀.done]
    rfl
  refine Leaves.bind (leaves_startTls (htook₁.done ▸ hwhole₀) hplace (htook₁.done ▸ htook₁)
    (hacc₁ rfl)) ?_
  rintro g₂ ⟨stream, caps'⟩ hgreeted
  refine Leaves.bind (leaves_authenticate stream hgreeted hmode) ?_
  intro g₃ _ h₃
  exact leaves_transact stream rcpt subject body h₃

end

/-- **A message is sent or refused with an error exactly when no reply is cut inside a
character**: whatever the server answers and whichever call fails, as long as no reply has more
lines than there are rounds. -/
theorem send_email_ends_iff (X : Crates) (fuel : ℕ) (c : SmtpSenderClient)
    (rcpt subject body : List Char) {evs : List (SmtpOp × Answers)} {res : Except Stop Unit}
    (h : Makes anyAnswer (c.sendEmail X fuel rcpt subject body).run evs res)
    (hfuel : ∀ reply ∈ (received evs).replies, reply.length < fuel) :
    (res = .ok () ∨ ∃ e, res = .error (.err e)) ↔ RepliesWhole c (received evs).replies := by
  obtain ⟨hok, herr⟩ := leaves_sendEmail X fuel c rcpt subject body evs res h
  rcases res with e | ⟨⟩
  · have hbroken : BreaksOff fuel c (received evs) e := herr e rfl
    cases e with
    | err e =>
      refine iff_of_true (.inr ⟨e, rfl⟩) (not_not.1 fun hcut => ?_)
      exact absurd (hbroken.panic.2 hcut) nofun
    | panic => exact iff_of_false (by simp) (hbroken.panic.1 rfl)
    | fuel =>
      obtain ⟨reply, hreply, hlong⟩ := hbroken.fuel rfl
      exact absurd (hfuel reply hreply) (Nat.not_lt.2 hlong)
  · exact iff_of_true (.inl rfl) (hok () rfl)

/-- A client that asks for TLS. -/
def tlsClient : SmtpSenderClient :=
  (SmtpSenderClient.new "mail".toList 25 "ctf@example.com".toList).withStarttls

/-- A letter lies across the end of the code of the greeting. -/
def letterGreeting : List (SmtpOp × Answers) :=
  [(.connect "mail".toList 25, answering []), (.readLine .plain, answering "25é\r\n".toList)]

/-- A letter comes right after the code of a line of the reply to EHLO. -/
def letterCapability : List (SmtpOp × Answers) :=
  [(.connect "mail".toList 25, answering []), (.readLine .plain, answering "220 mail\r\n".toList),
    (.writeAll .plain "EHLO localhost".toList, answering []), (.writeAll .plain crlf, answering []),
    (.flush .plain, answering []), (.readLine .plain, answering "250éclair\r\n".toList),
    (.readLine .plain, answering "250 STARTTLS\r\n".toList)]

theorem send_email_ends_iff_letterGreeting :
    ((.error .panic : Except Stop Unit) = .ok () ∨
        ∃ e, (.error .panic : Except Stop Unit) = .error (.err e)) ↔
      RepliesWhole tlsClient (received letterGreeting).replies :=
  send_email_ends_iff Crates.sample 2 tlsClient [] [] [] ⟨_, _, rfl, _, _, rfl, rfl, rfl⟩
    (by decide)

/-- **Either reply ends the client in a panic.** -/
theorem replies_panic :
    Makes anyAnswer (tlsClient.sendEmail Crates.sample 3 [] [] []).run letterGreeting
        (.error .panic) ∧
      Makes anyAnswer (tlsClient.sendEmail Crates.sample 3 [] [] []).run letterCapability
        (.error .panic) :=
  ⟨⟨_, _, rfl, _, _, rfl, rfl, rfl⟩,
    _, _, rfl, _, _, rfl, _, _, rfl, _, _, rfl, _, _, rfl, _, _, rfl, _, _, rfl, rfl, rfl⟩

end Cctf
