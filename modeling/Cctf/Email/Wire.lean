import Cctf.Services.Email.Client

/-!
# The client on the wire

The bytes between the client and the server: the plaintext arrives in pieces, a buffered
reader takes lines from it, and the TLS handshake drops what is buffered.

* `readLine`, `readLine_eq` — a line from the buffer and the pieces; **it does not matter
  where the pieces are cut**.
* `Net`, `net` — the state of the connection, and how it answers the calls of the client.
* `run_alike` — **what the plaintext says after the lines that were read before the
  handshake changes nothing**.
-/

namespace Cctf

open Program

namespace Wire

/-! ## Buffered reading -/

/-- The line feed. -/
def lf : UInt8 := 10

/-- Take a line: from the buffer, and from the pieces that are still to arrive when the
buffer has no whole one. -/
def readLine (buffer : List UInt8) : List (List UInt8) → List UInt8 × List UInt8 × List (List UInt8)
  | [] => ((Lines.takeLine lf buffer).1, (Lines.takeLine lf buffer).2, [])
  | piece :: pieces =>
    if lf ∈ buffer then
      ((Lines.takeLine lf buffer).1, (Lines.takeLine lf buffer).2, piece :: pieces)
    else readLine (buffer ++ piece) pieces

/-- **Where the pieces are cut does not matter.** -/
theorem readLine_eq (buffer : List UInt8) (pieces : List (List UInt8)) :
    (readLine buffer pieces).1 = (Lines.takeLine lf (buffer ++ pieces.flatten)).1 ∧
      (readLine buffer pieces).2.1 ++ (readLine buffer pieces).2.2.flatten =
        (Lines.takeLine lf (buffer ++ pieces.flatten)).2 := by
  induction pieces generalizing buffer with
  | nil => simp [readLine]
  | cons piece pieces ih =>
    rw [readLine]
    by_cases hline : lf ∈ buffer
    · rw [if_pos hline, Lines.takeLine_append hline]
      simp
    · rw [if_neg hline, List.flatten_cons, ← List.append_assoc]
      exact ih (buffer ++ piece)

/-- The text of a line; a line that is not UTF-8 is an error. -/
def decode (line : List UInt8) : Except String (List Char) :=
  match String.fromUTF8? ⟨line.toArray⟩ with
  | some text => .ok text.toList
  | none => .error "stream did not contain valid UTF-8"

/-! ## The connection -/

/-- The state of a connection. -/
structure Net where
  /-- The calls that fail, by their number. -/
  fault : ℕ → Option String
  /-- What the reader holds of the plaintext. -/
  buffer : List UInt8
  /-- The pieces of plaintext that are still to arrive. -/
  socket : List (List UInt8)
  /-- What the server says under TLS. -/
  tls : List UInt8
  /-- The handshake has succeeded. -/
  secured : Bool
  /-- The lines of plaintext that were read. -/
  heard : List (List UInt8)
  /-- The calls of the client. -/
  calls : List SmtpOp

namespace Net

/-- The plaintext that has not been read, buffered or not. -/
def unread (n : Net) : List UInt8 := n.buffer ++ n.socket.flatten

/-- Record a call. -/
def log (n : Net) (op : SmtpOp) : Net := { n with calls := n.calls ++ [op] }

/-- The answer to a call that does not fail. -/
def reply (n : Net) : (op : SmtpOp) → op.Resp
  | .readLine .plain => decode (if n.secured then [] else (Wire.readLine n.buffer n.socket).1)
  | .readLine .tls => decode (Lines.takeLine lf n.tls).1
  | .connect _ _ => .ok ()
  | .writeAll _ _ => .ok ()
  | .flush _ => .ok ()
  | .buildTlsConnector => .ok ()
  | .serverName _ => .ok ()
  | .handshake => .ok ()

/-- What a call that does not fail leaves.  The handshake drops the buffer, and from then
on the socket is read by TLS. -/
def effect (n : Net) : SmtpOp → Net
  | .readLine .plain =>
    if n.secured then n
    else { n with
      buffer := (Wire.readLine n.buffer n.socket).2.1
      socket := (Wire.readLine n.buffer n.socket).2.2
      heard := n.heard ++ [(Wire.readLine n.buffer n.socket).1] }
  | .readLine .tls => { n with tls := (Lines.takeLine lf n.tls).2 }
  | .handshake => { n with buffer := [], socket := [], secured := true }
  | _ => n

def answer (n : Net) (op : SmtpOp) : op.Resp :=
  match n.fault n.calls.length with
  | some reason => .error reason
  | none => n.reply op

def next (n : Net) (op : SmtpOp) : Net :=
  match n.fault n.calls.length with
  | some _ => n.log op
  | none => (n.effect op).log op

end Net

/-- The connection answers the client. -/
def net : Handler SmtpOp SmtpOp.Resp Net := ⟨Net.answer, Net.next⟩

/-! ## Two connections -/

/-- A line with its terminator. -/
def Terminated (line : List UInt8) : Prop := ∃ text, line = text ++ [lf] ∧ lf ∉ text

/-- Two connections on which the client has done the same so far.  What it has not read of
the plaintext begins with the same lines; what follows them may differ. -/
structure Alike (lines : List (List UInt8)) (n₁ n₂ : Net) : Prop where
  fault : n₁.fault = n₂.fault
  tls : n₁.tls = n₂.tls
  heard : n₁.heard = n₂.heard
  calls : n₁.calls = n₂.calls
  open₁ : n₁.secured = false
  open₂ : n₂.secured = false
  unread₁ : ∃ rest, n₁.unread = lines.flatten ++ rest
  unread₂ : ∃ rest, n₂.unread = lines.flatten ++ rest

/-- A terminated line in front is the line that is taken. -/
theorem takeLine_terminated {line : List UInt8} (h : Terminated line) (rest : List UInt8) :
    Lines.takeLine lf (line ++ rest) = (line, rest) := by
  obtain ⟨text, rfl, htext⟩ := h
  rw [List.append_assoc, List.singleton_append, Lines.takeLine_line htext]

theorem next_of_fault {n : Net} {reason : String} (h : n.fault n.calls.length = some reason)
    (op : SmtpOp) : net.answer n op = .error reason ∧ net.next n op = n.log op := by
  constructor
  · show n.answer op = _
    rw [Net.answer, h]
  · show n.next op = _
    rw [Net.next, h]

theorem next_of_ok {n : Net} (h : n.fault n.calls.length = none) (op : SmtpOp) :
    net.answer n op = n.reply op ∧ net.next n op = (n.effect op).log op := by
  constructor
  · show n.answer op = _
    rw [Net.answer, h]
  · show n.next op = _
    rw [Net.next, h]

theorem heard_effect (n : Net) (op : SmtpOp) : n.heard <+: (n.effect op).heard := by
  cases op with
  | readLine stream =>
    cases stream with
    | plain =>
      unfold Net.effect
      by_cases hsecured : n.secured = true
      · rw [if_pos hsecured]
      · rw [if_neg hsecured]
        exact List.prefix_append _ _
    | tls => exact List.prefix_refl _
  | handshake => exact List.prefix_refl _
  | connect host port => exact List.prefix_refl _
  | writeAll stream text => exact List.prefix_refl _
  | flush stream => exact List.prefix_refl _
  | buildTlsConnector => exact List.prefix_refl _
  | serverName host => exact List.prefix_refl _

/-- Lines that were read are never forgotten. -/
theorem heard_run {α : Type} (n : Net) (p : Program SmtpOp SmtpOp.Resp α) :
    n.heard <+: (run net n p).2.heard := by
  induction p generalizing n with
  | done a => exact List.prefix_refl _
  | call op k ih =>
    refine List.IsPrefix.trans ?_ (ih _ _)
    cases hfault : n.fault n.calls.length with
    | some reason =>
      rw [(next_of_fault hfault op).2]
      exact List.prefix_refl _
    | none =>
      rw [(next_of_ok hfault op).2]
      exact heard_effect n op

/-- Reading a line on an open connection. -/
theorem readLine_unread {n : Net} {line rest : List UInt8} (hline : Terminated line)
    (h : n.unread = line ++ rest) :
    (readLine n.buffer n.socket).1 = line ∧
      (readLine n.buffer n.socket).2.1 ++ (readLine n.buffer n.socket).2.2.flatten = rest := by
  obtain ⟨hfirst, hrest⟩ := readLine_eq n.buffer n.socket
  have hunread : n.buffer ++ n.socket.flatten = line ++ rest := h
  rw [hunread, takeLine_terminated hline] at hfirst hrest
  exact ⟨hfirst, hrest⟩

theorem Alike.log {lines : List (List UInt8)} {n₁ n₂ : Net} (h : Alike lines n₁ n₂) (op : SmtpOp) :
    Alike lines (n₁.log op) (n₂.log op) where
  fault := h.fault
  tls := h.tls
  heard := h.heard
  calls := congrArg (· ++ [op]) h.calls
  open₁ := h.open₁
  open₂ := h.open₂
  unread₁ := h.unread₁
  unread₂ := h.unread₂

theorem reply_readLine {n : Net} (hopen : n.secured = false) :
    n.reply (.readLine .plain) = decode (readLine n.buffer n.socket).1 := by
  show decode (if n.secured = true then [] else (readLine n.buffer n.socket).1) = _
  rw [if_neg (by simp [hopen])]

theorem effect_readLine {n : Net} (hopen : n.secured = false) :
    n.effect (.readLine .plain) = { n with
      buffer := (readLine n.buffer n.socket).2.1
      socket := (readLine n.buffer n.socket).2.2
      heard := n.heard ++ [(readLine n.buffer n.socket).1] } := by
  unfold Net.effect
  rw [if_neg (by simp [hopen])]

/-- A line of plaintext is read alike, when it is one of those they have in common. -/
theorem alike_readLine {line : List UInt8} {lines : List (List UInt8)} {n₁ n₂ : Net}
    (h : Alike (line :: lines) n₁ n₂) (hline : Terminated line) :
    n₁.reply (.readLine .plain) = n₂.reply (.readLine .plain) ∧
      (n₁.effect (.readLine .plain)).heard = n₁.heard ++ [line] ∧
      Alike lines (n₁.effect (.readLine .plain)) (n₂.effect (.readLine .plain)) := by
  obtain ⟨rest₁, hunread₁⟩ := h.unread₁
  obtain ⟨rest₂, hunread₂⟩ := h.unread₂
  rw [List.flatten_cons, List.append_assoc] at hunread₁ hunread₂
  obtain ⟨hfirst₁, hrest₁⟩ := readLine_unread hline hunread₁
  obtain ⟨hfirst₂, hrest₂⟩ := readLine_unread hline hunread₂
  rw [reply_readLine h.open₁, reply_readLine h.open₂, effect_readLine h.open₁,
    effect_readLine h.open₂, hfirst₁, hfirst₂]
  exact ⟨rfl, rfl, h.fault, h.tls, congrArg (· ++ [line]) h.heard, h.calls, h.open₁, h.open₂,
    ⟨rest₁, hrest₁⟩, ⟨rest₂, hrest₂⟩⟩

/-- A call that succeeds is answered alike, and the connections stay alike, or a handshake
has made them the same. -/
theorem alike_effect {lines : List (List UInt8)} {n₁ n₂ : Net} (h : Alike lines n₁ n₂)
    (hlines : ∀ line ∈ lines, Terminated line) (op : SmtpOp)
    (hheard : ((n₁.effect op).log op).heard <+: n₁.heard ++ lines) :
    n₁.reply op = n₂.reply op ∧
      ((n₁.effect op).log op = (n₂.effect op).log op ∨
        ∃ lines', ((n₁.effect op).log op).heard ++ lines' = n₁.heard ++ lines ∧
          (∀ line ∈ lines', Terminated line) ∧
            Alike lines' ((n₁.effect op).log op) ((n₂.effect op).log op)) := by
  cases op with
  | readLine stream =>
    cases stream with
    | plain =>
      cases lines with
      | nil =>
        -- a line is read, and there are none left
        have hlong : (n₁.effect (.readLine .plain)).heard.length ≤ (n₁.heard ++ []).length :=
          hheard.length_le
        rw [effect_readLine h.open₁, List.length_append, List.length_append] at hlong
        exact absurd hlong (by simp)
      | cons line lines =>
        rw [List.forall_mem_cons] at hlines
        obtain ⟨hreply, hread, halike⟩ := alike_readLine h hlines.1
        refine ⟨hreply, .inr ⟨lines, ?_, hlines.2, halike.log _⟩⟩
        show (n₁.effect (.readLine .plain)).heard ++ lines = _
        rw [hread]
        simp
    | tls =>
      have hreply : n₁.reply (.readLine .tls) = n₂.reply (.readLine .tls) := by
        show decode (Lines.takeLine lf n₁.tls).1 = decode (Lines.takeLine lf n₂.tls).1
        rw [h.tls]
      refine ⟨hreply, .inr ⟨lines, rfl, hlines, ?_⟩⟩
      have halike := h.log (.readLine .tls)
      exact ⟨halike.fault, congrArg (fun tls => (Lines.takeLine lf tls).2) h.tls, halike.heard,
        halike.calls, halike.open₁, halike.open₂, halike.unread₁, halike.unread₂⟩
  | handshake =>
    refine ⟨rfl, .inl ?_⟩
    show Net.mk n₁.fault [] [] n₁.tls true n₁.heard (n₁.calls ++ [SmtpOp.handshake]) =
      Net.mk n₂.fault [] [] n₂.tls true n₂.heard (n₂.calls ++ [SmtpOp.handshake])
    rw [h.fault, h.tls, h.heard, h.calls]
  | connect host port => exact ⟨rfl, .inr ⟨lines, rfl, hlines, h.log _⟩⟩
  | writeAll stream text => exact ⟨rfl, .inr ⟨lines, rfl, hlines, h.log _⟩⟩
  | flush stream => exact ⟨rfl, .inr ⟨lines, rfl, hlines, h.log _⟩⟩
  | buildTlsConnector => exact ⟨rfl, .inr ⟨lines, rfl, hlines, h.log _⟩⟩
  | serverName host => exact ⟨rfl, .inr ⟨lines, rfl, hlines, h.log _⟩⟩

/-- **One call**: it is answered alike, and the connections stay alike, or a handshake has
made them the same. -/
theorem alike_next {lines : List (List UInt8)} {n₁ n₂ : Net} (h : Alike lines n₁ n₂)
    (hlines : ∀ line ∈ lines, Terminated line) (op : SmtpOp)
    (hheard : (net.next n₁ op).heard <+: n₁.heard ++ lines) :
    net.answer n₁ op = net.answer n₂ op ∧
      (net.next n₁ op = net.next n₂ op ∨
        ∃ lines', (net.next n₁ op).heard ++ lines' = n₁.heard ++ lines ∧
          (∀ line ∈ lines', Terminated line) ∧ Alike lines' (net.next n₁ op) (net.next n₂ op)) := by
  have hsame : n₁.fault n₁.calls.length = n₂.fault n₂.calls.length := by rw [h.fault, h.calls]
  cases hfault : n₁.fault n₁.calls.length with
  | some reason =>
    rw [hfault] at hsame
    obtain ⟨hanswer₁, hnext₁⟩ := next_of_fault hfault op
    obtain ⟨hanswer₂, hnext₂⟩ := next_of_fault hsame.symm op
    rw [hanswer₁, hanswer₂, hnext₁, hnext₂]
    exact ⟨rfl, .inr ⟨lines, rfl, hlines, h.log op⟩⟩
  | none =>
    rw [hfault] at hsame
    obtain ⟨hanswer₁, hnext₁⟩ := next_of_ok hfault op
    obtain ⟨hanswer₂, hnext₂⟩ := next_of_ok hsame.symm op
    rw [hnext₁] at hheard
    rw [hanswer₁, hanswer₂, hnext₁, hnext₂]
    exact alike_effect h hlines op hheard

/-- **What the plaintext says after the lines that were read before the handshake changes
nothing**: neither the result nor any call. -/
theorem run_alike {α : Type} (p : Program SmtpOp SmtpOp.Resp α) {lines : List (List UInt8)}
    {n₁ n₂ : Net} (h : Alike lines n₁ n₂) (hlines : ∀ line ∈ lines, Terminated line)
    (hsecured : (run net n₁ p).2.secured = true)
    (hheard : (run net n₁ p).2.heard = n₁.heard ++ lines) :
    (run net n₂ p).1 = (run net n₁ p).1 ∧
      (run net n₂ p).2.calls = (run net n₁ p).2.calls ∧
      (run net n₂ p).2.secured = true := by
  induction p generalizing n₁ n₂ lines with
  | done a =>
    have hclosed : n₁.secured = true := hsecured
    rw [h.open₁] at hclosed
    exact absurd hclosed (by simp)
  | call op k ih =>
    have hnext : (net.next n₁ op).heard <+: n₁.heard ++ lines := by
      rw [← hheard]
      exact heard_run _ (k (net.answer n₁ op))
    obtain ⟨hanswer, hsame | ⟨lines', hread, hlines', halike⟩⟩ := alike_next h hlines op hnext
    · rw [run, run, ← hanswer, ← hsame]
      exact ⟨rfl, rfl, hsecured⟩
    · rw [run, run, ← hanswer]
      exact ih _ halike hlines' hsecured (hheard.trans hread.symm)

end Wire

end Cctf
