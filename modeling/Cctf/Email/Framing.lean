import Cctf.Email.Delivery

/-!
# Replies one after the other

A reply may have many lines.  The client takes a line for the last one when there is a space,
or nothing, behind the code, and goes on reading otherwise.

* `ServerReply` — a well-formed reply: its code, the texts of its continuation lines, and the
  text of its last line.
* `incoming` — a stream that holds what the server has sent.
* `exec_readReply`, `exec_readReply_take` — one reply, and a part of one.
* `exec_command` — a command acts on the reply that it reads, and on no other.
* `replies_framed` — **replies are read one by one, each with all its lines, and a stream that
  ends within one is an error**.
-/

namespace Cctf

open Text Program SmtpStream

/-! ## Replies -/

/-- A well-formed reply. -/
structure ServerReply where
  digits : List Char
  /-- What the continuation lines say. -/
  more : List (List Char)
  /-- What the last line says, if it says something. -/
  last : Option (List Char)
  length : digits.length = 3
  decimal : ∀ c ∈ digits, c.isDigit = true
  clean : ∀ text ∈ more ++ last.toList, Clean text

namespace ServerReply

/-- The code, as a number. -/
def code (r : ServerReply) : UInt16 := UInt16.ofNat (Nat.ofDigitChars 10 r.digits 0)

/-- A continuation line. -/
def moreLine (digits text : List Char) : List Char := digits ++ '-' :: text

/-- The last line. -/
def lastLine (r : ServerReply) : List Char :=
  r.digits ++ r.last.elim [] fun text => ' ' :: text

/-- The lines, without their ends. -/
def lines (r : ServerReply) : List (List Char) := r.more.map (moreLine r.digits) ++ [r.lastLine]

/-- What the server sends. -/
def text (r : ServerReply) : List Char := r.lines.flatMap (· ++ crlf)

end ServerReply

/-! ## The stream -/

namespace Incoming

/-- The stream has the next line of the text. -/
def answer (unread : List Char) : (op : SmtpOp) → op.Resp
  | .readLine _ => .ok (Lines.takeLine '\n' unread).1
  | .connect _ _ => .ok ()
  | .writeAll _ _ => .ok ()
  | .flush _ => .ok ()
  | .buildTlsConnector => .ok ()
  | .serverName _ => .ok ()
  | .handshake => .ok ()

/-- What is left of the text. -/
def next (unread : List Char) : SmtpOp → List Char
  | .readLine _ => (Lines.takeLine '\n' unread).2
  | _ => unread

end Incoming

/-- A stream that holds a text and ends after it. -/
def incoming : Handler SmtpOp SmtpOp.Resp (List Char) := ⟨Incoming.answer, Incoming.next⟩

/-- Read replies one after the other. -/
def readReplies (fuel : ℕ) (stream : SmtpStream) : ℕ → Smtp (List (UInt16 × List (List Char)))
  | 0 => pure []
  | n + 1 => do
    let reply ← readReply fuel stream
    let replies ← readReplies fuel stream n
    pure (reply :: replies)

section

variable {stream : SmtpStream} {fuel : ℕ}

/-! ## Lines -/

theorem byteLen_of_decimal {digits : List Char} (h : ∀ c ∈ digits, c.isDigit = true) :
    byteLen digits = digits.length := by
  induction digits with
  | nil => rfl
  | cons c cs ih =>
    have hc : c.utf8Size = 1 := by
      have hdigit := h c (by simp)
      simp only [Char.isDigit, ge_iff_le, Bool.and_eq_true, decide_eq_true_eq] at hdigit
      rw [Char.utf8Size, if_pos]
      exact UInt32.le_trans hdigit.2 (by decide)
    rw [byteLen_cons, hc, ih fun d hd => h d (List.mem_cons_of_mem c hd), List.length_cons]
    omega

theorem ofDigitChars_lt {digits : List Char} (h : ∀ c ∈ digits, c.isDigit = true) (n : ℕ) :
    Nat.ofDigitChars 10 digits n < 10 ^ digits.length * (n + 1) := by
  induction digits generalizing n with
  | nil => simp
  | cons c cs ih =>
    have hdigit := h c (by simp)
    simp only [Char.isDigit, ge_iff_le, Bool.and_eq_true, decide_eq_true_eq] at hdigit
    have hc : c.toNat - '0'.toNat ≤ 9 := by
      have hle : c.toNat ≤ 57 := UInt32.le_iff_toNat_le.1 hdigit.2
      have hzero : '0'.toNat = 48 := rfl
      omega
    rw [Nat.ofDigitChars_cons, List.length_cons]
    refine (ih (fun d hd => h d (List.mem_cons_of_mem c hd)) _).trans_le ?_
    rw [Nat.pow_succ, Nat.mul_assoc]
    exact Nat.mul_le_mul_left _ (by omega)

namespace ServerReply

variable (r : ServerReply)

theorem ne_nil : r.digits ≠ [] := by
  intro h
  have := r.length
  rw [h] at this
  simp at this

/-- The code is read. -/
theorem parseU16_digits : parseU16 r.digits = some r.code := by
  obtain ⟨d, ds, hdigits⟩ := List.exists_cons_of_ne_nil r.ne_nil
  have hplus : d ≠ '+' := by
    rintro rfl
    exact absurd (r.decimal '+' (by simp [hdigits])) (by decide)
  have hread : readNat r.digits = some (Nat.ofDigitChars 10 r.digits 0) := by
    rw [← readDigits_eq r.decimal, hdigits]
    simp [readNat, hplus]
  have hlt : Nat.ofDigitChars 10 r.digits 0 < 2 ^ 16 := by
    have hbound := ofDigitChars_lt r.decimal 0
    rw [r.length] at hbound
    omega
  rw [parseU16, hread, Option.bind_some, if_pos hlt, code]

theorem byteLen_digits : byteLen r.digits = 3 := by
  rw [byteLen_of_decimal r.decimal, r.length]

theorem clean_digits : Clean r.digits := by
  intro c hc
  have hdigit := r.decimal c hc
  by_contra heol
  rw [Bool.not_eq_false] at heol
  rcases (by simpa [isEol] using heol : c = '\r' ∨ c = '\n') with rfl | rfl
  · exact absurd hdigit (by decide)
  · exact absurd hdigit (by decide)

/-- No line of a reply has a line ending inside. -/
theorem clean_of_mem_lines {line : List Char} (h : line ∈ r.lines) : Clean line := by
  rcases List.mem_append.1 h with hmore | hend
  · obtain ⟨text, htext, rfl⟩ := List.mem_map.1 hmore
    exact clean_append.2 ⟨r.clean_digits,
      List.forall_mem_cons.2 ⟨by decide, r.clean text (List.mem_append_left _ htext)⟩⟩
  · obtain rfl := List.mem_singleton.1 hend
    refine clean_append.2 ⟨r.clean_digits, ?_⟩
    cases hlast : r.last with
    | none => exact fun c hc => absurd hc (by simp)
    | some text =>
      exact List.forall_mem_cons.2 ⟨by decide, r.clean text (by simp [hlast])⟩

/-- A continuation line is one. -/
theorem replyLine_moreLine {text : List Char} (h : text ∈ r.more) :
    replyLine (moreLine r.digits text ++ crlf) = .ok (r.code, moreLine r.digits text, false) := by
  have hclean := r.clean text (List.mem_append_left _ h)
  rw [moreLine, replyLine_eq text r.byteLen_digits r.parseU16_digits (by decide),
    trimEol_of_clean hclean]
  simp

/-- The last line is the last one. -/
theorem replyLine_lastLine : replyLine (r.lastLine ++ crlf) = .ok (r.code, r.lastLine, true) := by
  rw [lastLine]
  cases hlast : r.last with
  | none =>
    have hcut : splitAtByte 3 r.digits = some (r.digits, []) := by
      rw [← r.byteLen_digits, ← splitAtByte_append r.digits [], List.append_nil]
    have htrim : trimEol (r.digits ++ crlf) = r.digits := by
      rw [trimEol_crlf, trimEol_of_clean r.clean_digits]
    rw [Option.elim_none, List.append_nil, replyLine, if_neg (by simp [crlf]), htrim,
      r.byteLen_digits, if_neg (lt_irrefl 3), hcut]
    simp only [r.parseU16_digits]
    simp
  | some text =>
    have hclean := r.clean text (by simp [hlast])
    rw [Option.elim_some, replyLine_eq text r.byteLen_digits r.parseU16_digits (by decide),
      trimEol_of_clean hclean]
    simp

end ServerReply

/-! ## One reply -/

/-- A line of the stream. -/
theorem exec_readReplyFrom {line : List Char} (h : '\n' ∉ line) (unread : List Char)
    (lines : List (List Char)) {code : UInt16} {trimmed : List Char} {isLast : Bool}
    (hreply : replyLine (line ++ crlf) = .ok (code, trimmed, isLast)) :
    exec incoming (line ++ crlf ++ unread) (readReplyFrom stream (fuel + 1) lines) =
      if isLast then (.ok (code, lines ++ [trimmed]), unread)
      else exec incoming unread (readReplyFrom stream fuel (lines ++ [trimmed])) := by
  have hread : exec incoming (line ++ crlf ++ unread) stream.readLine =
      (.ok (line ++ crlf), unread) := by
    show (Except.ok (Lines.takeLine '\n' (line ++ crlf ++ unread)).1,
      (Lines.takeLine '\n' (line ++ crlf ++ unread)).2) = _
    rw [takeLine_crlf h]
  rw [readReplyFrom, exec_bind, hread]
  simp only [hreply]
  cases isLast with
  | true => rfl
  | false => rfl

/-- The stream has ended. -/
theorem exec_readReplyFrom_nil (lines : List (List Char)) :
    exec incoming [] (readReplyFrom stream (fuel + 1) lines) = (.error (.err .unexpectedEof), []) :=
  rfl

variable {r : ServerReply}

/-- The continuation lines of a reply are read, and more are expected. -/
theorem exec_readReplyFrom_more {texts : List (List Char)} (h : ∀ text ∈ texts, text ∈ r.more)
    (unread : List Char) (lines : List (List Char)) :
    exec incoming ((texts.map (ServerReply.moreLine r.digits)).flatMap (· ++ crlf) ++ unread)
        (readReplyFrom stream (texts.length + fuel) lines) =
      exec incoming unread
        (readReplyFrom stream fuel (lines ++ texts.map (ServerReply.moreLine r.digits))) := by
  induction texts generalizing lines with
  | nil => simp
  | cons text texts ih =>
    rw [List.forall_mem_cons] at h
    have hmem : ServerReply.moreLine r.digits text ∈ r.lines :=
      List.mem_append_left _ (List.mem_map_of_mem h.1)
    have hline := (r.clean_of_mem_lines hmem).not_mem
    rw [List.map_cons, List.flatMap_cons, List.append_assoc, List.length_cons, Nat.add_right_comm,
      exec_readReplyFrom hline _ _ (r.replyLine_moreLine h.1), if_neg Bool.false_ne_true, ih h.2,
      List.append_assoc]
    rfl

/-- **A reply is read to its end, and no further.** -/
theorem exec_readReply (hfuel : r.lines.length ≤ fuel) (unread : List Char) :
    exec incoming (r.text ++ unread) (readReply fuel stream) = (.ok (r.code, r.lines), unread) := by
  obtain ⟨n, rfl⟩ : ∃ n, fuel = r.more.length + (n + 1) := by
    rw [ServerReply.lines, List.length_append, List.length_map, List.length_singleton] at hfuel
    exact ⟨fuel - (r.more.length + 1), by omega⟩
  have htext : r.text ++ unread =
      (r.more.map (ServerReply.moreLine r.digits)).flatMap (· ++ crlf) ++
        (r.lastLine ++ crlf ++ unread) := by
    rw [ServerReply.text, ServerReply.lines, List.flatMap_append, List.append_assoc]
    simp
  have hmem : r.lastLine ∈ r.lines := by simp [ServerReply.lines]
  have hline := (r.clean_of_mem_lines hmem).not_mem
  rw [htext, readReply, exec_readReplyFrom_more (fun _ h => h),
    exec_readReplyFrom hline _ _ r.replyLine_lastLine, if_pos rfl, List.nil_append]
  rfl

/-- **A stream that ends within a reply is an error.** -/
theorem exec_readReply_take {k : ℕ} (hk : k < r.lines.length) (hfuel : k < fuel) :
    exec incoming ((r.lines.take k).flatMap (· ++ crlf)) (readReply fuel stream) =
      (.error (.err .unexpectedEof), []) := by
  rw [ServerReply.lines, List.length_append, List.length_map, List.length_singleton] at hk
  have htake : r.lines.take k = (r.more.take k).map (ServerReply.moreLine r.digits) := by
    rw [ServerReply.lines, List.take_append_of_le_length (by rw [List.length_map]; omega),
      List.map_take]
  obtain ⟨n, rfl⟩ : ∃ n, fuel = (r.more.take k).length + (n + 1) := by
    rw [List.length_take]
    exact ⟨fuel - (min k r.more.length + 1), by omega⟩
  have hmem : ∀ text ∈ r.more.take k, text ∈ r.more := fun _ h => List.mem_of_mem_take h
  rw [htake, readReply, ← List.append_nil (List.flatMap _ _), exec_readReplyFrom_more hmem]
  exact exec_readReplyFrom_nil _

/-- **A command acts on the reply that it reads, and leaves the replies after it.** -/
theorem exec_command (hfuel : r.lines.length ≤ fuel) (unread line : List Char) (expected : UInt16)
    (phase : String) :
    exec incoming (r.text ++ unread) (command fuel stream line expected phase) =
      if r.code = expected then (.ok r.lines, unread)
      else (.error (.err (.rejected r.code phase)), unread) := by
  have hsend : exec incoming (r.text ++ unread) (sendLine stream line) =
      (.ok (), r.text ++ unread) := rfl
  rw [command, exec_bind, hsend]
  simp only
  rw [awaitReply, exec_bind, exec_readReply hfuel]
  by_cases hcode : r.code = expected
  · simp only [check, if_pos hcode]
    rfl
  · simp only [check, if_neg hcode]
    rfl

/-! ## Many replies -/

theorem exec_readReplies {replies : List ServerReply} (h : ∀ r ∈ replies, r.lines.length ≤ fuel)
    (unread : List Char) :
    exec incoming (replies.flatMap ServerReply.text ++ unread)
        (readReplies fuel stream replies.length) =
      (.ok (replies.map fun r => (r.code, r.lines)), unread) := by
  induction replies with
  | nil => rfl
  | cons r replies ih =>
    rw [List.forall_mem_cons] at h
    rw [List.flatMap_cons, List.append_assoc, List.length_cons, readReplies, exec_bind,
      exec_readReply h.1]
    simp only
    rw [exec_bind, ih h.2]
    rfl

variable (stream) in
/-- **Replies are framed.**  As many calls as there are replies return them one by one, each
with its code and its lines, and leave what follows them; where that ends within a reply, the
next call says so. -/
theorem replies_framed {replies : List ServerReply} (h : ∀ r ∈ replies, r.lines.length ≤ fuel) :
    (∀ unread, exec incoming (replies.flatMap ServerReply.text ++ unread)
        (readReplies fuel stream replies.length) =
      (.ok (replies.map fun r => (r.code, r.lines)), unread)) ∧
    ∀ r : ServerReply, ∀ k < r.lines.length, k < fuel →
      exec incoming (replies.flatMap ServerReply.text ++ (r.lines.take k).flatMap (· ++ crlf))
          (do let _ ← readReplies fuel stream replies.length
              readReply fuel stream) = (.error (.err .unexpectedEof), []) := by
  refine ⟨exec_readReplies h, fun r k hk hfuel => ?_⟩
  rw [exec_bind, exec_readReplies h]
  exact exec_readReply_take hk hfuel

end

/-- The reply to EHLO of a server with two extensions. -/
def ServerReply.sample : ServerReply where
  digits := "250".toList
  more := ["mail.example.com".toList, "STARTTLS".toList]
  last := some "AUTH LOGIN".toList
  length := by decide
  decimal := by decide
  clean := by decide

/-- Two replies, one after the other. -/
theorem replies_framed_sample :
    ServerReply.sample.lines.length ≤ 3 ∧
    exec incoming ([ServerReply.sample, ServerReply.sample].flatMap ServerReply.text ++ [])
      (readReplies 3 .plain 2) =
      (.ok ([ServerReply.sample, ServerReply.sample].map fun r => (r.code, r.lines)), []) :=
  have h : ∀ r ∈ [ServerReply.sample, ServerReply.sample], r.lines.length ≤ 3 := by decide
  ⟨by decide, (replies_framed .plain h).1 []⟩

end Cctf
