import Mathlib.Logic.Relation
import Cctf.Library.Lines
import Cctf.Library.Program

/-!
# Two programs in conversation

Two programs exchange text over a pair of streams.  Each reads line by line and waits
when no line has arrived; what one sends is appended to what the other has not read.

* `Act` — what a call does to the streams: wait for a line, or send without waiting.
* `Duplex.End`, `Duplex.Link`, `Duplex.step` — the two ends, and a move of one of them.
* `Duplex.diamond`, `Duplex.reaches_of_final`, `Duplex.endsIn_of_reaches` — **the order of
  the moves does not matter**: if some order ends in a state in which neither can move,
  every order ends there.
* `play` — a program on its own, with the text it is going to read; `play_bind` is the
  rule of sequencing.
* `Duplex.reaches_left`, `Duplex.reaches_right` — what a program plays on its own it
  plays in a conversation.
-/

open Relation

/-- What a call does, in text over `α`, records of type `ρ` and a response `R`. -/
inductive Act (α ρ R : Type) where
  /-- Wait for a line; an empty one is the end of the stream. -/
  | receive (answer : List α → R)
  /-- Send some text and leave some records. -/
  | send (text : List α) (record : List ρ) (answer : R)

/-! ## A program on its own -/

namespace Program

/-- What a program did on its own: its result, the text it sent, what it recorded, and
the text it left unread. -/
structure Played (α ρ β : Type) where
  result : β
  sent : List α
  record : List ρ
  unread : List α

/-- What was done before is put in front. -/
def Played.after {α ρ β γ : Type} (first : Played α ρ β) (second : Played α ρ γ) :
    Played α ρ γ where
  result := second.result
  sent := first.sent ++ second.sent
  record := first.record ++ second.record
  unread := second.unread

variable {Op : Type} {Resp : Op → Type} {α ρ β γ ε : Type} [DecidableEq α]
  (port : (op : Op) → Act α ρ (Resp op)) (eol : α)

/-- Run a program on a text that holds all lines it reads; `none` when it does not. -/
def play : Program Op Resp β → List α → Option (Played α ρ β)
  | .done b, inbox => some ⟨b, [], [], inbox⟩
  | .call op k, inbox =>
    match port op with
    | .receive answer =>
      if eol ∈ inbox then
        play (k (answer (Lines.takeLine eol inbox).1)) (Lines.takeLine eol inbox).2
      else none
    | .send text record answer =>
      (play (k answer) inbox).map fun r => { r with
        sent := text ++ r.sent
        record := record ++ r.record }

variable {port eol}

/-- **The rule of sequencing.** -/
theorem play_bind {p : Program Op Resp β} {f : β → Program Op Resp γ} {inbox : List α}
    {r : Played α ρ β} (h : play port eol p inbox = some r) :
    play port eol (p >>= f) inbox = (play port eol (f r.result) r.unread).map r.after := by
  induction p generalizing inbox r with
  | done b =>
    obtain rfl : _ = r := Option.some.inj h
    show play port eol (f b) inbox = (play port eol (f b) inbox).map _
    cases play port eol (f b) inbox with
    | none => rfl
    | some r' => rfl
  | call op k ih =>
    show play port eol (.call op fun x => k x >>= f) inbox = _
    rw [play] at h ⊢
    cases hop : port op with
    | receive answer =>
      simp only [hop] at h ⊢
      by_cases hline : eol ∈ inbox
      · rw [if_pos hline] at h ⊢
        exact ih _ h
      · rw [if_neg hline] at h
        exact absurd h (by simp)
    | send text record answer =>
      simp only [hop] at h ⊢
      obtain ⟨r', hr', rfl⟩ := Option.map_eq_some_iff.1 h
      rw [ih _ hr', Option.map_map]
      refine congrArg (Option.map · _) (funext fun r'' => ?_)
      simp [Played.after]

/-- **The rule of sequencing**, for a program that may fail and does not. -/
theorem play_bind_ok {m : ExceptT ε (Program Op Resp) β} {f : β → ExceptT ε (Program Op Resp) γ}
    {inbox : List α} {b : β} {sent : List α} {record : List ρ} {unread : List α}
    (h : play port eol m.run inbox = some ⟨.ok b, sent, record, unread⟩) :
    play port eol (m >>= f).run inbox =
      (play port eol (f b).run unread).map (Played.after ⟨b, sent, record, unread⟩) :=
  play_bind (f := ExceptT.bindCont f) h

/-- A program that has sent nothing leaves no trace. -/
theorem play_bind_silent {m : ExceptT ε (Program Op Resp) β}
    {f : β → ExceptT ε (Program Op Resp) γ} {inbox unread : List α} {b : β}
    (h : play port eol m.run inbox = some ⟨.ok b, [], [], unread⟩) :
    play port eol (m >>= f).run inbox = play port eol (f b).run unread := by
  rw [play_bind_ok h]
  cases play port eol (f b).run unread with
  | none => rfl
  | some r => rfl

end Program

namespace Duplex

open Program

variable {Op Op' : Type} {Resp : Op → Type} {Resp' : Op' → Type} {α ρ β β' δ ε : Type}

/-! ## The ends and their moves -/

/-- One end: what the program still has to do, the text that has arrived, and what it
has recorded. -/
structure End (Op : Type) (Resp : Op → Type) (α ρ β : Type) where
  prog : Program Op Resp β
  inbox : List α
  record : List ρ

namespace End

/-- Text arrives. -/
def receive (e : End Op Resp α ρ β) (text : List α) : End Op Resp α ρ β :=
  { e with inbox := e.inbox ++ text }

@[simp] theorem receive_nil (e : End Op Resp α ρ β) : e.receive [] = e := by simp [receive]

theorem receive_receive (e : End Op Resp α ρ β) (text text' : List α) :
    (e.receive text).receive text' = e.receive (text ++ text') := by simp [receive]

/-- The program has ended. -/
def ended (e : End Op Resp α ρ β) : Bool :=
  match e.prog with
  | .done _ => true
  | .call _ _ => false

variable [DecidableEq α]

/-- The next call, with the text it sends.  A program waits for a line until one has
arrived or the other end has closed; a program that has ended does not move. -/
def move (port : (op : Op) → Act α ρ (Resp op)) (eol : α) (closed : Bool)
    (e : End Op Resp α ρ β) : Option (End Op Resp α ρ β × List α) :=
  match e.prog with
  | .done _ => none
  | .call op k =>
    match port op with
    | .receive answer =>
      if eol ∈ e.inbox ∨ closed = true then
        some ({ e with
          prog := k (answer (Lines.takeLine eol e.inbox).1)
          inbox := (Lines.takeLine eol e.inbox).2 }, [])
      else none
    | .send text record answer =>
      some ({ e with prog := k answer, record := e.record ++ record }, text)

variable {port : (op : Op) → Act α ρ (Resp op)} {eol : α} {closed : Bool} {e : End Op Resp α ρ β}

theorem ended_of_move {r : End Op Resp α ρ β × List α} (h : e.move port eol closed = some r) :
    e.ended = false := by
  rw [move] at h
  rw [ended]
  cases hp : e.prog with
  | done b => simp [hp] at h
  | call op k => rfl

/-- **Later text does not change the next move.** -/
theorem move_receive {e' : End Op Resp α ρ β} {out : List α}
    (h : e.move port eol false = some (e', out)) (text : List α) (closed' : Bool) :
    (e.receive text).move port eol closed' = some (e'.receive text, out) := by
  obtain ⟨prog, inbox, record⟩ := e
  show End.move port eol closed' ⟨prog, inbox ++ text, record⟩ = _
  rw [move] at h ⊢
  cases prog with
  | done b => simp at h
  | call op k =>
    cases hop : port op with
    | receive answer =>
      simp only [hop] at h ⊢
      by_cases hline : eol ∈ inbox
      · have hmore : eol ∈ inbox ++ text := List.mem_append_left _ hline
        obtain ⟨rfl, rfl⟩ : _ = e' ∧ [] = out := by simpa [hline] using h
        simp only [hmore, true_or, if_true, Lines.takeLine_append hline]
        rfl
      · simp [hline] at h
    | send sent recorded answer =>
      simp only [hop] at h ⊢
      obtain ⟨rfl, rfl⟩ : _ = e' ∧ sent = out := by simpa using h
      rfl

end End

/-- Which end moves. -/
inductive Side where
  | left
  | right
  deriving DecidableEq, Repr

/-- Two ends and what is between them. -/
structure Link (Op : Type) (Resp : Op → Type) (Op' : Type) (Resp' : Op' → Type)
    (α ρ β β' : Type) where
  left : End Op Resp α ρ β
  right : End Op' Resp' α ρ β'

variable [DecidableEq α] (port : (op : Op) → Act α ρ (Resp op))
  (port' : (op : Op') → Act α ρ (Resp' op)) (eol : α)

/-- A move of one end; what it sends arrives at the other. -/
def step (L : Link Op Resp Op' Resp' α ρ β β') : Side → Option (Link Op Resp Op' Resp' α ρ β β')
  | .left => (L.left.move port eol L.right.ended).map fun (e, out) => ⟨e, L.right.receive out⟩
  | .right => (L.right.move port' eol L.left.ended).map fun (e, out) => ⟨L.left.receive out, e⟩

/-- Some moves lead from one state to another. -/
def Reaches (L M : Link Op Resp Op' Resp' α ρ β β') : Prop :=
  ReflTransGen (fun L M => ∃ side, step port port' eol L side = some M) L M

/-- Neither end can move. -/
def Final (L : Link Op Resp Op' Resp' α ρ β β') : Prop :=
  ∀ side, step port port' eol L side = none

variable {port port' eol} {L M F : Link Op Resp Op' Resp' α ρ β β'}

/-- **Moves of the two ends commute.** -/
theorem diamond {L₁ L₂ : Link Op Resp Op' Resp' α ρ β β'}
    (hleft : step port port' eol L .left = some L₁)
    (hright : step port port' eol L .right = some L₂) :
    ∃ M, step port port' eol L₁ .right = some M ∧ step port port' eol L₂ .left = some M := by
  obtain ⟨⟨e, out⟩, hmove, rfl⟩ := Option.map_eq_some_iff.1 hleft
  obtain ⟨⟨e', out'⟩, hmove', rfl⟩ := Option.map_eq_some_iff.1 hright
  rw [End.ended_of_move hmove] at hmove'
  rw [End.ended_of_move hmove'] at hmove
  refine ⟨⟨e.receive out', e'.receive out⟩, ?_, ?_⟩
  · show ((L.right.receive out).move port' eol e.ended).map _ = _
    rw [End.move_receive hmove', Option.map_some]
  · show ((L.left.receive out').move port eol e'.ended).map _ = _
    rw [End.move_receive hmove, Option.map_some]

/-- Two moves from one state can be brought together again. -/
theorem join_of_moves {L₁ L₂ : Link Op Resp Op' Resp' α ρ β β'} :
    (∃ side, step port port' eol L side = some L₁) →
      (∃ side, step port port' eol L side = some L₂) →
      ∃ M, ReflGen (fun L M => ∃ side, step port port' eol L side = some M) L₁ M ∧
        Reaches port port' eol L₂ M := by
  rintro ⟨side₁, h₁⟩ ⟨side₂, h₂⟩
  cases side₁ with
  | left =>
    cases side₂ with
    | left =>
      obtain rfl : L₁ = L₂ := Option.some.inj (h₁.symm.trans h₂)
      exact ⟨L₁, .refl, .refl⟩
    | right =>
      obtain ⟨M, hM₁, hM₂⟩ := diamond h₁ h₂
      exact ⟨M, .single ⟨.right, hM₁⟩, .single ⟨.left, hM₂⟩⟩
  | right =>
    cases side₂ with
    | right =>
      obtain rfl : L₁ = L₂ := Option.some.inj (h₁.symm.trans h₂)
      exact ⟨L₁, .refl, .refl⟩
    | left =>
      obtain ⟨M, hM₁, hM₂⟩ := diamond h₂ h₁
      exact ⟨M, .single ⟨.left, hM₂⟩, .single ⟨.right, hM₁⟩⟩

/-- **The order of the moves does not matter**: from every state on the way, the final
state is still reached. -/
theorem reaches_of_final (hfinal : Final port port' eol F) (hF : Reaches port port' eol L F)
    (hM : Reaches port port' eol L M) : Reaches port port' eol M F := by
  obtain ⟨N, hMN, hFN⟩ := church_rosser (fun _ _ _ => join_of_moves) hM hF
  rcases hFN.cases_head with heq | ⟨N', ⟨side, hstep⟩, -⟩
  · rw [heq]
    exact hMN
  · rw [hfinal side] at hstep
    exact absurd hstep (by simp)

/-! ## Every conversation ends -/

/-- A move takes a program to one of its continuations. -/
theorem End.prog_of_move {closed : Bool} {op : Op} {k : Resp op → Program Op Resp β}
    {inbox : List α} {record : List ρ} {e : End Op Resp α ρ β} {out : List α}
    (h : End.move port eol closed ⟨.call op k, inbox, record⟩ = some (e, out)) :
    ∃ x, e.prog = k x := by
  rw [End.move] at h
  cases hop : port op with
  | receive answer =>
    simp only [hop] at h
    split at h
    · obtain ⟨rfl, -⟩ : _ = e ∧ [] = out := by simpa using h
      exact ⟨_, rfl⟩
    · exact absurd h (by simp)
  | send text record' answer =>
    simp only [hop] at h
    obtain ⟨rfl, -⟩ : _ = e ∧ text = out := by simpa using h
    exact ⟨_, rfl⟩

/-- One end can move only finitely often before the other does. -/
theorem acc_of_left {p : Program Op Resp β}
    (hleft : ∀ closed inbox record e out,
      End.move port eol closed ⟨p, inbox, record⟩ = some (e, out) →
      ∀ right : End Op' Resp' α ρ β',
        Acc (fun M L => ∃ side, step port port' eol L side = some M) ⟨e, right⟩)
    (q : Program Op' Resp' β') (inbox inbox' : List α) (record record' : List ρ) :
    Acc (fun M L => ∃ side, step port port' eol L side = some M)
      ⟨⟨p, inbox, record⟩, ⟨q, inbox', record'⟩⟩ := by
  have hmoves : ∀ {inbox : List α} {record : List ρ} {right : End Op' Resp' α ρ β'}
      {M : Link Op Resp Op' Resp' α ρ β β'},
      step port port' eol ⟨⟨p, inbox, record⟩, right⟩ .left = some M →
      Acc (fun M L => ∃ side, step port port' eol L side = some M) M := by
    intro inbox record right M hstep
    obtain ⟨⟨e, out⟩, hmove, rfl⟩ := Option.map_eq_some_iff.1 hstep
    exact hleft _ _ _ e out hmove _
  induction q generalizing inbox inbox' record record' with
  | done b =>
    refine .intro _ fun M hM => ?_
    obtain ⟨side, hstep⟩ := hM
    cases side with
    | left => exact hmoves hstep
    | right => exact absurd hstep (by simp [step, End.move])
  | call op k ih =>
    refine .intro _ fun M hM => ?_
    obtain ⟨side, hstep⟩ := hM
    cases side with
    | left => exact hmoves hstep
    | right =>
      obtain ⟨⟨e, out⟩, hmove, rfl⟩ := Option.map_eq_some_iff.1 hstep
      obtain ⟨x, hprog⟩ := End.prog_of_move hmove
      obtain ⟨prog, inbox'', record''⟩ := e
      obtain rfl : prog = k x := hprog
      exact ih x _ _ _ _

/-- **No conversation goes on forever**, because no program does. -/
theorem acc_step (L : Link Op Resp Op' Resp' α ρ β β') :
    Acc (fun M L => ∃ side, step port port' eol L side = some M) L := by
  obtain ⟨⟨p, inbox, record⟩, ⟨q, inbox', record'⟩⟩ := L
  induction p generalizing q inbox inbox' record record' with
  | done b =>
    refine acc_of_left (fun closed i r e out hmove => ?_) q _ _ _ _
    exact absurd hmove (by simp [End.move])
  | call op k ih =>
    refine acc_of_left (fun closed i r e out hmove right => ?_) q _ _ _ _
    obtain ⟨x, hprog⟩ := End.prog_of_move hmove
    obtain ⟨prog, i', r'⟩ := e
    obtain rfl : prog = k x := hprog
    exact ih x _ _ right.prog _ _

variable (port port' eol) in
/-- Whatever the order of the moves, the conversation comes to an end, and this is the
state in which it ends. -/
structure EndsIn (L F : Link Op Resp Op' Resp' α ρ β β') : Prop where
  terminates : Acc (fun M L => ∃ side, step port port' eol L side = some M) L
  final : Final port port' eol F
  reaches : ∀ M, Reaches port port' eol L M → Reaches port port' eol M F

/-- **One order decides**: where one order of the moves ends, every order does. -/
theorem endsIn_of_reaches (hfinal : Final port port' eol F) (h : Reaches port port' eol L F) :
    EndsIn port port' eol L F :=
  ⟨acc_step L, hfinal, fun _ hM => reaches_of_final hfinal h hM⟩

/-! ## Playing in a conversation -/

/-- **What a program plays on its own it plays on the left.** -/
theorem reaches_left {γ : Type} {p : Program Op Resp γ} {f : γ → Program Op Resp β}
    {inbox : List α} {record : List ρ} {other : End Op' Resp' α ρ β'} {r : Played α ρ γ}
    (h : play port eol p inbox = some r) :
    Reaches port port' eol ⟨⟨p >>= f, inbox, record⟩, other⟩
      ⟨⟨f r.result, r.unread, record ++ r.record⟩, other.receive r.sent⟩ := by
  induction p generalizing inbox record other r with
  | done b =>
    obtain rfl : _ = r := Option.some.inj h
    rw [End.receive_nil, List.append_nil]
    exact .refl
  | call op k ih =>
    rw [play] at h
    cases hop : port op with
    | receive answer =>
      simp only [hop] at h
      by_cases hline : eol ∈ inbox
      · rw [if_pos hline] at h
        refine .head ⟨.left, ?_⟩ (ih _ h)
        show (End.move port eol other.ended ⟨.call op fun x => k x >>= f, inbox, record⟩).map _ = _
        rw [End.move]
        simp only [hop, hline, true_or, if_true, Option.map_some, End.receive_nil]
      · rw [if_neg hline] at h
        exact absurd h (by simp)
    | send text recorded answer =>
      simp only [hop] at h
      obtain ⟨r', hr', rfl⟩ := Option.map_eq_some_iff.1 h
      have hrest : Reaches port port' eol
          ⟨⟨k answer >>= f, inbox, record ++ recorded⟩, other.receive text⟩
          ⟨⟨f r'.result, r'.unread, record ++ recorded ++ r'.record⟩,
            (other.receive text).receive r'.sent⟩ := ih _ hr'
      rw [End.receive_receive, List.append_assoc] at hrest
      refine .head ⟨.left, ?_⟩ hrest
      show (End.move port eol other.ended ⟨.call op fun x => k x >>= f, inbox, record⟩).map _ = _
      rw [End.move]
      simp only [hop, Option.map_some]

/-- The same for a program that may fail and does not. -/
theorem reaches_left_ok {γ : Type} {m : ExceptT ε (Program Op Resp) γ}
    {f : γ → ExceptT ε (Program Op Resp) δ} {inbox unread sent : List α} {record recorded : List ρ}
    {other : End Op' Resp' α ρ β'} {b : γ}
    (h : play port eol m.run inbox = some ⟨.ok b, sent, recorded, unread⟩) :
    Reaches port port' eol ⟨⟨(m >>= f).run, inbox, record⟩, other⟩
      ⟨⟨(f b).run, unread, record ++ recorded⟩, other.receive sent⟩ :=
  reaches_left (f := ExceptT.bindCont f) h

/-! ## The same on the other side -/

/-- The same state, seen from the other side. -/
def Link.swap (L : Link Op Resp Op' Resp' α ρ β β') : Link Op' Resp' Op Resp α ρ β' β :=
  ⟨L.right, L.left⟩

theorem step_swap {L M : Link Op Resp Op' Resp' α ρ β β'} {side : Side}
    (h : step port port' eol L side = some M) :
    ∃ side', step port' port eol L.swap side' = some M.swap := by
  cases side with
  | left =>
    obtain ⟨r, hmove, rfl⟩ := Option.map_eq_some_iff.1 h
    refine ⟨.right, ?_⟩
    show (L.left.move port eol L.right.ended).map _ = _
    rw [hmove]
    rfl
  | right =>
    obtain ⟨r, hmove, rfl⟩ := Option.map_eq_some_iff.1 h
    refine ⟨.left, ?_⟩
    show (L.right.move port' eol L.left.ended).map _ = _
    rw [hmove]
    rfl

/-- **What a program plays on its own it plays on the right.** -/
theorem reaches_right {γ : Type} {p : Program Op' Resp' γ} {f : γ → Program Op' Resp' β'}
    {inbox : List α} {record : List ρ} {other : End Op Resp α ρ β} {r : Played α ρ γ}
    (h : play port' eol p inbox = some r) :
    Reaches port port' eol ⟨other, ⟨p >>= f, inbox, record⟩⟩
      ⟨other.receive r.sent, ⟨f r.result, r.unread, record ++ r.record⟩⟩ :=
  ReflTransGen.lift Link.swap (fun _ _ ⟨_, hstep⟩ => step_swap hstep) _ _ (reaches_left h)

/-- The same for a program that may fail and does not. -/
theorem reaches_right_ok {γ : Type} {m : ExceptT ε (Program Op' Resp') γ}
    {f : γ → ExceptT ε (Program Op' Resp') δ} {inbox unread sent : List α}
    {record recorded : List ρ} {other : End Op Resp α ρ β} {b : γ}
    (h : play port' eol m.run inbox = some ⟨.ok b, sent, recorded, unread⟩) :
    Reaches port port' eol ⟨other, ⟨(m >>= f).run, inbox, record⟩⟩
      ⟨other.receive sent, ⟨(f b).run, unread, record ++ recorded⟩⟩ :=
  reaches_right (f := ExceptT.bindCont f) h

end Duplex
