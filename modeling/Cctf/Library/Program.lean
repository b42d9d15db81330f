import Mathlib.Data.List.Induction
import Mathlib.Logic.Function.Basic

/-!
# Programs that make calls

A service talks to the outside one call at a time: it issues a call, waits for
the response, and goes on from there.  This file has the type of such programs
and the two ways of running them.

* `Program Op Resp α` — a finite tree of calls; `Program.run` plays it against a
  `Handler`, one call after the other, with nobody else in between.
* `Program.exec` — the same for programs that can also stop with an error
  (`ExceptT`), which is what a chain of `?` operators makes; `exec_bind` is the
  only rule a symbolic run needs.
* `Program.Along` — **what a program does whatever the responses**: a predicate
  on the remaining program that carries a memory of the responses so far, asks a
  guard of every call and a postcondition of every result.
* `Program.Eventually` — a call that a program makes whatever the responses.
* `Program.Throughout` — what a program does when it is played against a handler: a
  predicate on every call together with the store it finds, and a postcondition.
* `Program.lift` — a program as a part of one that makes more kinds of calls.
* `Pool` — any number of programs sharing one store, a schedule picking who
  makes the next call.  `Pool.trace` lists the calls made, each with the store
  it found.
* `Pool.run_invariant` — a property of the trace and the pool that every single
  call preserves holds after every schedule.
-/

/-- A program that makes calls `op : Op`, each answered by a `Resp op`, and ends
with a value of type `α`. -/
inductive Program (Op : Type) (Resp : Op → Type) (α : Type) where
  /-- The program has ended. -/
  | done (a : α)
  /-- Make the call `op` and go on with its response. -/
  | call (op : Op) (k : Resp op → Program Op Resp α)

/-- How a store of type `σ` answers a call, and what the call leaves of it. -/
structure Handler (Op : Type) (Resp : Op → Type) (σ : Type) where
  /-- The response to a call made in a given store. -/
  answer : σ → (op : Op) → Resp op
  /-- The store after the call. -/
  next : σ → Op → σ

namespace Program

variable {Op : Type} {Resp : Op → Type} {α β ε σ γ : Type}

/-! ## The monad of programs -/

/-- Run `p`, then the program its result chooses. -/
def bind : Program Op Resp α → (α → Program Op Resp β) → Program Op Resp β
  | .done a, f => f a
  | .call op k, f => .call op fun r => (k r).bind f

instance : Monad (Program Op Resp) where
  pure := .done
  bind := bind

protected theorem bind_done (p : Program Op Resp α) : p.bind .done = p := by
  induction p with
  | done a => rfl
  | call op k ih => exact congrArg (Program.call op) (funext ih)

protected theorem bind_assoc {δ : Type} (p : Program Op Resp α) (f : α → Program Op Resp β)
    (g : β → Program Op Resp δ) : (p.bind f).bind g = p.bind fun a => (f a).bind g := by
  induction p with
  | done a => rfl
  | call op k ih => exact congrArg (Program.call op) (funext ih)

instance : LawfulMonad (Program Op Resp) :=
  LawfulMonad.mk' _ Program.bind_done (fun _ _ => rfl) Program.bind_assoc

/-! ## Running a program on its own -/

/-- Play a program against a store, nobody else touching the store. -/
def run (H : Handler Op Resp σ) : σ → Program Op Resp α → α × σ
  | s, .done a => (a, s)
  | s, .call op k => run H (H.next s op) (k (H.answer s op))

theorem run_bind (H : Handler Op Resp σ) (s : σ) (p : Program Op Resp α)
    (f : α → Program Op Resp β) :
    run H s (p >>= f) = run H (run H s p).2 (f (run H s p).1) := by
  induction p generalizing s with
  | done a => rfl
  | call op k ih => exact ih (H.answer s op) (H.next s op)

/-! ## Programs that can fail -/

/-- Run a program that may stop with an error. -/
def exec (H : Handler Op Resp σ) (s : σ) (m : ExceptT ε (Program Op Resp) α) :
    Except ε α × σ :=
  run H s m.run

/-- **The rule of sequencing**: an error stops the run, a value goes on. -/
theorem exec_bind (H : Handler Op Resp σ) (s : σ) (m : ExceptT ε (Program Op Resp) α)
    (f : α → ExceptT ε (Program Op Resp) β) :
    exec H s (m >>= f) =
      match exec H s m with
      | (.ok a, s') => exec H s' (f a)
      | (.error e, s') => (.error e, s') := by
  show run H s (m.run >>= ExceptT.bindCont f) = _
  rw [run_bind, exec]
  rcases run H s m.run with ⟨x, s'⟩
  cases x with
  | ok a => rfl
  | error e => rfl

/-! ## What a program does whatever the responses -/

/-- `Along may tick guard post g p`: from memory `g` on, as long as every
response is one that `may` come, each call the program makes passes the `guard`
and each result it ends with satisfies `post`.  `tick` is what a call and its
response add to the memory. -/
def Along (may : (op : Op) → Resp op → Prop) (tick : γ → (op : Op) → Resp op → γ)
    (guard : γ → Op → Prop) (post : γ → α → Prop) : γ → Program Op Resp α → Prop
  | g, .done a => post g a
  | g, .call op k => guard g op ∧ ∀ r, may op r → Along may tick guard post (tick g op r) (k r)

variable {may : (op : Op) → Resp op → Prop} {tick : γ → (op : Op) → Resp op → γ}
  {guard : γ → Op → Prop} {post : γ → α → Prop}

theorem Along.bind {post' : γ → β → Prop} {f : α → Program Op Resp β} :
    ∀ {p : Program Op Resp α} {g : γ}, Along may tick guard post g p →
      (∀ g a, post g a → Along may tick guard post' g (f a)) →
      Along may tick guard post' g (p >>= f)
  | .done a, g, h, hf => hf g a h
  | .call _ k, _, h, hf => ⟨h.1, fun r hr => Along.bind (p := k r) (h.2 r hr) hf⟩

/-- `Eventually may target p`: as long as every response is one that `may` come, `p`
makes a `target` call. -/
def Eventually (may : (op : Op) → Resp op → Prop) (target : Op → Prop) :
    Program Op Resp α → Prop
  | .done _ => False
  | .call op k => target op ∨ ∀ r, may op r → Eventually may target (k r)

/-- A target that a call is not is still to come after it. -/
theorem Eventually.next {target : Op → Prop} {op : Op} {k : Resp op → Program Op Resp α}
    (h : Eventually may target (.call op k)) (hop : ¬ target op) {r : Resp op} (hr : may op r) :
    Eventually may target (k r) := by
  rcases h with hnow | hlater
  · exact absurd hnow hop
  · exact hlater r hr

/-- `Throughout H P post s p`: played against `H` from `s` on, every call of `p` meets
`P` on the store it finds, and `p` ends with `post`. -/
def Throughout (H : Handler Op Resp σ) (P : σ → Op → Prop) (post : σ → α → Prop) :
    σ → Program Op Resp α → Prop
  | s, .done a => post s a
  | s, .call op k => P s op ∧ Throughout H P post (H.next s op) (k (H.answer s op))

section

variable {H : Handler Op Resp σ} {P : σ → Op → Prop} {Q : σ → α → Prop}

theorem Throughout.bind {Q' : σ → β → Prop} {f : α → Program Op Resp β} :
    ∀ {p : Program Op Resp α} {s : σ}, Throughout H P Q s p →
      (∀ s' a, Q s' a → Throughout H P Q' s' (f a)) → Throughout H P Q' s (p >>= f)
  | .done a, s, h, hf => hf s a h
  | .call op k, s, h, hf => ⟨h.1, Throughout.bind (p := k (H.answer s op)) h.2 hf⟩

theorem Throughout.imp {P' : σ → Op → Prop} {Q' : σ → α → Prop}
    (hP : ∀ s op, P s op → P' s op) (hQ : ∀ s a, Q s a → Q' s a) :
    ∀ {p : Program Op Resp α} {s : σ}, Throughout H P Q s p → Throughout H P' Q' s p
  | .done a, s, h => hQ s a h
  | .call op k, s, h => ⟨hP s op h.1, Throughout.imp hP hQ (p := k (H.answer s op)) h.2⟩

/-- The postcondition holds at the end of the run. -/
theorem Throughout.run : ∀ {p : Program Op Resp α} {s : σ}, Throughout H P Q s p →
    Q (Program.run H s p).2 (Program.run H s p).1
  | .done _, _, h => h
  | .call op k, s, h => Throughout.run (p := k (H.answer s op)) h.2

end

/-! ## Programs inside larger ones -/

section Lift

variable {Op' : Type} {Resp' : Op' → Type} {σ' : Type}

/-- Make the calls of a program as calls of another kind. -/
def lift (embed : Op → Op') (back : ∀ op, Resp' (embed op) → Resp op) :
    Program Op Resp α → Program Op' Resp' α
  | .done a => .done a
  | .call op k => .call (embed op) fun r => (k (back op r)).lift embed back

/-- **A lifted program runs on its part of the store**: `get` is that part, and `put`
writes it back. -/
theorem run_lift {H : Handler Op Resp σ} {H' : Handler Op' Resp' σ'} {embed : Op → Op'}
    {back : ∀ op, Resp' (embed op) → Resp op} (get : σ' → σ) (put : σ' → σ → σ')
    (get_put : ∀ s t, get (put s t) = t) (put_get : ∀ s, put s (get s) = s)
    (put_put : ∀ s t t', put (put s t) t' = put s t')
    (answer : ∀ s op, back op (H'.answer s (embed op)) = H.answer (get s) op)
    (next : ∀ s op, H'.next s (embed op) = put s (H.next (get s) op))
    (s : σ') (p : Program Op Resp α) :
    run H' s (p.lift embed back) = ((run H (get s) p).1, put s (run H (get s) p).2) := by
  induction p generalizing s with
  | done a => rw [lift, run, run, put_get]
  | call op k ih =>
    rw [lift, run, ih, answer, next, get_put, put_put]
    rfl

end Lift

theorem Along.guard_of_call {op : Op} {k : Resp op → Program Op Resp α} {g : γ}
    (h : Along may tick guard post g (.call op k)) : guard g op := h.1

end Program

/-! ## Many programs, one store -/

/-- Any number of programs, indexed by `ι`, over one store. -/
structure Pool (Op : Type) (Resp : Op → Type) (α σ ι : Type) where
  /-- The shared store. -/
  store : σ
  /-- What each program still has to do. -/
  prog : ι → Program Op Resp α

/-- A call that was made: by whom, which call, and the store it found. -/
structure Made (Op : Type) (σ ι : Type) where
  /-- The program that made the call. -/
  who : ι
  /-- The call. -/
  op : Op
  /-- The store right before the call. -/
  before : σ

namespace Pool

variable {Op : Type} {Resp : Op → Type} {α σ ι : Type}

/-- The call program `i` is about to make, if any. -/
def made (P : Pool Op Resp α σ ι) (i : ι) : List (Made Op σ ι) :=
  match P.prog i with
  | .done _ => []
  | .call op _ => [⟨i, op, P.store⟩]

theorem made_of_done {P : Pool Op Resp α σ ι} {i : ι} {a : α} (h : P.prog i = .done a) :
    P.made i = [] := by
  simp [made, h]

theorem made_of_call {P : Pool Op Resp α σ ι} {i : ι} {op : Op}
    {k : Resp op → Program Op Resp α} (h : P.prog i = .call op k) :
    P.made i = [⟨i, op, P.store⟩] := by
  simp [made, h]

variable [DecidableEq ι]

/-- Let program `i` make its next call.  A program that has ended does nothing. -/
def step (H : Handler Op Resp σ) (P : Pool Op Resp α σ ι) (i : ι) : Pool Op Resp α σ ι :=
  match P.prog i with
  | .done _ => P
  | .call op k => ⟨H.next P.store op, Function.update P.prog i (k (H.answer P.store op))⟩

/-- Run a schedule: the list of who makes the next call. -/
def run (H : Handler Op Resp σ) (P : Pool Op Resp α σ ι) : List ι → Pool Op Resp α σ ι
  | [] => P
  | i :: is => run H (P.step H i) is

/-- The calls a schedule makes, in order. -/
def trace (H : Handler Op Resp σ) (P : Pool Op Resp α σ ι) : List ι → List (Made Op σ ι)
  | [] => []
  | i :: is => P.made i ++ trace H (P.step H i) is

theorem step_of_done {H : Handler Op Resp σ} {P : Pool Op Resp α σ ι} {i : ι} {a : α}
    (h : P.prog i = .done a) : P.step H i = P := by
  simp [step, h]

theorem step_of_call {H : Handler Op Resp σ} {P : Pool Op Resp α σ ι} {i : ι} {op : Op}
    {k : Resp op → Program Op Resp α} (h : P.prog i = .call op k) :
    P.step H i = ⟨H.next P.store op, Function.update P.prog i (k (H.answer P.store op))⟩ := by
  simp [step, h]

theorem run_append (H : Handler Op Resp σ) (P : Pool Op Resp α σ ι) (is js : List ι) :
    P.run H (is ++ js) = (P.run H is).run H js := by
  induction is generalizing P with
  | nil => rfl
  | cons i is ih => exact ih (P.step H i)

theorem trace_append (H : Handler Op Resp σ) (P : Pool Op Resp α σ ι) (is js : List ι) :
    P.trace H (is ++ js) = P.trace H is ++ (P.run H is).trace H js := by
  induction is generalizing P with
  | nil => rfl
  | cons i is ih =>
    show P.made i ++ trace H (P.step H i) (is ++ js) = _
    rw [ih]
    simp [trace, run]

/-- **The invariant rule.**  A property of the calls made so far and of the pool
that holds at the start and that every call preserves — given that the trace up
to and including that call is `ok` — holds after every schedule whose trace is
`ok` at every point. -/
theorem run_invariant {H : Handler Op Resp σ} {P : Pool Op Resp α σ ι}
    {ok : List (Made Op σ ι) → Prop}
    {Inv : List (Made Op σ ι) → Pool Op Resp α σ ι → Prop}
    (hpre : ∀ t e, ok (t ++ [e]) → ok t)
    (h0 : Inv [] P)
    (hstep : ∀ t Q i op k, Inv t Q → Q.prog i = .call op k → ok (t ++ [⟨i, op, Q.store⟩]) →
      Inv (t ++ [⟨i, op, Q.store⟩])
        ⟨H.next Q.store op, Function.update Q.prog i (k (H.answer Q.store op))⟩)
    (is : List ι) (hok : ok (P.trace H is)) : Inv (P.trace H is) (P.run H is) := by
  induction is using List.reverseRecOn with
  | nil => exact h0
  | append_singleton is i ih =>
    have htrace : P.trace H (is ++ [i]) = P.trace H is ++ (P.run H is).made i := by
      rw [trace_append]
      simp [trace]
    have hrun : P.run H (is ++ [i]) = (P.run H is).step H i := by
      rw [run_append]
      rfl
    rw [htrace] at hok ⊢
    rw [hrun]
    cases hp : (P.run H is).prog i with
    | done a =>
      rw [made_of_done hp, List.append_nil] at hok ⊢
      rw [step_of_done hp]
      exact ih hok
    | call op k =>
      rw [made_of_call hp] at hok ⊢
      rw [step_of_call hp]
      exact hstep _ _ i op k (ih (hpre _ _ hok)) hp hok

end Pool
