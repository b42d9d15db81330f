import Cctf.Library.Program

/-!
# Traces of programs

What a program did, when others could change the store between any two of its calls: the
list of its calls, each with the store it found.

* `Makes H p evs a` — the program makes the calls `evs`, each answered in the store next
  to it, and ends with `a`.
* `makes_bind`, `makes_bind_except`, `makes_lift` — **the trace of a sequence is the
  trace of its first part and then that of its second**, also when the first part may
  fail, and when the program is part of a larger one.
* `Reads`, `WritesOnce` — programs that only make calls of a kind, and programs whose
  last call is their only one of another kind.
* `Emits`, `Begins`, `Returns` — what the calls of a program write, in every trace and in
  some.
* `Leaves` — **what an observer of the trace remembers at its end**, with the rule of
  sequencing.
* `Pool.own`, `Pool.makes_own` — **in every interleaving the calls of a program that has
  ended are a trace of it**.
* `Pool.found` — what every call keeps and one call establishes is found by every
  later call.
-/

namespace Program

variable {Op : Type} {Resp : Op → Type} {α β ε σ : Type}

/-- The program makes the calls of the list, each answered in the store beside it, and
ends with a result. -/
def Makes (H : Handler Op Resp σ) : Program Op Resp α → List (Op × σ) → α → Prop
  | .done a, evs, b => evs = [] ∧ a = b
  | .call op k, evs, b => ∃ s rest, evs = (op, s) :: rest ∧ Makes H (k (H.answer s op)) rest b

variable {H : Handler Op Resp σ}

/-- **Sequencing**: the calls of the first program, then those of the second. -/
theorem makes_bind {p : Program Op Resp α} {f : α → Program Op Resp β} {evs : List (Op × σ)}
    {b : β} :
    Makes H (p >>= f) evs b ↔
      ∃ evs₁ evs₂ a, evs = evs₁ ++ evs₂ ∧ Makes H p evs₁ a ∧ Makes H (f a) evs₂ b := by
  induction p generalizing evs with
  | done a =>
    constructor
    · intro h
      exact ⟨[], evs, a, rfl, ⟨rfl, rfl⟩, h⟩
    · rintro ⟨evs₁, evs₂, a', rfl, ⟨rfl, rfl⟩, h⟩
      exact h
  | call op k ih =>
    constructor
    · rintro ⟨s, rest, rfl, h⟩
      obtain ⟨evs₁, evs₂, a, rfl, h₁, h₂⟩ := (ih _).1 h
      exact ⟨(op, s) :: evs₁, evs₂, a, rfl, ⟨s, evs₁, rfl, h₁⟩, h₂⟩
    · rintro ⟨evs₁, evs₂, a, rfl, ⟨s, rest, rfl, h₁⟩, h₂⟩
      exact ⟨s, rest ++ evs₂, rfl, (ih _).2 ⟨rest, evs₂, a, rfl, h₁, h₂⟩⟩

/-- **Sequencing with errors**: a program that fails makes no more calls. -/
theorem makes_bind_except {m : ExceptT ε (Program Op Resp) α}
    {f : α → ExceptT ε (Program Op Resp) β} {evs : List (Op × σ)} {res : Except ε β} :
    Makes H (m >>= f).run evs res ↔
      (∃ evs₁ evs₂ a, evs = evs₁ ++ evs₂ ∧ Makes H m.run evs₁ (.ok a) ∧
        Makes H (f a).run evs₂ res) ∨
      ∃ e, Makes H m.run evs (.error e) ∧ res = .error e := by
  show Makes H (m.run >>= ExceptT.bindCont f) evs res ↔ _
  rw [makes_bind]
  constructor
  · rintro ⟨evs₁, evs₂, x, rfl, h₁, h₂⟩
    cases x with
    | ok a => exact .inl ⟨evs₁, evs₂, a, rfl, h₁, h₂⟩
    | error e =>
      obtain ⟨rfl, rfl⟩ : evs₂ = [] ∧ Except.error e = res := h₂
      exact .inr ⟨e, by rwa [List.append_nil], rfl⟩
  · rintro (⟨evs₁, evs₂, a, rfl, h₁, h₂⟩ | ⟨e, h, rfl⟩)
    · exact ⟨evs₁, evs₂, .ok a, rfl, h₁, h₂⟩
    · exact ⟨evs, [], .error e, by simp, h, ⟨rfl, rfl⟩⟩

section Lift

variable {Op' : Type} {Resp' : Op' → Type} {σ' : Type}

/-- **Programs inside larger ones**: the calls of a lifted program are those of the
program, on its part of the store. -/
theorem makes_lift {H' : Handler Op' Resp' σ'} {embed : Op → Op'}
    {back : ∀ op, Resp' (embed op) → Resp op} (get : σ' → σ)
    (answer : ∀ s op, back op (H'.answer s (embed op)) = H.answer (get s) op)
    {p : Program Op Resp α} {evs : List (Op' × σ')} {a : α}
    (h : Makes H' (p.lift embed back) evs a) :
    ∃ evs' : List (Op × σ'), evs = evs'.map (fun e => (embed e.1, e.2)) ∧
      Makes H p (evs'.map fun e => (e.1, get e.2)) a := by
  induction p generalizing evs with
  | done b =>
    obtain ⟨rfl, rfl⟩ : evs = [] ∧ b = a := h
    exact ⟨[], rfl, rfl, rfl⟩
  | call op k ih =>
    obtain ⟨s, rest, rfl, hrest⟩ := h
    have hanswered : Makes H' ((k (back op (H'.answer s (embed op)))).lift embed back) rest a :=
      hrest
    rw [answer] at hanswered
    obtain ⟨evs', rfl, h'⟩ := ih _ hanswered
    exact ⟨(op, s) :: evs', rfl, get s, _, rfl, h'⟩

end Lift

/-! ## Kinds of calls -/

section Kinds

variable (H) (kind : Op → Prop)

/-- The program makes calls of one kind only. -/
def Reads (m : Program Op Resp α) : Prop :=
  ∀ evs a, Makes H m evs a → ∀ e ∈ evs, kind e.1

/-- The program makes calls of one kind only and fails, or it ends with one more call,
which is related to its result. -/
def WritesOnce (Q : Op → Except ε β → Prop) (m : ExceptT ε (Program Op Resp) β) : Prop :=
  ∀ evs res, Makes H m.run evs res →
    ((∀ e ∈ evs, kind e.1) ∧ ∃ err, res = .error err) ∨
      ∃ pre last, evs = pre ++ [last] ∧ (∀ e ∈ pre, kind e.1) ∧ Q last.1 res

variable {H kind}

theorem Reads.pure (a : α) : Reads H kind (Pure.pure a : Program Op Resp α) := by
  rintro evs b ⟨rfl, -⟩
  simp

theorem Reads.imp {kind' : Op → Prop} (hkind : ∀ op, kind op → kind' op) {p : Program Op Resp α}
    (h : Reads H kind p) : Reads H kind' p :=
  fun evs a hmakes e he => hkind _ (h evs a hmakes e he)

theorem Reads.ite {c : Prop} [Decidable c] {p q : Program Op Resp α} (hp : Reads H kind p)
    (hq : Reads H kind q) : Reads H kind (if c then p else q) := by
  split
  · exact hp
  · exact hq

theorem Reads.bind {p : Program Op Resp α} {f : α → Program Op Resp β} (hp : Reads H kind p)
    (hf : ∀ a, Reads H kind (f a)) : Reads H kind (p >>= f) := by
  intro evs b h e he
  obtain ⟨evs₁, evs₂, a, rfl, h₁, h₂⟩ := makes_bind.1 h
  rcases List.mem_append.1 he with hfirst | hsecond
  · exact hp evs₁ a h₁ e hfirst
  · exact hf a evs₂ b h₂ e hsecond

theorem Reads.bind_except {m : ExceptT ε (Program Op Resp) α}
    {f : α → ExceptT ε (Program Op Resp) β} (hm : Reads H kind m.run)
    (hf : ∀ a, Reads H kind (f a).run) : Reads H kind (m >>= f).run := by
  intro evs res h e he
  rcases makes_bind_except.1 h with ⟨evs₁, evs₂, a, rfl, h₁, h₂⟩ | ⟨err, hfail, -⟩
  · rcases List.mem_append.1 he with hfirst | hsecond
    · exact hm evs₁ _ h₁ e hfirst
    · exact hf a evs₂ res h₂ e hsecond
  · exact hm evs _ hfail e he

theorem WritesOnce.throw (Q : Op → Except ε β → Prop) (err : ε) :
    WritesOnce H kind Q (throw err : ExceptT ε (Program Op Resp) β) := by
  rintro evs res ⟨rfl, rfl⟩
  exact .inl ⟨by simp, err, rfl⟩

theorem WritesOnce.bind {Q : Op → Except ε β → Prop} {m : ExceptT ε (Program Op Resp) α}
    {f : α → ExceptT ε (Program Op Resp) β} (hm : Reads H kind m.run)
    (hf : ∀ a, WritesOnce H kind Q (f a)) : WritesOnce H kind Q (m >>= f) := by
  intro evs res h
  rcases makes_bind_except.1 h with ⟨evs₁, evs₂, a, rfl, h₁, h₂⟩ | ⟨err, hfail, rfl⟩
  · have hread := hm evs₁ _ h₁
    rcases hf a evs₂ res h₂ with ⟨hread', herr⟩ | ⟨pre, last, rfl, hpre, hlast⟩
    · refine .inl ⟨fun e he => ?_, herr⟩
      rcases List.mem_append.1 he with hfirst | hsecond
      · exact hread e hfirst
      · exact hread' e hsecond
    · refine .inr ⟨evs₁ ++ pre, last, by simp, fun e he => ?_, hlast⟩
      rcases List.mem_append.1 he with hfirst | hsecond
      · exact hread e hfirst
      · exact hpre e hsecond
  · exact .inl ⟨hm evs _ hfail, err, rfl⟩

end Kinds

/-! ## What a program writes -/

section Emits

variable (H) {ι : Type} (out : Op × σ → List ι)

/-- What the calls of a program write is a beginning of `S`, and all of it when the program
ends with a value; that value then satisfies `P`. -/
def Emits (S : List ι) (P : α → Prop) (m : ExceptT ε (Program Op Resp) α) : Prop :=
  ∀ evs res, Makes H m.run evs res →
    evs.flatMap out <+: S ∧ ∀ a, res = .ok a → evs.flatMap out = S ∧ P a

/-- What the calls of a program write is a beginning of `S`. -/
def Begins (S : List ι) (m : ExceptT ε (Program Op Resp) α) : Prop :=
  ∀ evs res, Makes H m.run evs res → evs.flatMap out <+: S

/-- Some calls end with a value, and write `S`. -/
def Returns (S : List ι) (m : ExceptT ε (Program Op Resp) α) (a : α) : Prop :=
  ∃ evs, Makes H m.run evs (.ok a) ∧ evs.flatMap out = S

variable {H out} {S T : List ι} {P : α → Prop} {Q : β → Prop}

theorem Emits.pure {a : α} (h : P a) :
    Emits H out [] P (Pure.pure a : ExceptT ε (Program Op Resp) α) := by
  rintro evs res ⟨rfl, rfl⟩
  refine ⟨List.prefix_refl _, fun b hb => ?_⟩
  obtain rfl : a = b := Except.ok.inj hb
  exact ⟨rfl, h⟩

theorem Emits.throw (err : ε) :
    Emits H out S P (MonadExcept.throw err : ExceptT ε (Program Op Resp) α) := by
  rintro evs res ⟨rfl, rfl⟩
  exact ⟨List.nil_prefix, fun b hb => by simp at hb⟩

theorem Emits.imp {P' : α → Prop} (hP : ∀ a, P a → P' a) {m : ExceptT ε (Program Op Resp) α}
    (hm : Emits H out S P m) : Emits H out S P' m := by
  intro evs res h
  obtain ⟨hpre, hall⟩ := hm evs res h
  exact ⟨hpre, fun a ha => ⟨(hall a ha).1, hP a (hall a ha).2⟩⟩

/-- **Sequencing**: first what the first program writes, then what the second does. -/
theorem Emits.bind {m : ExceptT ε (Program Op Resp) α} {f : α → ExceptT ε (Program Op Resp) β}
    (hm : Emits H out S P m) (hf : ∀ a, P a → Emits H out T Q (f a)) :
    Emits H out (S ++ T) Q (m >>= f) := by
  intro evs res h
  rcases makes_bind_except.1 h with ⟨evs₁, evs₂, a, rfl, h₁, h₂⟩ | ⟨err, hfail, rfl⟩
  · obtain ⟨heq, ha⟩ := (hm evs₁ _ h₁).2 a rfl
    obtain ⟨hpre, hall⟩ := hf a ha evs₂ res h₂
    rw [List.flatMap_append, heq]
    refine ⟨(List.prefix_append_right_inj S).2 hpre, fun b hb => ?_⟩
    obtain ⟨heq', hb'⟩ := hall b hb
    exact ⟨by rw [heq'], hb'⟩
  · exact ⟨(hm evs _ hfail).1.trans (List.prefix_append S T), fun b hb => by simp at hb⟩

theorem Emits.begins {m : ExceptT ε (Program Op Resp) α} (hm : Emits H out S P m) :
    Begins H out S m := fun evs res h => (hm evs res h).1

theorem Begins.bind {m : ExceptT ε (Program Op Resp) α} {f : α → ExceptT ε (Program Op Resp) β}
    (hm : Emits H out S P m) (hf : ∀ a, P a → Begins H out T (f a)) :
    Begins H out (S ++ T) (m >>= f) := by
  intro evs res h
  rcases makes_bind_except.1 h with ⟨evs₁, evs₂, a, rfl, h₁, h₂⟩ | ⟨err, hfail, rfl⟩
  · obtain ⟨heq, ha⟩ := (hm evs₁ _ h₁).2 a rfl
    rw [List.flatMap_append, heq]
    exact (List.prefix_append_right_inj S).2 (hf a ha evs₂ res h₂)
  · exact (hm evs _ hfail).1.trans (List.prefix_append S T)

theorem Returns.pure (a : α) : Returns H out [] (Pure.pure a : ExceptT ε (Program Op Resp) α) a :=
  ⟨[], ⟨rfl, rfl⟩, rfl⟩

theorem Returns.bind {m : ExceptT ε (Program Op Resp) α} {f : α → ExceptT ε (Program Op Resp) β}
    {a : α} {b : β} (hm : Returns H out S m a) (hf : Returns H out T (f a) b) :
    Returns H out (S ++ T) (m >>= f) b := by
  obtain ⟨evs₁, h₁, rfl⟩ := hm
  obtain ⟨evs₂, h₂, rfl⟩ := hf
  exact ⟨evs₁ ++ evs₂, makes_bind_except.2 (.inl ⟨evs₁, evs₂, a, rfl, h₁, h₂⟩),
    List.flatMap_append⟩

end Emits

/-! ## What is remembered of a trace -/

section Leaves

variable (H) {γ : Type} (tick : γ → Op × σ → γ)

/-- An observer that remembers `g` and adds each call by `tick` ends with a memory that
satisfies `Q` when the program ends with a value, and `E` when it fails. -/
def Leaves (E : γ → ε → Prop) (g : γ) (Q : γ → α → Prop) (m : ExceptT ε (Program Op Resp) α) :
    Prop :=
  ∀ evs res, Makes H m.run evs res →
    (∀ a, res = .ok a → Q (evs.foldl tick g) a) ∧ ∀ e, res = .error e → E (evs.foldl tick g) e

variable {H tick} {E : γ → ε → Prop} {g : γ} {Q : γ → α → Prop} {R : γ → β → Prop}

theorem Leaves.pure {a : α} (h : Q g a) :
    Leaves H tick E g Q (Pure.pure a : ExceptT ε (Program Op Resp) α) := by
  rintro evs res ⟨rfl, rfl⟩
  refine ⟨fun b hb => ?_, fun e he => by simp at he⟩
  obtain rfl : a = b := Except.ok.inj hb
  exact h

theorem Leaves.throw {e : ε} (h : E g e) :
    Leaves H tick E g Q (MonadExcept.throw e : ExceptT ε (Program Op Resp) α) := by
  rintro evs res ⟨rfl, rfl⟩
  refine ⟨fun a ha => by simp at ha, fun e' he' => ?_⟩
  obtain rfl : e = e' := Except.error.inj he'
  exact h

/-- One call. -/
theorem Leaves.call {op : Op} {wrap : Resp op → Except ε α}
    (hok : ∀ s a, wrap (H.answer s op) = .ok a → Q (tick g (op, s)) a)
    (herr : ∀ s e, wrap (H.answer s op) = .error e → E (tick g (op, s)) e) :
    Leaves H tick E g Q (ExceptT.mk (.call op fun r => .done (wrap r))) := by
  rintro evs res ⟨s, rest, rfl, rfl, hres⟩
  exact ⟨fun a ha => hok s a (hres.trans ha), fun e he => herr s e (hres.trans he)⟩

theorem Leaves.imp {E' : γ → ε → Prop} {Q' : γ → α → Prop} (hE : ∀ g e, E g e → E' g e)
    (hQ : ∀ g a, Q g a → Q' g a) {m : ExceptT ε (Program Op Resp) α}
    (hm : Leaves H tick E g Q m) : Leaves H tick E' g Q' m := by
  intro evs res h
  obtain ⟨hok, herr⟩ := hm evs res h
  exact ⟨fun a ha => hQ _ a (hok a ha), fun e he => hE _ e (herr e he)⟩

/-- **Sequencing**: the second program starts with what the first has left. -/
theorem Leaves.bind {m : ExceptT ε (Program Op Resp) α} {f : α → ExceptT ε (Program Op Resp) β}
    (hm : Leaves H tick E g Q m) (hf : ∀ g a, Q g a → Leaves H tick E g R (f a)) :
    Leaves H tick E g R (m >>= f) := by
  intro evs res h
  rcases makes_bind_except.1 h with ⟨evs₁, evs₂, a, rfl, h₁, h₂⟩ | ⟨err, hfail, rfl⟩
  · rw [List.foldl_append]
    exact hf _ a ((hm evs₁ _ h₁).1 a rfl) evs₂ res h₂
  · refine ⟨fun b hb => by simp at hb, fun e he => ?_⟩
    obtain rfl : err = e := Except.error.inj he
    exact (hm evs _ hfail).2 err rfl

end Leaves

end Program

namespace Pool

open Program

variable {Op : Type} {Resp : Op → Type} {α σ ι κ : Type} [DecidableEq ι]

/-- The calls of one program. -/
def own (i : ι) (trace : List (Made Op σ ι)) : List (Op × σ) :=
  trace.filterMap fun e => if e.who = i then some (e.op, e.before) else none

theorem own_cons (i : ι) (e : Made Op σ ι) (trace : List (Made Op σ ι)) :
    own i (e :: trace) =
      if e.who = i then (e.op, e.before) :: own i trace else own i trace := by
  rw [own, List.filterMap_cons]
  by_cases h : e.who = i <;> simp [h, own]

theorem mem_own {i : ι} {trace : List (Made Op σ ι)} {op : Op} {s : σ} :
    (op, s) ∈ own i trace ↔ ⟨i, op, s⟩ ∈ trace := by
  induction trace with
  | nil => simp [own]
  | cons e trace ih =>
    obtain ⟨who, op', s'⟩ := e
    rw [own_cons, List.mem_cons, ← ih]
    by_cases h : who = i
    · simp [h]
    · simp [h, Ne.symm h]

/-- **The calls of a program that has ended are a trace of it**, whatever the others
did. -/
theorem makes_own (H : Handler Op Resp σ) (P : Pool Op Resp α σ ι) (is : List ι) {i : ι} {a : α}
    (h : (P.run H is).prog i = .done a) : Makes H (P.prog i) (own i (P.trace H is)) a := by
  induction is generalizing P with
  | nil =>
    have hdone : P.prog i = .done a := h
    rw [hdone]
    exact ⟨rfl, rfl⟩
  | cons j is ih =>
    have hrest := ih (P.step H j) h
    rw [trace]
    cases hj : P.prog j with
    | done b =>
      rw [made_of_done hj, List.nil_append]
      rw [step_of_done hj] at hrest ⊢
      exact hrest
    | call op k =>
      rw [made_of_call hj, List.singleton_append, own_cons]
      have hprog : (P.step H j).prog =
          Function.update P.prog j (k (H.answer P.store op)) := by rw [step_of_call hj]
      rw [hprog] at hrest
      by_cases hij : j = i
      · subst hij
        rw [Function.update_self] at hrest
        rw [if_pos rfl, hj]
        exact ⟨P.store, _, rfl, hrest⟩
      · rw [Function.update_of_ne (Ne.symm hij)] at hrest
        rw [if_neg hij]
        exact hrest

/-- What the calls of a trace add is in the store, and each later call found it. -/
structure Found (has : σ → κ → Prop) (adds : Op → κ → Prop) (trace : List (Made Op σ ι))
    (Q : Pool Op Resp α σ ι) : Prop where
  now : ∀ e ∈ trace, ∀ x, adds e.op x → has Q.store x
  later : trace.Pairwise fun e e' => ∀ x, adds e.op x → has e'.before x

/-- **What stays stays found**: if a call establishes a property of the store and every
call keeps it, the later calls find it. -/
theorem found {H : Handler Op Resp σ} {has : σ → κ → Prop} {adds : Op → κ → Prop}
    (hadd : ∀ s op x, adds op x → has (H.next s op) x)
    (hkeep : ∀ s op x, has s x → has (H.next s op) x) (P : Pool Op Resp α σ ι) (is : List ι) :
    Found has adds (P.trace H is) (P.run H is) := by
  have hok : (fun _ : List (Made Op σ ι) => True) (P.trace H is) := trivial
  refine run_invariant (fun _ _ _ => trivial) ⟨by simp, List.Pairwise.nil⟩ ?_ is hok
  rintro t Q i op k ⟨hnow, hlater⟩ - -
  constructor
  · intro e he x hx
    rcases List.mem_append.1 he with hold | hnew
    · exact hkeep _ _ _ (hnow e hold x hx)
    · rw [List.mem_singleton] at hnew
      subst hnew
      exact hadd _ _ _ hx
  · rw [List.pairwise_append]
    refine ⟨hlater, List.pairwise_singleton _ _, fun e he e' he' x hx => ?_⟩
    rw [List.mem_singleton] at he'
    subst he'
    exact hnow e he x hx

end Pool
