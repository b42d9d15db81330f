import Cctf.Library.Program

/-!
# Programs that keep what the others rely on

Several programs share a store.  Each one remembers something of the responses it got, and
what it remembers has to stay true while the others go on.  The rule of this file is the one
of rely and guarantee, for the programs of a `Pool`.

* `Pool.prog_run` — what the calls of one program keep of it, while the others go on.
* `Guarantee` — an invariant of the store, what a memory says about the store, what a program
  with a memory may call, and the four conditions that tie them together.
* `Guarantee.Follows` — a program that calls what it may, whatever responses the store gives.
* `Pooled.trace`, `Pooled.run`, `Pooled.result` — **whatever the schedule**: every call that is made is
  allowed by a memory that is true when it is made, the invariant holds, and so does the
  postcondition of every program that has ended.
-/

open Program

variable {Op : Type} {Resp : Op → Type} {α σ ι γ : Type}

/-- What a program that has ended returned. -/
def Program.value? : Program Op Resp α → Option α
  | .done a => some a
  | .call _ _ => none

theorem Program.value?_eq_some_iff {p : Program Op Resp α} {a : α} :
    p.value? = some a ↔ p = .done a := by
  cases p <;> simp [value?]

namespace Pool

variable {H : Handler Op Resp σ} [DecidableEq ι]

/-- **A property of one program that its own calls keep**, along a run. -/
theorem prog_run {P : Pool Op Resp α σ ι} {i : ι} {Q : Program Op Resp α → Prop}
    (hcall : ∀ schedule op k, (P.run H schedule).prog i = .call op k → Q (.call op k) →
      Q (k (H.answer (P.run H schedule).store op)))
    (h : Q (P.prog i)) (schedule : List ι) : Q ((P.run H schedule).prog i) := by
  induction schedule using List.reverseRecOn with
  | nil => exact h
  | append_singleton schedule j ih =>
    rw [run_append]
    show Q (((P.run H schedule).step H j).prog i)
    cases hprog : (P.run H schedule).prog j with
    | done a =>
      rw [step_of_done hprog]
      exact ih
    | call op k =>
      rw [step_of_call hprog]
      by_cases hij : i = j
      · subst hij
        rw [hprog] at ih
        simp only [Function.update_self]
        exact hcall schedule op k hprog ih
      · simp only [Function.update_of_ne hij]
        exact ih

/-- What has ended stays as it is. -/
theorem done_run {P : Pool Op Resp α σ ι} {i : ι} {a : α} (h : P.prog i = .done a)
    (schedule : List ι) : (P.run H schedule).prog i = .done a :=
  prog_run (Q := fun p => p = .done a) (fun _ _ _ _ hcall => nomatch hcall) h schedule

/-- Who is not scheduled does not go on. -/
theorem prog_run_of_not_mem {P : Pool Op Resp α σ ι} {i : ι} {schedule : List ι}
    (h : i ∉ schedule) : (P.run H schedule).prog i = P.prog i := by
  induction schedule generalizing P with
  | nil => rfl
  | cons j schedule ih =>
    obtain ⟨hij, hrest⟩ := List.ne_and_not_mem_of_not_mem_cons h
    show ((P.step H j).run H schedule).prog i = P.prog i
    rw [ih hrest]
    cases hprog : P.prog j with
    | done a => rw [step_of_done hprog]
    | call op k =>
      rw [step_of_call hprog]
      exact Function.update_of_ne hij _ _

end Pool

/-- An invariant `inv`, and memories of type `γ` that the programs keep of the responses.
The first argument of `guard` is the program. -/
structure Guarantee (H : Handler Op Resp σ) (ι γ : Type) where
  /-- What holds of the store all the time. -/
  inv : σ → Prop
  /-- What a memory says about the store. -/
  valid : σ → γ → Prop
  /-- What a call and its response add to a memory. -/
  tick : γ → (op : Op) → Resp op → γ
  /-- What a program may call, by its memory. -/
  guard : ι → γ → Op → Prop
  /-- A response that is expected. -/
  may : (op : Op) → Resp op → Prop
  /-- The store answers as expected. -/
  answer : ∀ {i s g op}, inv s → valid s g → guard i g op → may op (H.answer s op)
  /-- An allowed call keeps the invariant. -/
  keeps : ∀ {i s g op}, inv s → valid s g → guard i g op → inv (H.next s op)
  /-- The memory of the caller stays valid. -/
  remembers : ∀ {i s g op}, inv s → valid s g → guard i g op →
    valid (H.next s op) (tick g op (H.answer s op))
  /-- What somebody else calls leaves a memory valid. -/
  others : ∀ {i s g g' op}, inv s → valid s g → guard i g op → valid s g' →
    valid (H.next s op) g'

/-- A weaker postcondition. -/
theorem Program.Along.imp {may : (op : Op) → Resp op → Prop} {tick : γ → (op : Op) → Resp op → γ}
    {guard : γ → Op → Prop} {post post' : γ → α → Prop} (hpost : ∀ g a, post g a → post' g a) :
    ∀ {p : Program Op Resp α} {g : γ}, Along may tick guard post g p →
      Along may tick guard post' g p
  | .done a, g, h => hpost g a h
  | .call _ k, _, h => ⟨h.1, fun r hr => Along.imp hpost (p := k r) (h.2 r hr)⟩

namespace Guarantee

variable {H : Handler Op Resp σ} (G : Guarantee H ι γ)

/-- A program calls what it may, and ends as `post` says. -/
def Follows (i : ι) (post : γ → α → Prop) (g : γ) (p : Program Op Resp α) : Prop :=
  Along G.may G.tick (G.guard i) post g p

variable {G}

/-- Every program of a pool follows, with a memory that is valid. -/
def Pooled (G : Guarantee H ι γ) (post : ι → γ → α → Prop) (P : Pool Op Resp α σ ι) : Prop :=
  G.inv P.store ∧ ∀ i, ∃ g, G.valid P.store g ∧ G.Follows i (post i) g (P.prog i)

variable [DecidableEq ι] {post : ι → γ → α → Prop} {P : Pool Op Resp α σ ι}

/-- **One call**, of the program whose turn it is. -/
theorem Pooled.step (h : G.Pooled post P) (i : ι) : G.Pooled post (P.step H i) := by
  obtain ⟨hinv, hprogs⟩ := h
  cases hcall : P.prog i with
  | done a =>
    rw [Pool.step_of_done hcall]
    exact ⟨hinv, hprogs⟩
  | call op k =>
    rw [Pool.step_of_call hcall]
    obtain ⟨g, hvalid, hfollows⟩ := hprogs i
    rw [hcall] at hfollows
    have hguard : G.guard i g op := hfollows.1
    refine ⟨G.keeps hinv hvalid hguard, fun j => ?_⟩
    by_cases hj : j = i
    · -- the caller goes on, and remembers the response
      subst hj
      refine ⟨_, G.remembers hinv hvalid hguard, ?_⟩
      simp only [Function.update_self]
      exact hfollows.2 _ (G.answer hinv hvalid hguard)
    · obtain ⟨g', hvalid', hfollows'⟩ := hprogs j
      refine ⟨g', G.others hinv hvalid hguard hvalid', ?_⟩
      simp only [Function.update_of_ne hj]
      exact hfollows'

/-- **The invariant holds after every schedule**, and every program still follows. -/
theorem Pooled.run (h : G.Pooled post P) (schedule : List ι) :
    G.Pooled post (P.run H schedule) := by
  induction schedule generalizing P with
  | nil => exact h
  | cons i schedule ih => exact ih (h.step i)

/-- **Every call of every schedule is allowed**, by a memory that is valid when it is made. -/
theorem Pooled.trace (h : G.Pooled post P) (schedule : List ι) :
    ∀ e ∈ P.trace H schedule, G.inv e.before ∧
      ∃ g, G.valid e.before g ∧ G.guard e.who g e.op := by
  induction schedule generalizing P with
  | nil => exact fun e he => absurd he List.not_mem_nil
  | cons i schedule ih =>
    intro e he
    rcases List.mem_append.mp he with hnow | hlater
    · cases hcall : P.prog i with
      | done a =>
        rw [Pool.made_of_done hcall] at hnow
        exact absurd hnow List.not_mem_nil
      | call op k =>
        rw [Pool.made_of_call hcall] at hnow
        obtain rfl := List.mem_singleton.mp hnow
        obtain ⟨g, hvalid, hfollows⟩ := h.2 i
        rw [hcall] at hfollows
        exact ⟨h.1, g, hvalid, hfollows.1⟩
    · exact ih (h.step i) e hlater

omit [DecidableEq ι] in
/-- A program that has ended satisfies its postcondition. -/
theorem Pooled.result (h : G.Pooled post P) {i : ι} {a : α} (hdone : P.prog i = .done a) :
    ∃ g, G.valid P.store g ∧ post i g a := by
  obtain ⟨g, hvalid, hfollows⟩ := h.2 i
  rw [hdone] at hfollows
  exact ⟨g, hvalid, hfollows⟩

end Guarantee
