import Cctf.Library.Program

/-!
# Calls that may fail

A store whose calls return a value and leave a new state, or fail and leave the old one,
and a list of faults that says which calls fail besides: the entry of a call that is to
fail is its error.

* `Faults.World`, `Faults.call`, `Faults.handler` — the state with the faults to come.
* `call_error`, `call_ok` — what a call can do.
* `Holds` — what a program ends with, whatever calls fail; one rule for a call, one for a
  sequence, one for a part that ends with `?`.
* `Yields` — a program that only reads.
* `Does` — what a program does when no call is made to fail.
* `performAll`, `Reaches` — calls made one after the other, and the state they lead to.
* `StopsAt`, `exec_performAll_error` — a sequence that returns an error has made the calls before
  the one that reported it.
-/

namespace Faults

open Program

variable {Op : Type} {Value : Op → Type} {ε σ α β : Type}

/-- The state, and the faults of the calls to come; no call fails after the last one. -/
structure World (σ ε : Type) where
  state : σ
  faults : List (Option ε)

/-- A call: it fails if it is to, and else does what `result` says. -/
def call (result : σ → (op : Op) → Except ε (Value op × σ)) (w : World σ ε) (op : Op) :
    Except ε (Value op) × World σ ε :=
  match w.faults.head?.join, result w.state op with
  | some e, _ => (.error e, ⟨w.state, w.faults.tail⟩)
  | none, .ok (value, s) => (.ok value, ⟨s, w.faults.tail⟩)
  | none, .error e => (.error e, ⟨w.state, w.faults.tail⟩)

/-- The store of such calls. -/
def handler (result : σ → (op : Op) → Except ε (Value op × σ)) :
    Handler Op (fun op => Except ε (Value op)) (World σ ε) where
  answer w op := (call result w op).1
  next w op := (call result w op).2

/-- Make a call, with `?`. -/
def perform (op : Op) : ExceptT ε (Program Op fun op => Except ε (Value op)) (Value op) :=
  ExceptT.mk (.call op .done)

/-- Make calls one after the other. -/
def performAll : List Op → ExceptT ε (Program Op fun op => Except ε (Value op)) Unit
  | [] => pure ()
  | op :: ops => do
    let _ ← perform op
    performAll ops

/-- The calls lead from one state to another, all of them successful. -/
def Reaches (result : σ → (op : Op) → Except ε (Value op × σ)) : σ → List Op → σ → Prop
  | s, [], s' => s = s'
  | s, op :: ops, s' => ∃ value s₁, result s op = .ok (value, s₁) ∧ Reaches result s₁ ops s'

variable {result : σ → (op : Op) → Except ε (Value op × σ)} {w w' : World σ ε} {op : Op}
  {ops : List Op} {e : ε}

/-- A call that fails leaves the state. -/
theorem call_error (h : (call result w op).1 = .error e) :
    (call result w op).2.state = w.state := by
  rw [call] at h ⊢
  split at h
  · rfl
  · cases h
  · rfl

/-- A call that succeeds does what it does. -/
theorem call_ok {value : Value op} (h : (call result w op).1 = .ok value) :
    result w.state op = .ok (value, (call result w op).2.state) := by
  rw [call] at h ⊢
  split at h
  · cases h
  · rename_i hresult
    cases h
    exact hresult
  · cases h

/-- A call takes its entry of the faults. -/
theorem call_faults : (call result w op).2.faults = w.faults.tail := by
  rw [call]
  split <;> rfl

theorem exec_perform_bind (f : Value op → ExceptT ε (Program Op fun op => Except ε (Value op)) β) :
    exec (handler result) w (perform op >>= f) =
      match (call result w op).1 with
      | .ok value => exec (handler result) (call result w op).2 (f value)
      | .error e => (.error e, (call result w op).2) := by
  have hperform : exec (handler result) w (perform op) = call result w op := rfl
  rw [exec_bind, hperform]
  rcases call result w op with ⟨r, w'⟩
  cases r with
  | ok value => rfl
  | error e => rfl

/-! ## Following a program -/

/-- From a state on, whatever calls fail, a program ends with a result and a state that
satisfy `Q`; if it is not `faulty`, no call fails but those that `result` says. -/
def Holds (result : σ → (op : Op) → Except ε (Value op × σ)) (faulty : Prop) (s : σ)
    (p : Program Op (fun op => Except ε (Value op)) α) (Q : α → σ → Prop) : Prop :=
  ∀ faults, (¬ faulty → faults = []) →
    Q (run (handler result) ⟨s, faults⟩ p).1 (run (handler result) ⟨s, faults⟩ p).2.state

theorem run_faults (p : Program Op (fun op => Except ε (Value op)) α) :
    ∀ {w : World σ ε}, w.faults = [] → (run (handler result) w p).2.faults = [] := by
  induction p with
  | done a => exact fun hw => hw
  | call op k ih =>
    intro w hw
    refine ih _ ?_
    show (call result w op).2.faults = []
    rw [call_faults, hw, List.tail_nil]

section Holds

variable {faulty : Prop} {s : σ} {Q : α → σ → Prop}

theorem Holds.done {a : α} (h : Q a s) :
    Holds result faulty s (.done a : Program Op (fun op => Except ε (Value op)) α) Q :=
  fun _ _ => h

/-- A call: it fails because it may, it fails on its own, or it does what it does. -/
theorem Holds.call {k : Except ε (Value op) → Program Op (fun op => Except ε (Value op)) α}
    (hfault : faulty → ∀ e, Holds result faulty s (k (.error e)) Q)
    (herror : ∀ e, result s op = .error e → Holds result faulty s (k (.error e)) Q)
    (hok : ∀ value s', result s op = .ok (value, s') → Holds result faulty s' (k (.ok value)) Q) :
    Holds result faulty s (.call op k) Q := by
  intro faults hfaults
  have hrun : run (handler result) ⟨s, faults⟩ (.call op k) =
      run (handler result) (Faults.call result ⟨s, faults⟩ op).2
        (k (Faults.call result ⟨s, faults⟩ op).1) := rfl
  have htail : ¬ faulty → faults.tail = [] := fun h => by rw [hfaults h, List.tail_nil]
  rw [hrun, Faults.call]
  split
  · rename_i e hhead
    have hfaulty : faulty := by
      by_contra hnot
      rw [hfaults hnot] at hhead
      cases hhead
    exact hfault hfaulty e _ htail
  · rename_i value s' _ hresult
    exact hok value s' hresult _ htail
  · rename_i e _ hresult
    exact herror e hresult _ htail

theorem Holds.bind {R : β → σ → Prop} {p : Program Op (fun op => Except ε (Value op)) β}
    {f : β → Program Op (fun op => Except ε (Value op)) α} (hp : Holds result faulty s p R)
    (hf : ∀ b s', R b s' → Holds result faulty s' (f b) Q) :
    Holds result faulty s (p >>= f) Q := by
  intro faults hfaults
  rw [run_bind]
  exact hf _ _ (hp faults hfaults) _ fun hnot => run_faults p (hfaults hnot)

theorem Holds.imp {p : Program Op (fun op => Except ε (Value op)) α} {Q' : α → σ → Prop}
    (hp : Holds result faulty s p Q) (hQ : ∀ a s', Q a s' → Q' a s') :
    Holds result faulty s p Q' :=
  fun faults hfaults => hQ _ _ (hp faults hfaults)

/-- A part that ends with `?`. -/
theorem Holds.bind_except {ε' : Type} {R : Except ε' β → σ → Prop} {Q : Except ε' α → σ → Prop}
    {m : ExceptT ε' (Program Op fun op => Except ε (Value op)) β}
    {f : β → ExceptT ε' (Program Op fun op => Except ε (Value op)) α}
    (hm : Holds result faulty s m.run R)
    (hok : ∀ b s', R (.ok b) s' → Holds result faulty s' (f b).run Q)
    (herror : ∀ e s', R (.error e) s' → Q (.error e) s') :
    Holds result faulty s (m >>= f).run Q := by
  refine Holds.bind hm fun b s' hb => ?_
  cases b with
  | ok b => exact hok b s' hb
  | error e => exact Holds.done (herror e s' hb)

/-- A call with `?`. -/
theorem Holds.perform {Q : Except ε (Value op) → σ → Prop}
    (hfault : faulty → ∀ e, Q (.error e) s) (herror : ∀ e, result s op = .error e → Q (.error e) s)
    (hok : ∀ value s', result s op = .ok (value, s') → Q (.ok value) s') :
    Holds result faulty s (Faults.perform op).run Q :=
  Holds.call (fun h e => Holds.done (hfault h e)) (fun e h => Holds.done (herror e h))
    fun value s' h => Holds.done (hok value s' h)

/-- Past a part whose errors are turned into others. -/
theorem Holds.mapError_bind {ε₁ ε₂ : Type} {R : Except ε₁ β → σ → Prop} {Q : Except ε₂ α → σ → Prop}
    {m : ExceptT ε₁ (Program Op fun op => Except ε (Value op)) β} {g : ε₁ → ε₂}
    {f : β → ExceptT ε₂ (Program Op fun op => Except ε (Value op)) α}
    (hm : Holds result faulty s m.run R)
    (hok : ∀ b s', R (.ok b) s' → Holds result faulty s' (f b).run Q)
    (herror : ∀ e s', R (.error e) s' → Q (.error (g e)) s') :
    Holds result faulty s (ExceptT.mk (m.run >>= fun r => .done (r.mapError g)) >>= f).run Q := by
  refine Holds.bind (R := fun r' s' => ∃ r, r' = r.mapError g ∧ R r s')
    (Holds.bind hm fun r s' hr => Holds.done ⟨r, rfl, hr⟩) ?_
  rintro - s' ⟨r, rfl, hr⟩
  cases r with
  | ok b => exact hok b s' hr
  | error e => exact Holds.done (herror e s' hr)

/-- A part that makes no call. -/
theorem Holds.done_bind {ε₁ : Type} {x : Except ε₁ β} {Q : Except ε₁ α → σ → Prop}
    {f : β → ExceptT ε₁ (Program Op fun op => Except ε (Value op)) α}
    (hok : ∀ b, x = .ok b → Holds result faulty s (f b).run Q)
    (herror : ∀ e, x = .error e → Q (.error e) s) :
    Holds result faulty s (ExceptT.mk (.done x) >>= f).run Q := by
  cases x with
  | ok b => exact hok b rfl
  | error e => exact Holds.done (herror e rfl)

/-- A program of calls of another kind that do the same. -/
theorem Holds.lift {Op' : Type} {Value' : Op' → Type}
    (result' : σ → (op : Op') → Except ε (Value' op × σ)) (embed : Op → Op')
    (back : ∀ op, Except ε (Value' (embed op)) → Except ε (Value op))
    (hback : ∀ w op, back op (Faults.call result' w (embed op)).1 = (Faults.call result w op).1)
    (hnext : ∀ w op, (Faults.call result' w (embed op)).2 = (Faults.call result w op).2)
    {p : Program Op (fun op => Except ε (Value op)) α} (hp : Holds result faulty s p Q) :
    Holds result' faulty s (p.lift embed back) Q := by
  intro faults hfaults
  have hrun : run (handler result') ⟨s, faults⟩ (p.lift embed back) =
      ((run (handler result) ⟨s, faults⟩ p).1, (run (handler result) ⟨s, faults⟩ p).2) :=
    run_lift (fun w => w) (fun _ w => w) (fun _ _ => rfl) (fun _ => rfl) (fun _ _ _ => rfl) hback
      hnext (⟨s, faults⟩ : World σ ε) p
  rw [hrun]
  exact hp faults hfaults

end Holds

/-! ## Programs that read -/

/-- A program that changes nothing and returns a value, unless a call fails because it
may. -/
def Yields {ε' : Type} (result : σ → (op : Op) → Except ε (Value op × σ)) (faulty : Prop) (s : σ)
    (m : ExceptT ε' (Program Op fun op => Except ε (Value op)) α) (a : α) : Prop :=
  Holds result faulty s m.run fun r s' => s' = s ∧ (r = .ok a ∨ faulty ∧ ∃ e, r = .error e)

section Yields

variable {faulty : Prop} {s : σ} {ε' : Type} {a : α} {b : β}
  {m : ExceptT ε' (Program Op fun op => Except ε (Value op)) α}
  {f : α → ExceptT ε' (Program Op fun op => Except ε (Value op)) β}

theorem Yields.pure (a : α) :
    Yields result faulty s (pure a : ExceptT ε' (Program Op fun op => Except ε (Value op)) α) a :=
  Holds.done ⟨rfl, .inl rfl⟩

theorem Yields.perform {value : Value op} (h : result s op = .ok (value, s)) :
    Yields result faulty s (Faults.perform op) value := by
  refine Holds.perform (fun hfaulty e => ⟨rfl, .inr ⟨hfaulty, e, rfl⟩⟩) (fun e herror => ?_)
    fun value' s' hok => ?_
  · rw [h] at herror
    cases herror
  · rw [h] at hok
    cases hok
    exact ⟨rfl, .inl rfl⟩

/-- Past a part that only reads. -/
theorem Yields.holds_bind {Q : Except ε' β → σ → Prop} (hm : Yields result faulty s m a)
    (hfault : faulty → ∀ e, Q (.error e) s) (hf : Holds result faulty s (f a).run Q) :
    Holds result faulty s (m >>= f).run Q := by
  refine Holds.bind_except hm ?_ ?_
  · rintro a' s' ⟨rfl, heq | ⟨-, e, he⟩⟩
    · cases heq
      exact hf
    · cases he
  · rintro e s' ⟨rfl, heq | ⟨hfaulty, e', -⟩⟩
    · cases heq
    · exact hfault hfaulty e

theorem Yields.bind (hm : Yields result faulty s m a) (hf : Yields result faulty s (f a) b) :
    Yields result faulty s (m >>= f) b :=
  hm.holds_bind (fun hfaulty e => ⟨rfl, .inr ⟨hfaulty, e, rfl⟩⟩) hf

end Yields

/-! ## Calls one after the other -/

/-- Of some calls one after the other, one reported the error; those before it were made. -/
def StopsAt (result : σ → (op : Op) → Except ε (Value op × σ)) (w : World σ ε) (ops : List Op)
    (e : ε) (s' : σ) : Prop :=
  ∃ before failed after, ops = before ++ failed :: after ∧ Reaches result w.state before s' ∧
    (call result ⟨s', w.faults.drop before.length⟩ failed).1 = .error e

/-- **A sequence that returns an error stops at the call that reported it.** -/
theorem exec_performAll_error (h : exec (handler result) w (performAll ops) = (.error e, w')) :
    StopsAt result w ops e w'.state := by
  induction ops generalizing w with
  | nil => cases h
  | cons op ops ih =>
    rw [performAll, exec_perform_bind] at h
    cases hcall : (call result w op).1 with
    | error e' =>
      rw [hcall] at h
      cases h
      refine ⟨[], op, ops, rfl, (call_error hcall).symm, ?_⟩
      rw [call_error hcall]
      exact hcall
    | ok value =>
      rw [hcall] at h
      obtain ⟨before, failed, after, rfl, hreaches, hfailed⟩ := ih h
      refine ⟨op :: before, failed, after, rfl, ⟨value, _, call_ok hcall, hreaches⟩, ?_⟩
      rwa [call_faults, List.drop_tail] at hfailed

theorem Reaches.append {s s₁ s₂ : σ} {ops' : List Op} (h : Reaches result s ops s₁)
    (h' : Reaches result s₁ ops' s₂) : Reaches result s (ops ++ ops') s₂ := by
  induction ops generalizing s with
  | nil =>
    cases h
    exact h'
  | cons op ops ih =>
    obtain ⟨value, s', hresult, hrest⟩ := h
    exact ⟨value, s', hresult, ih hrest⟩

theorem Reaches.single {s s' : σ} {value : Value op} (h : result s op = .ok (value, s')) :
    Reaches result s [op] s' := ⟨value, s', h, rfl⟩

/-- A sequence makes all its calls, or those before one that fails. -/
theorem holds_performAll (faulty : Prop) (s : σ) :
    Holds result faulty s (performAll ops).run fun r s' =>
      (r = .ok () ∧ Reaches result s ops s') ∨
        ∃ e before op after, r = .error e ∧ ops = before ++ op :: after ∧
          Reaches result s before s' ∧ (faulty ∨ result s' op = .error e) := by
  induction ops generalizing s with
  | nil => exact Holds.done (.inl ⟨rfl, rfl⟩)
  | cons op ops ih =>
    refine Holds.call ?_ ?_ ?_
    · exact fun hfaulty e => Holds.done (.inr ⟨e, [], op, ops, rfl, rfl, rfl, .inl hfaulty⟩)
    · exact fun e herror => Holds.done (.inr ⟨e, [], op, ops, rfl, rfl, rfl, .inr herror⟩)
    · intro value s₁ hok
      refine (ih s₁).imp ?_
      rintro r s' (⟨rfl, hreaches⟩ | ⟨e, before, op', after, rfl, rfl, hreaches, hfail⟩)
      · exact .inl ⟨rfl, value, s₁, hok, hreaches⟩
      · exact .inr ⟨e, op :: before, op', after, rfl, rfl, ⟨value, s₁, hok, hreaches⟩, hfail⟩

/-! ## Programs without faults -/

/-- Without faults, a program returns a value and leaves a state. -/
def Does {ε' : Type} (result : σ → (op : Op) → Except ε (Value op × σ)) (s : σ)
    (m : ExceptT ε' (Program Op fun op => Except ε (Value op)) α) (a : α) (s' : σ) : Prop :=
  exec (handler result) ⟨s, []⟩ m = (.ok a, ⟨s', []⟩)

section Does

variable {s s₁ s₂ : σ} {ε' : Type} {a : α} {b : β}
  {m : ExceptT ε' (Program Op fun op => Except ε (Value op)) α}
  {f : α → ExceptT ε' (Program Op fun op => Except ε (Value op)) β}

theorem Does.pure (s : σ) (a : α) :
    Does result s (pure a : ExceptT ε' (Program Op fun op => Except ε (Value op)) α) a s := rfl

theorem Does.perform {value : Value op} (h : result s op = .ok (value, s₁)) :
    Does result s (Faults.perform op) value s₁ := by
  show call result ⟨s, []⟩ op = _
  simp [call, h]

theorem Does.bind (hm : Does result s m a s₁) (hf : Does result s₁ (f a) b s₂) :
    Does result s (m >>= f) b s₂ := by
  rw [Does, exec_bind, show exec (handler result) ⟨s, []⟩ m = _ from hm]
  exact hf

theorem Yields.does (hm : Yields result False s m a) : Does result s m a s := by
  obtain ⟨hstate, hok | ⟨hfalse, -⟩⟩ := hm [] fun _ => rfl
  · refine Prod.ext hok ?_
    have hfaults : (run (handler result) ⟨s, []⟩ m.run).2.faults = [] := run_faults m.run rfl
    rw [exec]
    cases hrun : (run (handler result) ⟨s, []⟩ m.run).2 with
    | mk state faults =>
      rw [hrun] at hstate hfaults
      rw [show state = s from hstate, show faults = [] from hfaults]
  · exact hfalse.elim

/-- Past a part of a program that looks at its result. -/
theorem Does.holds_bind {p : Except ε' α → Program Op (fun op => Except ε (Value op)) β}
    {Q : β → σ → Prop} (hm : Does result s m a s₁) (hp : Holds result False s₁ (p (.ok a)) Q) :
    Holds result False s (m.run >>= p) Q := by
  intro faults hfaults
  have hrun : run (handler result) ⟨s, []⟩ m.run = (.ok a, ⟨s₁, []⟩) := hm
  rw [hfaults not_false, run_bind, hrun]
  exact hp [] fun _ => rfl

end Does

end Faults
