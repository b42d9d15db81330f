import Cctf.Library.Guarantees

/-!
# Programs that learn facts

The memory of a program as a list of facts: what a response shows is added to it, and a fact
that was true stays true, whoever goes on.

* `Program.Calls` — all calls that a program makes, whatever the responses; `Pool.store_run` is
  what the calls of many programs keep.
* `Knowledge` — the responses that are expected, the facts that they show, and what a program
  may call by the facts that it knows.
* `Knowledge.Learns` — a program that calls what it may, and what it knows at its end;
  `Learns.bind`, `call`, `lift` and `of_calls` are its rules.
* `LearnsOk` — the same for a program that may stop with an error.
* `byTrace_run` — **what a program knows was shown by its own calls** in the trace;
  `guard_of_trace` is what this says of its calls, `learned_of_trace` of its result.
* `Pool.Answered`, `Knowledge.recording` — a call with its answer, and a program that remembers
  them all.
* `Guarantee.ofFacts` — the conditions under which what is known stays true.
-/

open Program

/-! ## The calls of a program -/

namespace Program

variable {Op : Type} {Resp : Op → Type} {α β ε : Type} {ok ok' : Op → Prop}

/-- Every call that a program makes, whatever the responses, is one of `ok`. -/
def Calls (ok : Op → Prop) : Program Op Resp α → Prop
  | .done _ => True
  | .call op k => ok op ∧ ∀ r, (k r).Calls ok

theorem Calls.bind {f : α → Program Op Resp β} (hf : ∀ a, (f a).Calls ok) :
    ∀ {p : Program Op Resp α}, p.Calls ok → (p >>= f).Calls ok
  | .done a, _ => hf a
  | .call _ k, h => ⟨h.1, fun r => Calls.bind hf (p := k r) (h.2 r)⟩

theorem Calls.bind_pure {p : Program Op Resp α} (h : p.Calls ok) (f : α → β) :
    (p >>= fun a => pure (f a)).Calls ok := by
  refine Calls.bind (fun a => ?_) h
  trivial

/-- An error ends the calls. -/
theorem Calls.bind_except {m : ExceptT ε (Program Op Resp) α}
    {f : α → ExceptT ε (Program Op Resp) β} (h : m.run.Calls ok)
    (hf : ∀ a, (f a).run.Calls ok) : (m >>= f).run.Calls ok := by
  refine Calls.bind (fun r => ?_) h
  cases r with
  | ok a => exact hf a
  | error e => trivial

theorem Calls.imp (himp : ∀ op, ok op → ok' op) :
    ∀ {p : Program Op Resp α}, p.Calls ok → p.Calls ok'
  | .done _, _ => trivial
  | .call _ k, h => ⟨himp _ h.1, fun r => Calls.imp himp (p := k r) (h.2 r)⟩

theorem Calls.of_forall (h : ∀ op, ok op) : ∀ p : Program Op Resp α, p.Calls ok
  | .done _ => trivial
  | .call op k => ⟨h op, fun r => Calls.of_forall h (k r)⟩

theorem Calls.ite {c : Prop} [Decidable c] {p q : Program Op Resp α} (hp : p.Calls ok)
    (hq : q.Calls ok) : (if c then p else q).Calls ok := by
  split_ifs
  · exact hp
  · exact hq

/-- The calls of a part. -/
theorem Calls.lift {Op' : Type} {Resp' : Op' → Type} {okEmbed : Op' → Prop} {embed : Op → Op'}
    {back : ∀ op, Resp' (embed op) → Resp op} :
    ∀ {p : Program Op Resp α}, p.Calls (fun op => okEmbed (embed op)) →
      (p.lift embed back).Calls okEmbed
  | .done _, _ => trivial
  | .call _ k, h => ⟨h.1, fun r => Calls.lift (p := k (back _ r)) (h.2 _)⟩

end Program

/-! ## The calls of a pool -/

namespace Pool

variable {Op : Type} {Resp : Op → Type} {α σ ι : Type} [DecidableEq ι] {H : Handler Op Resp σ}
  {ok : ι → Op → Prop}

theorem calls_step {P : Pool Op Resp α σ ι} (h : ∀ i, (P.prog i).Calls (ok i)) (i : ι) :
    ∀ j, ((P.step H i).prog j).Calls (ok j) := by
  intro j
  have hi := h i
  cases hcall : P.prog i with
  | done a =>
    rw [step_of_done hcall]
    exact h j
  | call op k =>
    rw [hcall] at hi
    rw [step_of_call hcall]
    by_cases hj : j = i
    · subst hj
      simp only [Function.update_self]
      exact hi.2 _
    · simp only [Function.update_of_ne hj]
      exact h j

/-- **What all calls of those who are scheduled keep** holds after the schedule. -/
theorem store_run {P : Pool Op Resp α σ ι} {J : σ → Prop} (h : ∀ i, (P.prog i).Calls (ok i))
    {schedule : List ι} (hkeeps : ∀ s, ∀ i ∈ schedule, ∀ op, J s → ok i op → J (H.next s op))
    (hstart : J P.store) : J (P.run H schedule).store := by
  induction schedule generalizing P with
  | nil => exact hstart
  | cons i schedule ih =>
    refine ih (calls_step h i) (fun s j hj => hkeeps s j (List.mem_cons_of_mem _ hj)) ?_
    have hi := h i
    cases hcall : P.prog i with
    | done a =>
      rw [step_of_done hcall]
      exact hstart
    | call op k =>
      rw [hcall] at hi
      rw [step_of_call hcall]
      exact hkeeps _ i List.mem_cons_self op hstart hi.1

end Pool

/-! ## Knowledge -/

/-- What programs know of a store, as facts of type `φ`. -/
structure Knowledge (Op : Type) (Resp : Op → Type) (φ : Type) where
  /-- A response that is expected. -/
  may : (op : Op) → Resp op → Prop
  /-- The facts that a response shows. -/
  shown : (op : Op) → Resp op → List φ
  /-- What a program may call, by the facts that it knows. -/
  guard : List φ → Op → Prop

namespace Knowledge

variable {Op : Type} {Resp : Op → Type} {φ α β ε : Type} (K : Knowledge Op Resp φ)

/-- A program calls what it may; at its end `P` holds of what it knows and returns. -/
def Learns (g : List φ) (p : Program Op Resp α) (P : List φ → α → Prop) : Prop :=
  Along K.may (fun g op r => K.shown op r ++ g) K.guard (fun g' a => g ⊆ g' ∧ P g' a) g p

/-- The same for a program that may stop with an error; then nothing is promised. -/
def LearnsOk (g : List φ) (m : ExceptT ε (Program Op Resp) α) (P : List φ → α → Prop) : Prop :=
  K.Learns g m.run fun g' r => ∀ a, r = .ok a → P g' a

variable {K} {g : List φ} {P P' : List φ → α → Prop} {Q : List φ → β → Prop}

theorem Learns.imp {p : Program Op Resp α} (h : K.Learns g p P)
    (himp : ∀ g' a, g ⊆ g' → P g' a → P' g' a) : K.Learns g p P' :=
  Along.imp (fun g' a hpost => ⟨hpost.1, himp g' a hpost.1 hpost.2⟩) h

theorem Learns.pure {a : α} (h : P g a) : K.Learns g (pure a) P := ⟨List.Subset.refl g, h⟩

/-- **The rule of sequencing.** -/
theorem Learns.bind {p : Program Op Resp α} {f : α → Program Op Resp β} (h : K.Learns g p P)
    (hf : ∀ g' a, g ⊆ g' → P g' a → K.Learns g' (f a) Q) : K.Learns g (p >>= f) Q :=
  Along.bind h fun g' a hpost =>
    Along.imp (fun _ _ hQ => ⟨List.Subset.trans hpost.1 hQ.1, hQ.2⟩) (hf g' a hpost.1 hpost.2)

/-- A call, and what is done with its response. -/
theorem Learns.call {op : Op} {k : Resp op → Program Op Resp α} (hguard : K.guard g op)
    (hk : ∀ r, K.may op r → K.Learns (K.shown op r ++ g) (k r) P) : K.Learns g (.call op k) P :=
  ⟨hguard, fun r hr =>
    Along.imp (fun _ _ hP => ⟨List.Subset.trans (List.subset_append_right _ _) hP.1, hP.2⟩) (hk r hr)⟩

/-- A program whose calls need only what is known at the start. -/
theorem Learns.of_calls {ok : Op → Prop} (hguard : ∀ g' op, g ⊆ g' → ok op → K.guard g' op)
    (hpost : ∀ g' a, g ⊆ g' → P g' a) {p : Program Op Resp α} (h : p.Calls ok) :
    K.Learns g p P := by
  induction p generalizing g with
  | done a => exact ⟨List.Subset.refl g, hpost g a (List.Subset.refl g)⟩
  | call op k ih =>
    refine Learns.call (hguard g op (List.Subset.refl g) h.1) fun r _ => ih r ?_ ?_ (h.2 r)
    · exact fun g' op' hsub => hguard g' op' (List.Subset.trans (List.subset_append_right _ _) hsub)
    · exact fun g' a hsub => hpost g' a (List.Subset.trans (List.subset_append_right _ _) hsub)

/-! ## Programs inside larger ones -/

section

variable {Op' : Type} {Resp' : Op' → Type} {K' : Knowledge Op' Resp' φ} {embed : Op → Op'}
  {back : ∀ op, Resp' (embed op) → Resp op}

/-- **A program as a part of one that makes more kinds of calls** learns the same. -/
theorem Learns.lift (hmay : ∀ op r, K'.may (embed op) r → K.may op (back op r))
    (hshown : ∀ op r, K'.shown (embed op) r = K.shown op (back op r))
    (hguard : ∀ g op, K.guard g op → K'.guard g (embed op)) {p : Program Op Resp α}
    (h : K.Learns g p P) : K'.Learns g (p.lift embed back) P := by
  rw [Learns] at h ⊢
  generalize hknown : (fun (g' : List φ) (a : α) => g ⊆ g' ∧ P g' a) = post at h ⊢
  clear hknown
  induction p generalizing g with
  | done a => exact h
  | call op k ih =>
    refine ⟨hguard g op h.1, fun r hr => ?_⟩
    show Along _ _ _ _ (K'.shown (embed op) r ++ g) _
    rw [hshown]
    exact ih _ (h.2 _ (hmay op r hr))

end

/-! ## Programs that can fail -/

theorem LearnsOk.pure {a : α} (h : P g a) :
    K.LearnsOk g (Pure.pure a : ExceptT ε (Program Op Resp) α) P :=
  Learns.pure fun _ heq => Except.ok.inj heq ▸ h

/-- An error promises nothing. -/
theorem LearnsOk.throw (e : ε) :
    K.LearnsOk g (MonadExcept.throw e : ExceptT ε (Program Op Resp) α) P :=
  Learns.pure fun _ heq => nomatch heq

/-- A value that is there, or an error. -/
theorem LearnsOk.mk {r : Except ε α} (h : ∀ a, r = .ok a → P g a) :
    K.LearnsOk g (ExceptT.mk (.done r)) P :=
  Learns.pure h

theorem LearnsOk.imp {m : ExceptT ε (Program Op Resp) α} (h : K.LearnsOk g m P)
    (himp : ∀ g' a, g ⊆ g' → P g' a → P' g' a) : K.LearnsOk g m P' :=
  Learns.imp h fun g' _ hsub hP a heq => himp g' a hsub (hP a heq)

/-- **The rule of sequencing**: an error ends the program. -/
theorem LearnsOk.bind {m : ExceptT ε (Program Op Resp) α} {f : α → ExceptT ε (Program Op Resp) β}
    (h : K.LearnsOk g m P) (hf : ∀ g' a, g ⊆ g' → P g' a → K.LearnsOk g' (f a) Q) :
    K.LearnsOk g (m >>= f) Q := by
  refine Learns.bind (p := m.run) h fun g' r hsub hP => ?_
  cases r with
  | ok a => exact hf g' a hsub (hP a rfl)
  | error e => exact Learns.pure fun _ heq => nomatch heq

end Knowledge

/-! ## What was shown -/

section

variable {Op : Type} {Resp : Op → Type} {σ ι φ α : Type} [DecidableEq ι] {H : Handler Op Resp σ}
  {K : Knowledge Op Resp φ}

/-- A call of the program in the trace has shown the fact. -/
def Knowledge.ShownIn (K : Knowledge Op Resp φ) (H : Handler Op Resp σ) (i : ι)
    (trace : List (Made Op σ ι)) (f : φ) : Prop :=
  ∃ e ∈ trace, e.who = i ∧ f ∈ K.shown e.op (H.answer e.before e.op)

omit [DecidableEq ι] in
theorem Knowledge.ShownIn.more {i : ι} {trace trace' : List (Made Op σ ι)} {f : φ}
    (h : K.ShownIn H i trace f) : K.ShownIn H i (trace ++ trace') f :=
  h.imp fun _ he => ⟨List.mem_append_left _ he.1, he.2⟩

/-- Every call of a program was allowed by what its calls had shown, and so is the rest of it. -/
structure Knowledge.ByTrace (K : Knowledge Op Resp φ) (H : Handler Op Resp σ) (i : ι)
    (Q : List φ → α → Prop) (trace : List (Made Op σ ι)) (P : Pool Op Resp α σ ι) : Prop where
  made : ∀ e ∈ trace, e.who = i → ∃ g, K.guard g e.op ∧ ∀ f ∈ g, K.ShownIn H i trace f
  rest : ∃ g, (∀ f ∈ g, K.ShownIn H i trace f) ∧
    Along K.may (fun g op r => K.shown op r ++ g) K.guard (fun g' a => [] ⊆ g' ∧ Q g' a) g (P.prog i)

/-- One call more, of any program. -/
theorem Knowledge.ByTrace.step {i : ι} {Q : List φ → α → Prop} {trace : List (Made Op σ ι)}
    {R : Pool Op Resp α σ ι} (hmay : ∀ op, K.may op (H.answer R.store op))
    (h : K.ByTrace H i Q trace R) (j : ι) : K.ByTrace H i Q (trace ++ R.made j) (R.step H j) := by
  obtain ⟨hmade, g, hshown, halong⟩ := h
  cases hcall : R.prog j with
  | done a =>
    rw [Pool.made_of_done hcall, Pool.step_of_done hcall, List.append_nil]
    exact ⟨hmade, g, hshown, halong⟩
  | call op k =>
    rw [Pool.made_of_call hcall, Pool.step_of_call hcall]
    have hbefore : ∀ e ∈ trace, e.who = i → ∃ g, K.guard g e.op ∧
        ∀ f ∈ g, K.ShownIn H i (trace ++ [⟨j, op, R.store⟩]) f := fun e he hwho =>
      (hmade e he hwho).imp fun _ hg => ⟨hg.1, fun f hf => (hg.2 f hf).more⟩
    by_cases hij : i = j
    · subst hij
      rw [hcall] at halong
      refine ⟨fun e he hwho => ?_, K.shown op (H.answer R.store op) ++ g, fun f hf => ?_, ?_⟩
      · rcases List.mem_append.mp he with hold | hnew
        · exact hbefore e hold hwho
        · obtain rfl := List.mem_singleton.mp hnew
          exact ⟨g, halong.1, fun f hf => (hshown f hf).more⟩
      · rcases List.mem_append.mp hf with hnow | hold
        · exact ⟨_, List.mem_append_right _ (List.mem_singleton_self _), rfl, hnow⟩
        · exact (hshown f hold).more
      · simp only [Function.update_self]
        exact halong.2 _ (hmay _)
    · refine ⟨fun e he hwho => ?_, g, fun f hf => (hshown f hf).more, ?_⟩
      · rcases List.mem_append.mp he with hold | hnew
        · exact hbefore e hold hwho
        · obtain rfl := List.mem_singleton.mp hnew
          exact absurd hwho.symm hij
      · simp only [Function.update_of_ne hij]
        exact halong

/-- **What a program knows was shown by its own calls**, whoever else goes on, in a run whose
store answers as expected. -/
theorem Knowledge.byTrace_run {P : Pool Op Resp α σ ι} {i : ι} {Q : List φ → α → Prop}
    (h : K.Learns [] (P.prog i) Q)
    (hmay : ∀ schedule op, K.may op (H.answer (P.run H schedule).store op)) (schedule : List ι) :
    K.ByTrace H i Q (P.trace H schedule) (P.run H schedule) := by
  induction schedule using List.reverseRecOn with
  | nil =>
    exact ⟨fun _ he => absurd he List.not_mem_nil, [], fun _ hf => absurd hf List.not_mem_nil, h⟩
  | append_singleton schedule j ih =>
    rw [Pool.run_append, Pool.trace_append]
    show K.ByTrace H i Q (_ ++ ((P.run H schedule).made j ++ [])) ((P.run H schedule).step H j)
    rw [List.append_nil]
    exact ih.step (hmay schedule) j

/-- Every call of a program is allowed by facts that calls of the trace have shown. -/
theorem Knowledge.guard_of_trace (hmay : ∀ s op, K.may op (H.answer s op))
    {P : Pool Op Resp α σ ι} {i : ι} {Q : List φ → α → Prop} (h : K.Learns [] (P.prog i) Q)
    (schedule : List ι) :
    ∀ e ∈ P.trace H schedule, e.who = i →
      ∃ g, K.guard g e.op ∧ ∀ f ∈ g, K.ShownIn H i (P.trace H schedule) f :=
  (byTrace_run h (fun _ => hmay _) schedule).made

/-- A program that has ended returned what the facts say that its calls have shown. -/
theorem Knowledge.learned_of_trace {P : Pool Op Resp α σ ι} {i : ι} {Q : List φ → α → Prop}
    (h : K.Learns [] (P.prog i) Q)
    (hmay : ∀ schedule op, K.may op (H.answer (P.run H schedule).store op)) {schedule : List ι}
    {a : α} (hdone : (P.run H schedule).prog i = .done a) :
    ∃ g, (∀ f ∈ g, K.ShownIn H i (P.trace H schedule) f) ∧ Q g a := by
  obtain ⟨g, hshown, hrest⟩ := (byTrace_run h hmay schedule).rest
  rw [hdone] at hrest
  exact ⟨g, hshown, hrest.2⟩

/-! ## Answers -/

/-- A call of the program in the trace, and how it was answered. -/
def Pool.Answered (H : Handler Op Resp σ) (trace : List (Made Op σ ι)) (i : ι) (op : Op)
    (r : Resp op) : Prop :=
  ∃ s, ⟨i, op, s⟩ ∈ trace ∧ H.answer s op = r

/-- What a program knows that remembers all its calls and their answers. -/
def Knowledge.recording (may : (op : Op) → Resp op → Prop) :
    Knowledge Op Resp (Σ op, Resp op) where
  may := may
  shown op r := [⟨op, r⟩]
  guard _ _ := True

/-- **A program that remembers its calls** returns what their answers say, whatever others do
before it begins and while it goes on. -/
theorem Knowledge.recorded {may : (op : Op) → Resp op → Prop} {P : Pool Op Resp α σ ι} {i : ι}
    {Q : List (Σ op, Resp op) → α → Prop} {before rest : List ι} {a : α}
    (h : (Knowledge.recording may).Learns [] ((P.run H before).prog i) Q)
    (hmay : ∀ rest op, may op (H.answer (P.run H (before ++ rest)).store op))
    (hdone : (P.run H (before ++ rest)).prog i = .done a) :
    ∃ g, (∀ op r, ⟨op, r⟩ ∈ g → Pool.Answered H (P.trace H (before ++ rest)) i op r) ∧ Q g a := by
  rw [Pool.run_append] at hdone
  obtain ⟨g, hshown, hQ⟩ :=
    learned_of_trace h (fun rest op => Pool.run_append H P before rest ▸ hmay rest op) hdone
  refine ⟨g, fun op r hr => ?_, hQ⟩
  obtain ⟨⟨who, op', s⟩, he, rfl, hf⟩ := hshown _ hr
  cases List.mem_singleton.mp hf
  rw [Pool.trace_append]
  exact ⟨s, List.mem_append_right _ he, rfl⟩

end

/-! ## What stays true -/

/-- Facts that are shown when they hold, and that no allowed call makes false. -/
def Guarantee.ofFacts {Op : Type} {Resp : Op → Type} {σ ι φ : Type} {H : Handler Op Resp σ}
    (K : ι → Knowledge Op Resp φ) (may : (op : Op) → Resp op → Prop)
    (shown : (op : Op) → Resp op → List φ) (inv : σ → Prop) (holds : σ → φ → Prop)
    (answer : ∀ {i s g op}, inv s → (∀ f ∈ g, holds s f) → (K i).guard g op →
      may op (H.answer s op))
    (keeps : ∀ {i s g op}, inv s → (∀ f ∈ g, holds s f) → (K i).guard g op → inv (H.next s op))
    (stable : ∀ {i s g op f}, inv s → (∀ f ∈ g, holds s f) → (K i).guard g op → holds s f →
      holds (H.next s op) f)
    (truthful : ∀ {i s g op f}, inv s → (∀ f ∈ g, holds s f) → (K i).guard g op →
      f ∈ shown op (H.answer s op) → holds (H.next s op) f) :
    Guarantee H ι (List φ) where
  inv := inv
  valid s g := ∀ f ∈ g, holds s f
  tick g op r := shown op r ++ g
  guard i := (K i).guard
  may := may
  answer := answer
  keeps := keeps
  remembers hinv hvalid hguard f hf :=
    (List.mem_append.mp hf).elim (truthful hinv hvalid hguard)
      fun hold => stable hinv hvalid hguard (hvalid f hold)
  others hinv hvalid hguard hvalid' f hf := stable hinv hvalid hguard (hvalid' f hf)
