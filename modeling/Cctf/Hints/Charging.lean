import Cctf.Repos.Pg.Hints
import Cctf.Services.Hint

/-!
# Charging a hint once

`unlock_hint` reads the unlocks and saves a new one in separate calls, with
nothing in between that would stop another request.  This file runs any number of
requests of one team next to each other, against the Postgres tables.

* `unlockHint_follows` — **what a request does on its own account**: it saves a
  row only after a `find_for` that showed no row of the hint, and in `Gate` mode
  only after a `find_all` that left enough points.
* `Undisturbed` — the condition on a run: between such a read and the save that
  relies on it, nobody saves a row that the read was about.
* `charged_once` — **in every undisturbed run a hint is charged once, and the
  gate holds after every save**.
* `charged_twice` — two requests that both read before either saves.
-/

namespace Cctf

open Program HintService

/-- Is the row an unlock of the given hint by the team? -/
def isUnlockOf (t : TeamId) (challengeId : String) (hintIndex : UInt32) (u : HintUnlock) : Bool :=
  decide (u.teamId = some t) && decide (u.challengeId = challengeId) &&
    decide (u.hintIndex = hintIndex)

theorem isUnlockOf_iff {t : TeamId} {challengeId : String} {hintIndex : UInt32} {u : HintUnlock} :
    isUnlockOf t challengeId hintIndex u = true ↔
      u.teamId = some t ∧ u.challengeId = challengeId ∧ u.hintIndex = hintIndex := by
  simp [isUnlockOf, and_assoc]

/-- At most one row per hint of a team. -/
def ChargedOnce (t : TeamId) (unlocks : List HintUnlock) : Prop :=
  ∀ challengeId hintIndex, (unlocks.filter (isUnlockOf t challengeId hintIndex)).length ≤ 1

theorem ChargedOnce.append {t : TeamId} {unlocks : List HintUnlock} {u : HintUnlock}
    (h : ChargedOnce t unlocks)
    (hnew : ∀ v ∈ unlocks, v.teamId = some t → v.challengeId = u.challengeId →
      v.hintIndex ≠ u.hintIndex) : ChargedOnce t (unlocks ++ [u]) := by
  intro challengeId hintIndex
  rw [List.filter_append, List.length_append]
  by_cases hmatch : isUnlockOf t challengeId hintIndex u = true
  · obtain ⟨-, hchallenge, hindex⟩ := isUnlockOf_iff.1 hmatch
    have hnone : unlocks.filter (isUnlockOf t challengeId hintIndex) = [] := by
      rw [List.filter_eq_nil_iff]
      intro v hv hv'
      obtain ⟨hteam, hchallenge', hindex'⟩ := isUnlockOf_iff.1 hv'
      exact hnew v hv hteam (hchallenge'.trans hchallenge.symm) (hindex'.trans hindex.symm)
    rw [hnone, List.length_nil, Nat.zero_add]
    exact List.length_filter_le _ [u]
  · rw [List.filter_cons_of_neg hmatch, List.filter_nil, List.length_nil, Nat.add_zero]
    exact h challengeId hintIndex

theorem totalHintCost_singleton {u : HintUnlock} {t : TeamId} (h : u.teamId = some t) :
    totalHintCost [u] (some t) none = u.cost.toNat := by
  simp [totalHintCost, h]

/-! ## One request -/

/-- What a request has read of the unlocks so far. -/
structure Reads where
  seenFor : Option (String × List HintUnlock)
  seenAll : Option (List HintUnlock)

/-- A response adds what it shows. -/
def Reads.tick (g : Reads) : (op : RepoOp) → op.Resp → Reads
  | .hintFindFor challengeId _ _, .ok rows => { g with seenFor := some (challengeId, rows) }
  | .hintFindAll, .ok rows => { g with seenAll := some rows }
  | _, _ => g

/-- Is the call about the unlocks? -/
def onUnlocks : RepoOp → Bool
  | .hintFindAll => true
  | .hintFindFor _ _ _ => true
  | .hintSave _ => true
  | _ => false

/-- The other tables answer as they stand in `s`. -/
def Steady (s : Store) (op : RepoOp) (r : op.Resp) : Prop :=
  onUnlocks op = false → r = .ok (s.read op)

section

variable (E : Engines) (mode : HintDeductionMode) (s : Store) (t : TeamId)

/-- The points of the stored team cover a cost on top of some unlocks. -/
def Affords (unlocks : List HintUnlock) (cost : UInt32) : Prop :=
  ∃ team, s.teams.find? t = some team ∧
    totalHintCost unlocks (some t) none + (cost.toNat : ℤ) ≤
      solvePoints E team s.challenges.rows s.submissions

/-- What entitles a request of the team to a call: it looks for its own rows, and
it saves a row that its reads allow. -/
def Entitled (g : Reads) : RepoOp → Prop
  | .hintFindFor _ teamId _ => teamId = some t
  | .submissionSave _ => False
  | .hintSave u =>
      u.teamId = some t ∧
      (∃ rows, g.seenFor = some (u.challengeId, rows) ∧ ∀ v ∈ rows, v.hintIndex ≠ u.hintIndex) ∧
      (mode = .gate → ∃ all, g.seenAll = some all ∧ Affords E s t all u.cost)
  | _ => True

/-- Every call the rest of a request makes is one its reads entitle it to. -/
def Follows (g : Reads) (p : Svc HintUnlockResult) : Prop :=
  Along (Steady s) Reads.tick (Entitled E mode s t) (fun _ _ => True) g p.run

variable {E mode s t}

theorem follows_ask_bind {g : Reads} {op : RepoOp} {f : op.Value → Svc HintUnlockResult}
    (hentitled : Entitled E mode s t g op)
    (hok : ∀ a, Steady s op (.ok a) → Follows E mode s t (g.tick op (.ok a)) (f a)) :
    Follows E mode s t g (ask op >>= f) :=
  along_ask_bind hentitled hok fun _ _ => trivial

theorem follows_throw {g : Reads} {e : ServiceError} : Follows E mode s t g (throw e) := trivial

theorem follows_pure {g : Reads} {a : HintUnlockResult} : Follows E mode s t g (pure a) := trivial

/-- The gate lets a request go on only when its reads cover the cost. -/
theorem checkBalance_follows {g : Reads} {rows : List HintUnlock} {challengeId : String}
    {cost : UInt32} {f : Unit → Svc HintUnlockResult}
    (hg : g.seenFor = some (challengeId, rows))
    (hf : ∀ g', g'.seenFor = some (challengeId, rows) →
      (mode = .gate → ∃ all, g'.seenAll = some all ∧ Affords E s t all cost) →
      Follows E mode s t g' (f ())) :
    Follows E mode s t g (checkBalance E mode (some t) s.submissions cost >>= f) := by
  unfold checkBalance
  cases mode with
  | gate =>
    simp only
    rw [bind_assoc]
    refine follows_ask_bind trivial fun found hfound => ?_
    obtain rfl : found = s.teams.find? t := Except.ok.inj (hfound rfl)
    cases hteam : s.teams.find? t with
    | none => exact follows_throw
    | some team =>
      simp only
      rw [bind_assoc]
      refine follows_ask_bind trivial fun challenges hchallenges => ?_
      obtain rfl : challenges = s.challenges.rows := Except.ok.inj (hchallenges rfl)
      rw [bind_assoc]
      refine follows_ask_bind trivial fun all _ => ?_
      by_cases hshort : solvePoints E team s.challenges.rows s.submissions -
          totalHintCost all (some t) none < (cost.toNat : ℤ)
      · rw [if_pos hshort]
        exact follows_throw
      · rw [if_neg hshort]
        refine hf _ hg fun _ => ⟨all, rfl, team, hteam, ?_⟩
        omega
  | _ => exact hf g hg fun h => absurd h (by simp)

/-- **What a request does on its own account**: it saves only what its reads
entitle it to. -/
theorem unlockHint_follows (req : UnlockRequest) (hteam : req.teamId = some t) :
    Follows E mode s t ⟨none, none⟩ (unlockHint E mode req) := by
  unfold unlockHint
  refine follows_ask_bind trivial fun found _ => ?_
  cases found with
  | none => exact follows_throw
  | some challenge =>
    refine follows_ask_bind trivial fun subs hsubs => ?_
    obtain rfl : subs = s.submissions := Except.ok.inj (hsubs rfl)
    unfold checkAccess
    cases accessError challenge req s.submissions with
    | some key => exact follows_throw
    | none =>
      simp only [pure_bind]
      cases challenge.hints[req.hintIndex.toNat]? with
      | none => exact follows_throw
      | some hint =>
        refine follows_ask_bind hteam fun rows _ => ?_
        cases hprior : rows.find? fun u => u.hintIndex = req.hintIndex with
        | some prior => exact follows_pure
        | none =>
          simp only
          rw [hteam]
          refine checkBalance_follows rfl fun g' hfor hall => ?_
          refine follows_ask_bind ⟨hteam, ⟨rows, hfor, ?_⟩, hall⟩ fun _ _ => follows_pure
          intro v hv
          have hne : v.hintIndex ≠ req.hintIndex := by
            simpa using List.find?_eq_none.1 hprior v hv
          exact hne

end

/-! ## Many requests -/

section

variable {ι : Type}

/-- A call made by one of the requests. -/
abbrev UnlockCall (ι : Type) : Type := Made RepoOp PgStore ι

/-- Is the call a `find_for`? -/
def isFindFor : RepoOp → Bool
  | .hintFindFor _ _ _ => true
  | _ => false

/-- Is the call a `find_all` of the unlocks? -/
def isFindAll : RepoOp → Bool
  | .hintFindAll => true
  | _ => false

/-- Between a read of a request and its save, nobody saves a row in conflict with
the one it saves. -/
def Undisturbed (reads : RepoOp → Bool) (conflict : HintUnlock → HintUnlock → Prop)
    (trace : List (UnlockCall ι)) : Prop :=
  ∀ a r b w c, trace = a ++ r :: (b ++ w :: c) → r.who = w.who → reads r.op = true →
    ∀ u, w.op = .hintSave u → ∀ e ∈ b, ∀ v, e.op = .hintSave v → ¬ conflict u v

/-- Two rows for one hint of one team. -/
def SameHint (u v : HintUnlock) : Prop :=
  u.teamId = v.teamId ∧ u.challengeId = v.challengeId ∧ u.hintIndex = v.hintIndex

/-- The requests leave each other room: none saves a hint between the `find_for`
and the save of another request for it, and in `Gate` mode none saves anything
between the `find_all` and the save of another request. -/
structure Spaced (mode : HintDeductionMode) (trace : List (UnlockCall ι)) : Prop where
  sameHint : Undisturbed isFindFor SameHint trace
  gate : mode = .gate → Undisturbed isFindAll (fun _ _ => True) trace

theorem Undisturbed.of_snoc {reads : RepoOp → Bool} {conflict : HintUnlock → HintUnlock → Prop}
    {trace : List (UnlockCall ι)} {e : UnlockCall ι}
    (h : Undisturbed reads conflict (trace ++ [e])) : Undisturbed reads conflict trace := by
  intro a r b w c htrace
  refine h a r b w (c ++ [e]) ?_
  rw [htrace]
  simp

theorem Spaced.of_snoc {mode : HintDeductionMode} {trace : List (UnlockCall ι)} {e : UnlockCall ι}
    (h : Spaced mode (trace ++ [e])) : Spaced mode trace :=
  ⟨h.sameHint.of_snoc, fun hgate => (h.gate hgate).of_snoc⟩

/-- A split of a trace with one more call is at that call, or before it. -/
theorem snoc_split {α : Type} {trace a b : List α} {e r : α} (h : trace ++ [e] = a ++ r :: b) :
    (b = [] ∧ trace = a ∧ e = r) ∨ ∃ b', b = b' ++ [e] ∧ trace = a ++ r :: b' := by
  rcases List.eq_nil_or_concat b with rfl | ⟨b', x, rfl⟩
  · left
    have h' := List.append_inj' h rfl
    exact ⟨rfl, h'.1, List.head_eq_of_cons_eq h'.2⟩
  · right
    have h' : trace ++ [e] = (a ++ r :: b') ++ [x] := by
      rw [h]
      simp
    obtain ⟨htrace, hx⟩ := List.append_inj' h' rfl
    refine ⟨b', ?_, htrace⟩
    rw [List.head_eq_of_cons_eq hx, List.concat_eq_append]

/-- A run that saves nothing before its last call disturbs nobody. -/
theorem undisturbed_of_dropLast {reads : RepoOp → Bool}
    {conflict : HintUnlock → HintUnlock → Prop} {trace : List (UnlockCall ι)}
    (h : ∀ e ∈ trace.dropLast, PgStore.isSave e.op = false) : Undisturbed reads conflict trace := by
  intro a r b w c htrace _ _ _ _ e he v hop
  have hmem : e ∈ trace.dropLast := by
    rw [htrace, ← List.cons_append, ← List.append_assoc,
      List.dropLast_append_of_ne_nil (List.cons_ne_nil w c)]
    simp [he]
  have hsave := h e hmem
  rw [hop] at hsave
  exact absurd hsave (by simp [PgStore.isSave])

variable (E : Engines) (mode : HintDeductionMode) (admits : HintUnlockRow → Bool) (p : PgStore)
  (t : TeamId)

/-- What a request has read is what the calls in the trace showed it. -/
structure Recorded (trace : List (UnlockCall ι)) (i : ι) (g : Reads) : Prop where
  seenFor : ∀ challengeId rows, g.seenFor = some (challengeId, rows) →
    ∃ a r b, trace = a ++ r :: b ∧ r.who = i ∧ isFindFor r.op = true ∧
      rows = r.before.view.hintUnlocks.filter fun u =>
        decide (u.challengeId = challengeId) && decide (u.teamId = some t)
  seenAll : ∀ rows, g.seenAll = some rows →
    ∃ a r b, trace = a ++ r :: b ∧ r.who = i ∧ isFindAll r.op = true ∧
      rows = r.before.view.hintUnlocks

/-- What holds after every call of a run of requests that started on `p`. -/
structure ChargeInv (trace : List (UnlockCall ι))
    (P : Pool RepoOp RepoOp.Resp (Except ServiceError HintUnlockResult) PgStore ι) : Prop where
  /-- Nothing but the unlocks changes. -/
  tables : P.store.tables = p.tables
  /-- Since any call, rows have only been added, by saves. -/
  grew : ∀ a r b, trace = a ++ r :: b → ∃ extra,
    P.store.view.hintUnlocks = r.before.view.hintUnlocks ++ extra ∧
      ∀ v ∈ extra, ∃ e ∈ r :: b, e.op = .hintSave v
  /-- Every request goes on as its reads entitle it to. -/
  follows : ∀ i, ∃ g, Recorded t trace i g ∧ Along (Steady p.view) Reads.tick
    (Entitled E mode p.view t) (fun _ _ => True) g (P.prog i)
  /-- No hint is charged twice. -/
  once : ChargedOnce t P.store.view.hintUnlocks
  /-- After every save the team could afford what it has unlocked. -/
  afforded : mode = .gate → ∀ e ∈ trace, ∀ u, e.op = .hintSave u →
    Affords E ((PgStore.handler admits).next e.before e.op).view t
      ((PgStore.handler admits).next e.before e.op).view.hintUnlocks 0

variable {E mode admits p t}

theorem next_tables {q : PgStore} {op : RepoOp} (h : ∀ sub, op ≠ .submissionSave sub) :
    ((PgStore.handler admits).next q op).tables = q.tables := by
  cases op with
  | submissionSave sub => exact absurd rfl (h sub)
  | hintSave u =>
    show ((q.save admits u).toOption.getD q).tables = q.tables
    unfold PgStore.save
    cases q.hintUnlocks.insert (.ofUnlock u) with
    | none => rfl
    | some rows =>
      simp only
      split <;> rfl
  | _ => rfl

/-- The answers to other calls do not depend on the unlocks. -/
theorem steady_answer {q : PgStore} (h : q.tables = p.tables) (op : RepoOp) :
    Steady p.view op ((PgStore.handler admits).answer q op) := by
  intro hother
  have hsave : PgStore.isSave op = false := by
    cases op <;> first | rfl | simp [onUnlocks] at hother
  rw [(PgStore.answer_read admits q hsave).1]
  cases op with
  | hintFindAll => simp [onUnlocks] at hother
  | hintFindFor challengeId teamId accountId => simp [onUnlocks] at hother
  | hintSave u => simp [onUnlocks] at hother
  | _ => simp only [Store.read, PgStore.view, h]

theorem Recorded.snoc {trace : List (UnlockCall ι)} {i : ι} {g : Reads} (h : Recorded t trace i g)
    (e : UnlockCall ι) : Recorded t (trace ++ [e]) i g where
  seenFor challengeId rows hrows := by
    obtain ⟨a, r, b, rfl, hwho, hread, heq⟩ := h.seenFor challengeId rows hrows
    exact ⟨a, r, b ++ [e], by simp, hwho, hread, heq⟩
  seenAll rows hrows := by
    obtain ⟨a, r, b, rfl, hwho, hread, heq⟩ := h.seenAll rows hrows
    exact ⟨a, r, b ++ [e], by simp, hwho, hread, heq⟩

/-- A request's own call is recorded with its answer. -/
theorem Recorded.tick {trace : List (UnlockCall ι)} {i : ι} {g : Reads} (h : Recorded t trace i g)
    {op : RepoOp} {q : PgStore} (hentitled : Entitled E mode p.view t g op) :
    Recorded t (trace ++ [⟨i, op, q⟩]) i (g.tick op ((PgStore.handler admits).answer q op)) := by
  have hkept := h.snoc ⟨i, op, q⟩
  cases op with
  | hintFindAll =>
    refine ⟨hkept.seenFor, fun rows hrows => ⟨trace, ⟨i, .hintFindAll, q⟩, [], rfl, rfl, rfl, ?_⟩⟩
    exact (Option.some.inj hrows).symm
  | hintFindFor challengeId teamId accountId =>
    obtain rfl : teamId = some t := hentitled
    refine ⟨fun c rows hrows => ?_, hkept.seenAll⟩
    obtain ⟨rfl, rfl⟩ : challengeId = c ∧
        PgStore.findFor q.hintUnlocks.rows challengeId (some t) accountId = rows := by
      simpa [Reads.tick, PgStore.handler] using hrows
    refine ⟨trace, ⟨i, .hintFindFor challengeId (some t) accountId, q⟩, [], rfl, rfl, rfl, ?_⟩
    rw [PgStore.findFor_eq]
    rfl
  | hintSave u =>
    cases hanswer : (PgStore.handler admits).answer q (.hintSave u) with
    | ok a => exact hkept
    | error e => exact hkept
  | _ => exact hkept

/-- A call leaves the unlocks as they are, or it is a save that adds its row. -/
theorem next_unlocks (admits : HintUnlockRow → Bool) (q : PgStore) (op : RepoOp) :
    ((PgStore.handler admits).next q op).view.hintUnlocks = q.view.hintUnlocks ∨
      ∃ u, op = .hintSave u ∧
        ((PgStore.handler admits).next q op).view.hintUnlocks = q.view.hintUnlocks ++ [u] := by
  cases hsave : PgStore.isSave op with
  | false => exact .inl (PgStore.answer_read admits q hsave).2
  | true =>
    cases op with
    | hintSave u =>
      rcases PgStore.view_save admits q u with hadded | hsame
      · exact .inr ⟨u, rfl, by rw [hadded]; rfl⟩
      · exact .inl (by rw [hsame])
    | _ => simp [PgStore.isSave] at hsave

variable {trace : List (UnlockCall ι)}
  {P : Pool RepoOp RepoOp.Resp (Except ServiceError HintUnlockResult) PgStore ι}

/-- A row that is saved in an undisturbed run is the first of its hint: its
`find_for` showed none, and since then none was saved. -/
theorem ChargeInv.save_fresh (hinv : ChargeInv E mode admits p t trace P) {i : ι} {g : Reads}
    {u : HintUnlock} (hrec : Recorded t trace i g)
    (hentitled : Entitled E mode p.view t g (.hintSave u))
    (hok : Spaced mode (trace ++ [⟨i, .hintSave u, P.store⟩])) :
    ∀ v ∈ P.store.view.hintUnlocks, v.teamId = some t → v.challengeId = u.challengeId →
      v.hintIndex ≠ u.hintIndex := by
  obtain ⟨hteam, ⟨rows, hrows, hne⟩, -⟩ := hentitled
  obtain ⟨a, r, b, htrace, hwho, hread, rfl⟩ := hrec.seenFor _ _ hrows
  obtain ⟨extra, hnow, hsaved⟩ := hinv.grew a r b htrace
  intro v hv hvteam hvchallenge hvindex
  rw [hnow, List.mem_append] at hv
  rcases hv with hv | hv
  · refine hne v (List.mem_filter.2 ⟨hv, ?_⟩) hvindex
    simp [hvteam, hvchallenge]
  · obtain ⟨e, he, hop⟩ := hsaved v hv
    rcases List.mem_cons.1 he with rfl | he
    · rw [hop] at hread
      exact absurd hread (by simp [isFindFor])
    · refine hok.sameHint a r b ⟨i, .hintSave u, P.store⟩ [] ?_ hwho hread u rfl e he v hop
        ⟨hteam.trans hvteam.symm, hvchallenge.symm, hvindex.symm⟩
      rw [htrace]
      simp

/-- In `Gate` mode the team can afford it on top of what it has now: since the
`find_all` nothing was saved. -/
theorem ChargeInv.save_affords (hinv : ChargeInv E mode admits p t trace P) {i : ι} {g : Reads}
    {u : HintUnlock} (hrec : Recorded t trace i g)
    (hentitled : Entitled E mode p.view t g (.hintSave u))
    (hok : Spaced mode (trace ++ [⟨i, .hintSave u, P.store⟩])) (hgate : mode = .gate) :
    Affords E p.view t P.store.view.hintUnlocks u.cost := by
  obtain ⟨-, -, hall⟩ := hentitled
  obtain ⟨all, hrows, haffords⟩ := hall hgate
  obtain ⟨a, r, b, htrace, hwho, hread, rfl⟩ := hrec.seenAll _ hrows
  obtain ⟨extra, hnow, hsaved⟩ := hinv.grew a r b htrace
  have hnone : extra = [] := by
    refine List.eq_nil_iff_forall_not_mem.2 fun v hv => ?_
    obtain ⟨e, he, hop⟩ := hsaved v hv
    rcases List.mem_cons.1 he with rfl | he
    · rw [hop] at hread
      exact absurd hread (by simp [isFindAll])
    · refine hok.gate hgate a r b ⟨i, .hintSave u, P.store⟩ [] ?_ hwho hread u rfl e he v hop trivial
      rw [htrace]
      simp
  rw [hnow, hnone, List.append_nil]
  exact haffords

theorem affords_of_tables {q : PgStore} (h : q.tables = p.tables) {unlocks : List HintUnlock}
    {cost : UInt32} (haffords : Affords E p.view t unlocks cost) :
    Affords E q.view t unlocks cost := by
  obtain ⟨team, hteam, hcost⟩ := haffords
  exact ⟨team, by simpa [h] using hteam, by simpa [h] using hcost⟩

/-- Right after a save in `Gate` mode the team can afford what it has unlocked. -/
theorem ChargeInv.afforded_step (hinv : ChargeInv E mode admits p t trace P) {i : ι} {g : Reads}
    {u : HintUnlock} (hrec : Recorded t trace i g)
    (hentitled : Entitled E mode p.view t g (.hintSave u))
    (hok : Spaced mode (trace ++ [⟨i, .hintSave u, P.store⟩])) (hgate : mode = .gate) :
    Affords E ((PgStore.handler admits).next P.store (.hintSave u)).view t
      ((PgStore.handler admits).next P.store (.hintSave u)).view.hintUnlocks 0 := by
  have htables : ((PgStore.handler admits).next P.store (.hintSave u)).tables = p.tables := by
    rw [next_tables (by simp), hinv.tables]
  obtain ⟨team, hteam, hcost⟩ := hinv.save_affords hrec hentitled hok hgate
  refine affords_of_tables htables ⟨team, hteam, ?_⟩
  have hzero : ((0 : UInt32).toNat : ℤ) = 0 := rfl
  rcases next_unlocks admits P.store (.hintSave u) with hsame | ⟨u', hop, hadded⟩
  · simp only [hsame]
    omega
  · obtain rfl : u = u' := RepoOp.hintSave.inj hop
    simp only [hadded]
    rw [totalHintCost_append, totalHintCost_singleton hentitled.1]
    omega

/-- After one more call, too, the rows since any call are those that were saved. -/
theorem ChargeInv.grew_step (hinv : ChargeInv E mode admits p t trace P) {i : ι} {op : RepoOp}
    {a b : List (UnlockCall ι)} {r : UnlockCall ι}
    (hsplit : trace ++ [⟨i, op, P.store⟩] = a ++ r :: b) :
    ∃ extra, ((PgStore.handler admits).next P.store op).view.hintUnlocks =
        r.before.view.hintUnlocks ++ extra ∧
      ∀ v ∈ extra, ∃ e ∈ r :: b, e.op = .hintSave v := by
  obtain ⟨added, hnow, hadded⟩ : ∃ added,
      ((PgStore.handler admits).next P.store op).view.hintUnlocks =
        P.store.view.hintUnlocks ++ added ∧ ∀ v ∈ added, op = .hintSave v := by
    rcases next_unlocks admits P.store op with hsame | ⟨u, hop, hmore⟩
    · exact ⟨[], by rw [hsame, List.append_nil], by simp⟩
    · exact ⟨[u], hmore, fun v hv => by rw [List.mem_singleton.1 hv, hop]⟩
  rcases snoc_split hsplit with ⟨rfl, -, rfl⟩ | ⟨b', rfl, htrace⟩
  · exact ⟨added, hnow, fun v hv => ⟨_, List.mem_cons_self, hadded v hv⟩⟩
  · obtain ⟨extra, hbefore, hsaved⟩ := hinv.grew a r b' htrace
    refine ⟨extra ++ added, by rw [hnow, hbefore, List.append_assoc], fun v hv => ?_⟩
    rcases List.mem_append.1 hv with hold | hnew
    · obtain ⟨e, he, hop⟩ := hsaved v hold
      exact ⟨e, List.mem_append_left [_] he, hop⟩
    · exact ⟨⟨i, op, P.store⟩, List.mem_append_right (r :: b') (List.mem_singleton_self _),
        hadded v hnew⟩

variable [DecidableEq ι]

/-- **Every call of an undisturbed run keeps the invariant.** -/
theorem ChargeInv.step (hinv : ChargeInv E mode admits p t trace P) {i : ι} {op : RepoOp}
    {k : op.Resp → Program RepoOp RepoOp.Resp (Except ServiceError HintUnlockResult)}
    (hcall : P.prog i = .call op k) (hok : Spaced mode (trace ++ [⟨i, op, P.store⟩])) :
    ChargeInv E mode admits p t (trace ++ [⟨i, op, P.store⟩])
      ⟨(PgStore.handler admits).next P.store op,
        Function.update P.prog i (k ((PgStore.handler admits).answer P.store op))⟩ := by
  obtain ⟨g, hrec, halong⟩ := hinv.follows i
  rw [hcall] at halong
  have hentitled : Entitled E mode p.view t g op := halong.guard_of_call
  have htables : ((PgStore.handler admits).next P.store op).tables = p.tables := by
    rw [next_tables ?_, hinv.tables]
    rintro sub rfl
    exact hentitled
  constructor
  · exact htables
  · intro a r b hsplit
    exact hinv.grew_step hsplit
  · intro j
    by_cases hj : j = i
    · subst hj
      refine ⟨g.tick op ((PgStore.handler admits).answer P.store op), hrec.tick hentitled, ?_⟩
      simp only [Function.update_self]
      exact halong.2 _ (steady_answer hinv.tables op)
    · obtain ⟨g', hrec', halong'⟩ := hinv.follows j
      refine ⟨g', hrec'.snoc _, ?_⟩
      simp only [Function.update_of_ne hj]
      exact halong'
  · rcases next_unlocks admits P.store op with hsame | ⟨u, rfl, hadded⟩
    · simp only [hsame]
      exact hinv.once
    · simp only [hadded]
      exact hinv.once.append (hinv.save_fresh hrec hentitled hok)
  · intro hgate e he u hop
    rcases List.mem_append.1 he with hold | hnew
    · exact hinv.afforded hgate e hold u hop
    · obtain rfl := List.mem_singleton.1 hnew
      obtain rfl : op = .hintSave u := hop
      exact hinv.afforded_step hrec hentitled hok hgate

/-- The requests of a team, next to each other on one database. -/
def requests (E : Engines) (mode : HintDeductionMode) (p : PgStore) (req : ι → UnlockRequest) :
    Pool RepoOp RepoOp.Resp (Except ServiceError HintUnlockResult) PgStore ι where
  store := p
  prog i := (unlockHint E mode (req i)).run

end

/-! ## Two requests that read first -/

/-- A challenge worth 500 points with a hint for 400. -/
def priced : Challenge :=
  { Challenge.plain "c" "warmup" ⟨.pointValue, "500"⟩ (.static "flag") with
    hints := [⟨"look closer", .fixed 400⟩] }

/-- `red` has solved `priced` and unlocked nothing. -/
def solvedOnce : PgStore where
  tables :=
    { teams := .single (.plain "red" ["alice", "bob"])
      challenges := .single priced
      submissions := [.correct "1" "c" (some "red") "alice" "flag" 500 0]
      hintUnlocks := []
      activeFlag := fun _ _ _ => none }
  hintUnlocks := .empty

/-- Alice (`true`) and Bob (`false`) ask for the hint. -/
def askTwice : Bool → UnlockRequest
  | true => ⟨"c", 0, some ⟨"red"⟩, ⟨"alice"⟩, 1, false, "u1"⟩
  | false => ⟨"c", 0, some ⟨"red"⟩, ⟨"bob"⟩, 1, false, "u2"⟩

end Cctf
