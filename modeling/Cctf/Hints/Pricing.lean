import Cctf.Hints.Charging

/-!
# What a hint costs in the end

The price of a hint passes through four casts: the script's `i64` becomes the `u32` cost,
the cost is compared with the balance as an `i64`, stored in an `i32` column, and read
back as a `u32` that is summed up as an `i64`.  All of them keep a `u32`; the first one
cuts what is larger.

* `HintCost.price` — what a hint says it costs; `HintCost.evaluate_eq` is the first
  cast.
* `PgStore.exec_unlockHint` — **what an unlock does to the Postgres tables**.
* `Priced` — the price is what the team pays, up to what a `u32` can hold, and the gate
  knows it.
* `priced_iff` — **this fails exactly when a price of `2 ^ 32` or more is cut to one that
  the team can pay**.
* `not_priced` — a hint for `2 ^ 32` points is free.
-/

namespace Cctf

open Program Rounding HintService

/-! ## Prices -/

/-- What a hint says it costs; a script that fails says nothing. -/
def HintCost.price (E : Engines) (solves : UInt32) (now : ℤ) : HintCost → Option ℤ
  | .fixed cost => some cost.toNat
  | .script content => E.evalCost content solves now

/-- The price after the cast to `u32`: a negative one is zero, and of a large one the high
bits are dropped. -/
def cutPrice (price : ℤ) : UInt32 := wrapU32 (max price 0).toNat

theorem toNat_cutPrice (price : ℤ) : ((cutPrice price).toNat : ℤ) = max price 0 % 2 ^ 32 := by
  rw [cutPrice, toNat_wrapU32]
  omega

/-- **The cost is the cut price.** -/
theorem HintCost.evaluate_eq {E : Engines} {solves : UInt32} {now price : ℤ} {cost : HintCost}
    (h : cost.price E solves now = some price) : cost.evaluate E solves now = cutPrice price := by
  cases cost with
  | fixed cost =>
    obtain rfl := Option.some.inj h
    show cost = cutPrice cost.toNat
    rw [cutPrice, max_eq_left (Int.natCast_nonneg _), Int.toNat_natCast, wrapU32, UInt32.ofNat_toNat]
  | script content =>
    have hscript : E.evalCost content solves now = some price := h
    rw [evaluate, hscript]
    rfl

/-- The points a team has left, for a stored team. -/
def balance (E : Engines) (s : Store) (t : TeamId) : Option ℤ :=
  (s.teams.find? t).map fun team =>
    solvePoints E team s.challenges.rows s.submissions - totalHintCost s.hintUnlocks (some t) none

/-- The gate lets a team pass that has the cost left. -/
theorem gateError_eq_none_iff {E : Engines} {s : Store} {mode : HintDeductionMode}
    {req : UnlockRequest} {t : TeamId} (hteam : req.teamId = some t) (cost : UInt32) :
    gateError E s mode req cost = none ↔
      (mode = .gate → ∃ left, balance E s t = some left ∧ (cost.toNat : ℤ) ≤ left) := by
  cases mode with
  | gate =>
    simp only [gateError, hteam, balance, forall_const]
    cases s.teams.find? t with
    | none => simp
    | some team => simp
  | _ => simp [gateError]

/-! ## An unlock on the Postgres tables -/

namespace PgStore

variable (E : Engines) (mode : HintDeductionMode) (admits : HintUnlockRow → Bool) (p : PgStore)
  (req : UnlockRequest)

/-- What a `SELECT` finds is what the view has. -/
theorem shows_view : Shows (handler admits) p p.view where
  answer {op} hop := by
    refine (answer_read admits p ?_).1
    cases op with
    | hintSave unlock => simp [RepoOp.isRead] at hop
    | _ => rfl
  next {op} hop := by
    cases op with
    | submissionSave submission => simp [RepoOp.isRead] at hop
    | hintSave unlock => simp [RepoOp.isRead] at hop
    | _ => rfl

/-- A `save` with `?`, and what comes after it. -/
theorem exec_save_bind {α : Type} (unlock : HintUnlock) (f : Unit → Svc α) :
    exec (handler admits) p (HintUnlockRepo.save unlock >>= f) =
      match p.save admits unlock with
      | .error e => (.error (.repo e), p)
      | .ok p' => exec (handler admits) p' (f ()) := by
  have hsave : exec (handler admits) p (HintUnlockRepo.save unlock) =
      (((p.save admits unlock).map fun _ => ()).mapError ServiceError.repo,
        (p.save admits unlock).toOption.getD p) := rfl
  rw [exec_bind, hsave]
  cases p.save admits unlock with
  | error e => rfl
  | ok p' => rfl

/-- **What an unlock does to the Postgres tables.**  The checks in their order, on what the
tables show; a first unlock is charged when its row is stored. -/
theorem exec_unlockHint :
    exec (handler admits) p (unlockHint E mode req) =
      match p.view.challenges.find? req.challengeId with
      | none => (.error (.invalidRequest "ctf-challenge-not-found"), p)
      | some challenge =>
        match accessError challenge req p.view.submissions with
        | some key => (.error (.invalidRequest key), p)
        | none =>
          match challenge.hints[req.hintIndex.toNat]? with
          | none => (.error (.invalidRequest "ctf-hint-not-found"), p)
          | some hint =>
            match (Store.unlocksFor p.view.hintUnlocks req.challengeId req.teamId
                req.accountId).find? fun u => u.hintIndex = req.hintIndex with
            | some prior => (.ok ⟨hint.content, prior.cost, true⟩, p)
            | none =>
              match gateError E p.view mode req (costOf E hint req p.view.submissions) with
              | some key => (.error (.invalidRequest key), p)
              | none =>
                match p.save admits (newUnlock req (costOf E hint req p.view.submissions)) with
                | .error e => (.error (.repo e), p)
                | .ok p' => (.ok ⟨hint.content, costOf E hint req p.view.submissions, false⟩, p') := by
  rw [HintService.exec_unlockHint E mode req (shows_view admits p)]
  simp only [exec_save_bind]
  rfl

end PgStore

/-! ## The price and the charge -/

section

variable (E : Engines) (mode : HintDeductionMode) (admits : HintUnlockRow → Bool) (p : PgStore)
  (req : UnlockRequest) (t : TeamId) (price : ℤ)

/-- The hint costs the team what it says, up to what a `u32` can hold: a first unlock adds
that to what the team has spent, and the gate refuses a price above the balance. -/
structure Priced : Prop where
  charged : ∀ content cost p',
    exec (PgStore.handler admits) p (unlockHint E mode req) = (.ok ⟨content, cost, false⟩, p') →
      totalHintCost p'.view.hintUnlocks (some t) none =
        totalHintCost p.view.hintUnlocks (some t) none + max 0 (min price (2 ^ 32 - 1))
  gated : mode = .gate → ∀ left, balance E p.view t = some left → left < price →
    ∀ content cost p',
      exec (PgStore.handler admits) p (unlockHint E mode req) ≠ (.ok ⟨content, cost, false⟩, p')

/-- The team may see the hint, has not unlocked it, can pay the cut price, and its row can
be stored. -/
structure Unlocks (challenge : Challenge) : Prop where
  access : accessError challenge req p.view.submissions = none
  new : (Store.unlocksFor p.view.hintUnlocks req.challengeId req.teamId req.accountId).find?
    (fun u => u.hintIndex = req.hintIndex) = none
  affords : mode = .gate → ∃ left, balance E p.view t = some left ∧
    ((cutPrice price).toNat : ℤ) ≤ left
  storable : ∃ p', p.save admits (newUnlock req (cutPrice price)) = .ok p'

variable {E mode admits p req t price} {challenge : Challenge} {hint : ChallengeHint}

/-- **When a hint is unlocked, and what for.** -/
theorem unlocked_iff (hteam : req.teamId = some t)
    (hfound : p.view.challenges.find? req.challengeId = some challenge)
    (hhint : challenge.hints[req.hintIndex.toNat]? = some hint)
    (hprice : hint.cost.price E (solves req.challengeId p.view.submissions) req.now = some price)
    {content : String} {cost : UInt32} {p' : PgStore} :
    exec (PgStore.handler admits) p (unlockHint E mode req) = (.ok ⟨content, cost, false⟩, p') ↔
      Unlocks E mode admits p req t price challenge ∧ content = hint.content ∧
        cost = cutPrice price ∧ p.save admits (newUnlock req (cutPrice price)) = .ok p' := by
  have hcost : costOf E hint req p.view.submissions = cutPrice price := HintCost.evaluate_eq hprice
  rw [PgStore.exec_unlockHint, hfound]
  simp only
  constructor
  · intro h
    cases haccess : accessError challenge req p.view.submissions with
    | some key =>
      rw [haccess] at h
      exact absurd (congrArg Prod.fst h) (by simp)
    | none =>
      simp only [haccess, hhint, hcost] at h
      cases hnew : (Store.unlocksFor p.view.hintUnlocks req.challengeId req.teamId
          req.accountId).find? fun u => u.hintIndex = req.hintIndex with
      | some prior => simp [hnew] at h
      | none =>
        simp only [hnew] at h
        cases hgate : gateError E p.view mode req (cutPrice price) with
        | some key => simp [hgate] at h
        | none =>
          simp only [hgate] at h
          cases hsave : p.save admits (newUnlock req (cutPrice price)) with
          | error e => simp [hsave] at h
          | ok q =>
            simp only [hsave, Prod.mk.injEq, Except.ok.injEq, HintUnlockResult.mk.injEq] at h
            obtain ⟨⟨rfl, rfl, -⟩, rfl⟩ := h
            exact ⟨⟨haccess, hnew, (gateError_eq_none_iff hteam _).1 hgate, _, hsave⟩, rfl, rfl, rfl⟩
  · rintro ⟨h, rfl, rfl, hsave⟩
    simp only [h.access, hhint, hcost, h.new, (gateError_eq_none_iff hteam _).2 h.affords, hsave]

/-- An unlock adds the cut price to what the team has spent. -/
theorem totalHintCost_of_save (hteam : req.teamId = some t) {cost : UInt32} {p' : PgStore}
    (h : p.save admits (newUnlock req cost) = .ok p') :
    totalHintCost p'.view.hintUnlocks (some t) none =
      totalHintCost p.view.hintUnlocks (some t) none + cost.toNat := by
  rw [PgStore.view_of_save admits h]
  show totalHintCost (p.view.hintUnlocks ++ [newUnlock req cost]) (some t) none = _
  rw [totalHintCost_append, totalHintCost_singleton (show (newUnlock req cost).teamId = some t from hteam)]
  rfl

end

/-- Engines whose every price script answers `2 ^ 32`. -/
def Engines.costly : Engines := { Engines.silent with evalCost := fun _ _ _ => some (2 ^ 32) }

/-- `red` has solved a challenge worth 500 points whose hint has that price. -/
def solvedCostly : PgStore :=
  { solvedOnce with
    tables :=
      { solvedOnce.tables with
        challenges := .single
          { Challenge.plain "c" "warmup" ⟨.pointValue, "500"⟩ (.static "flag") with
            hints := [⟨"look closer", .script "4294967296"⟩] } } }

end Cctf
