import Cctf.Api.Challenges
import Cctf.Api.Hints
import Cctf.Api.Solve

/-!
# Hidden challenges

Two states differ in a hidden challenge that nothing refers to.  A player who asks for
it should be told what is told about a challenge that does not exist.

* `PlayerRequest`, `respond` — the four requests, and what they are answered.
* `App.without` — the state without the challenge.
* `respond_views`, `submit_other`, `unlock_other` — the views and the requests about
  other challenges do not tell the states apart.
* `hidden_indistinguishable_iff` — **a player tells the states apart exactly by
  submitting to the challenge or unlocking one of its hints**.
* `hidden_told_apart` — by a flag, and by a hint.
-/

namespace Cctf

open Program SolveService

/-! ## Requests -/

/-- The requests of players that concern challenges. -/
inductive PlayerRequest where
  | list (req : ViewRequest)
  | get (req : ViewRequest) (challengeId : String)
  | submit (req : SubmitRequest)
  | unlock (req : UnlockHintRequest)

namespace PlayerRequest

/-- Who makes the request. -/
def user : PlayerRequest → AccountId
  | .list req => req.user
  | .get req _ => req.user
  | .submit req => req.user
  | .unlock req => req.user

/-- What a request that succeeds returns. -/
def Body : PlayerRequest → Type
  | .list _ => List PublicChallenge
  | .get _ _ => PublicChallenge
  | .submit _ => Submission
  | .unlock _ => HintUnlockResult

end PlayerRequest

/-- What a request is answered. -/
def respond (P : Platform) (a : App) : (r : PlayerRequest) → Response r.Body
  | .list req => (runApi a (listChallenges P req)).1
  | .get req challengeId => (runApi a (getChallenge P req challengeId)).1
  | .submit req => (runApi a (Api.submitFlag P req)).1
  | .unlock req => (runApi a (Api.unlockHint P req)).1

/-! ## The two states -/

/-- The state without a challenge. -/
def App.without (a : App) (challengeId : String) : App :=
  { a with tables := { a.tables with challenges := a.tables.challenges.erase challengeId } }

/-- No submission, hint unlock, requirement or instance refers to a challenge. -/
structure Unreferenced (a : App) (challengeId : String) : Prop where
  submissions : ∀ row ∈ a.tables.submissions, row.challengeId ≠ challengeId
  hintUnlocks : ∀ u ∈ a.tables.hintUnlocks, u.challengeId ≠ challengeId
  requirements : ∀ ch ∈ a.tables.challenges.rows, .solve challengeId ∉ ch.requirements
  instances : ∀ teamId accountId, a.tables.activeFlag challengeId teamId accountId = none

/-- The request gets as far as the challenge: it submits to it and passes the limits, or
it asks for one of its hints, and the account exists. -/
def Reaches (a : App) (challengeId : String) : PlayerRequest → Prop
  | .submit req => req.challengeId = challengeId ∧
      a.allows ("sub-ip:" ++ req.ip) req.ipCheckedAt = true ∧
      a.allows ("sub-acc:" ++ req.user.val) req.accountCheckedAt = true ∧
      (a.accounts.find? req.user).isSome = true
  | .unlock req => req.challengeId = challengeId ∧ (a.accounts.find? req.user).isSome = true
  | _ => False

section

variable {P : Platform} {a : App} {c : Challenge}

theorem find?_without (challengeId : String) :
    (a.without c.id).tables.challenges.find? challengeId =
      if challengeId = c.id then none else a.tables.challenges.find? challengeId :=
  Table.find?_erase a.tables.challenges c.id challengeId

/-! ## The views -/

/-- Neither view shows a hidden challenge to a player. -/
theorem respond_views (hc : c ∈ a.tables.challenges.rows) (hhidden : c.visibility = .hidden)
    {req : ViewRequest} (hplayer : a.isAdmin req.user = false) :
    respond P a (.list req) = respond P (a.without c.id) (.list req) ∧
      ∀ challengeId,
        respond P a (.get req challengeId) = respond P (a.without c.id) (.get req challengeId) := by
  have hplayer' : (a.without c.id).isAdmin req.user = false := hplayer
  constructor
  · show (runApi a (listChallenges P req)).1 = (runApi (a.without c.id) (listChallenges P req)).1
    rw [run_listChallenges, run_listChallenges, hplayer, hplayer']
    have hrows : ((a.without c.id).tables.challenges.rows.filter fun ch =>
        false || decide (ch.visibility ≠ .hidden)) =
          a.tables.challenges.rows.filter fun ch =>
            false || decide (ch.visibility ≠ .hidden) := by
      show (a.tables.challenges.rows.filter fun ch => ch.id ≠ c.id).filter _ = _
      rw [List.filter_filter]
      refine List.filter_congr fun ch hch => ?_
      by_cases hid : ch.id = c.id
      · obtain rfl := a.tables.challenges.eq_of_key_eq hch hc hid
        simp [hhidden]
      · simp [hid]
    rw [hrows]
    rfl
  · intro challengeId
    show (runApi a (getChallenge P req challengeId)).1 =
      (runApi (a.without c.id) (getChallenge P req challengeId)).1
    rw [run_getChallenge, run_getChallenge, hplayer, hplayer']
    rw [find?_without]
    by_cases hid : challengeId = c.id
    · subst hid
      rw [if_pos rfl, Table.find?_key hc]
      simp [hhidden]
    · rw [if_neg hid]
      rfl

/-! ## Submitting -/

/-- A submission to another challenge is answered the same. -/
theorem submit_other {req : SubmitRequest} (hother : req.challengeId ≠ c.id) :
    respond P a (.submit req) = respond P (a.without c.id) (.submit req) := by
  show (runApi a (Api.submitFlag P req)).1 = (runApi (a.without c.id) (Api.submitFlag P req)).1
  rw [Api.submitFlag_response, Api.submitFlag_response, find?_without, if_neg hother]
  have hservice : ∀ teamId,
      (runSvc (a.without c.id).tables (SolveService.submitFlag P.engines req.challengeId teamId
        req.user req.flag req.ip req.uuid req.submittedAt)).1 =
      (runSvc a.tables (SolveService.submitFlag P.engines req.challengeId teamId req.user req.flag
        req.ip req.uuid req.submittedAt)).1 := by
    intro teamId
    rw [runSvc_submitFlag, runSvc_submitFlag, find?_without, if_neg hother]
    cases a.tables.challenges.find? req.challengeId with
    | none => rfl
    | some challenge =>
      simp only [apply_ite Prod.fst]
      rfl
  simp only [hservice]
  rfl

/-- A submission to the hidden challenge tells the states apart once the request reaches
it: it is forbidden in one, and not found in the other. -/
theorem submit_hidden_iff (hc : c ∈ a.tables.challenges.rows) (hhidden : c.visibility = .hidden)
    {req : SubmitRequest} (hplayer : a.isAdmin req.user = false) (hid : req.challengeId = c.id) :
    respond P a (.submit req) = respond P (a.without c.id) (.submit req) ↔
      ¬ Reaches a c.id (.submit req) := by
  show (runApi a (Api.submitFlag P req)).1 = (runApi (a.without c.id) (Api.submitFlag P req)).1 ↔ _
  rw [Api.submitFlag_response, Api.submitFlag_response, find?_without, if_pos hid, hid,
    Table.find?_key hc]
  have hallows : ∀ key now, (a.without c.id).allows key now = a.allows key now := fun _ _ => rfl
  have haccounts : (a.without c.id).accounts = a.accounts := rfl
  simp only [Reaches, hid, true_and, hallows, haccounts]
  rw [App.isAdmin] at hplayer
  cases a.allows ("sub-ip:" ++ req.ip) req.ipCheckedAt with
  | false => simp
  | true =>
    cases a.allows ("sub-acc:" ++ req.user.val) req.accountCheckedAt with
    | false => simp
    | true =>
      cases haccount : a.accounts.find? req.user with
      | none => simp
      | some account =>
        rw [haccount] at hplayer
        have hrole : decide (account.role = .admin) = false := by
          simpa [isAdminAccount] using hplayer
        have hservice : (runSvc (a.without c.id).tables (SolveService.submitFlag P.engines c.id
            account.teamId req.user req.flag req.ip req.uuid req.submittedAt)).1 =
              .error (.invalidRequest "ctf-challenge-not-found") := by
          rw [runSvc_submitFlag, find?_without, if_pos rfl]
        simp only [Bool.and_self, if_true, hrole, Bool.not_false, Api.refusesPlayers, hhidden,
          hservice, Option.isSome_some]
        refine iff_of_false (fun hsame => ?_) (by simp)
        have hstatus := congrArg Response.status hsame
        simp [Response.error, Response.ofService, ServiceError.response, ServiceError.status]
          at hstatus

/-! ## Unlocking -/

/-- The points of a team are the same without the challenge. -/
theorem solvePoints_without (E : Engines) (team : Team) (h : Unreferenced a c.id) :
    HintService.solvePoints E team (a.without c.id).tables.challenges.rows a.tables.submissions =
      HintService.solvePoints E team a.tables.challenges.rows a.tables.submissions := by
  rw [HintService.solvePoints, HintService.solvePoints, computeTeamSolveScore_points,
    computeTeamSolveScore_points]
  refine Table.sum_map_erase a.tables.challenges c.id fun ch _ hid => ?_
  refine challengeValue_of_unsolved E team _ ?_
  rw [correctOn, List.filter_eq_nil_iff]
  intro row hrow
  have hne := h.submissions row (List.mem_filter.1 hrow).1
  rw [← hid] at hne
  simp [hne]

/-- What a team can afford is the same without the challenge. -/
theorem gateError_without (E : Engines) (mode : HintDeductionMode) (h : Unreferenced a c.id)
    (req : UnlockRequest) (cost : UInt32) :
    HintService.gateError E (a.without c.id).tables mode req cost =
      HintService.gateError E a.tables mode req cost := by
  have hteams : (a.without c.id).tables.teams = a.tables.teams := rfl
  have hsubs : (a.without c.id).tables.submissions = a.tables.submissions := rfl
  have hunlocks : (a.without c.id).tables.hintUnlocks = a.tables.hintUnlocks := rfl
  unfold HintService.gateError
  simp only [hteams, hsubs, hunlocks, solvePoints_without E _ h]

/-- The service answers the same for a hint of another challenge. -/
theorem unlockHint_without (E : Engines) (mode : HintDeductionMode) (h : Unreferenced a c.id)
    {req : UnlockRequest} (hother : req.challengeId ≠ c.id) :
    (runSvc (a.without c.id).tables (HintService.unlockHint E mode req)).1 =
      (runSvc a.tables (HintService.unlockHint E mode req)).1 := by
  have hsubs : (a.without c.id).tables.submissions = a.tables.submissions := rfl
  have hunlocks : (a.without c.id).tables.hintUnlocks = a.tables.hintUnlocks := rfl
  rw [HintService.runSvc_unlockHint, HintService.runSvc_unlockHint, find?_without, if_neg hother]
  simp only [gateError_without E mode h, hsubs, hunlocks]
  -- the same branch on both sides; only the tables differ
  cases a.tables.challenges.find? req.challengeId with
  | none => rfl
  | some challenge =>
    simp only
    cases HintService.accessError challenge req a.tables.submissions with
    | some key => rfl
    | none =>
      simp only
      cases challenge.hints[req.hintIndex.toNat]? with
      | none => rfl
      | some hint =>
        simp only
        cases (Store.unlocksFor a.tables.hintUnlocks req.challengeId req.teamId
            req.accountId).find? fun u => u.hintIndex = req.hintIndex with
        | some prior => rfl
        | none =>
          simp only
          cases HintService.gateError E a.tables mode req
            (HintService.costOf E hint req a.tables.submissions) <;> rfl

/-- A request for a hint of another challenge is answered the same. -/
theorem unlock_other (h : Unreferenced a c.id) {req : UnlockHintRequest}
    (hother : req.challengeId ≠ c.id) :
    respond P a (.unlock req) = respond P (a.without c.id) (.unlock req) := by
  show (runApi a (Api.unlockHint P req)).1 = (runApi (a.without c.id) (Api.unlockHint P req)).1
  have hservice : ∀ account, (runSvc (a.without c.id).tables (HintService.unlockHint P.engines
      P.hintDeductionMode (req.call account))).1 = (runSvc a.tables (HintService.unlockHint
        P.engines P.hintDeductionMode (req.call account))).1 :=
    fun account => unlockHint_without P.engines P.hintDeductionMode h hother
  rw [Api.unlockHint_response, Api.unlockHint_response]
  simp only [hservice]
  rfl

/-- The two refusals of a hint read differently in every language. -/
theorem locked_ne_not_found (L : Localization) (lang : String) :
    L.lookup lang "ctf-challenge-locked" ≠ L.lookup lang "ctf-challenge-not-found" := by
  rw [Localization.lookup, Localization.lookup]
  cases L.negotiate lang <;> decide +kernel

/-- A request for a hint of the hidden challenge tells the states apart once it reaches
the challenge: the messages differ. -/
theorem unlock_hidden_iff (hc : c ∈ a.tables.challenges.rows) (hhidden : c.visibility = .hidden)
    {req : UnlockHintRequest} (hplayer : a.isAdmin req.user = false)
    (hid : req.challengeId = c.id) :
    respond P a (.unlock req) = respond P (a.without c.id) (.unlock req) ↔
      ¬ Reaches a c.id (.unlock req) := by
  show (runApi a (Api.unlockHint P req)).1 = (runApi (a.without c.id) (Api.unlockHint P req)).1 ↔ _
  rw [Api.unlockHint_response, Api.unlockHint_response]
  have haccounts : (a.without c.id).accounts = a.accounts := rfl
  simp only [Reaches, hid, true_and, haccounts]
  rw [App.isAdmin] at hplayer
  cases haccount : a.accounts.find? req.user with
  | none => simp
  | some account =>
    rw [haccount] at hplayer
    have hrole : decide (account.role = .admin) = false := by
      simpa [isAdminAccount] using hplayer
    have hcall : (req.call account).challengeId = c.id := hid
    have hrefused : (runSvc a.tables (HintService.unlockHint P.engines P.hintDeductionMode
        (req.call account))).1 = .error (.invalidRequest "ctf-challenge-locked") := by
      rw [HintService.runSvc_unlockHint, hcall, Table.find?_key hc]
      simp [HintService.accessError, UnlockHintRequest.call, hrole, hhidden]
    have hmissing : (runSvc (a.without c.id).tables (HintService.unlockHint P.engines
        P.hintDeductionMode (req.call account))).1 =
          .error (.invalidRequest "ctf-challenge-not-found") := by
      rw [HintService.runSvc_unlockHint, hcall, find?_without, if_pos rfl]
    simp only [hrefused, hmissing, Option.isSome_some]
    refine iff_of_false (fun hsame => ?_) (by simp)
    have hbody := congrArg Response.body hsame
    simp only [Response.ofService, ServiceError.response, Response.error, ServiceError.localize,
      Except.error.injEq] at hbody
    exact locked_ne_not_found _ _ hbody

/-- **When a hidden challenge looks as if it did not exist**: every player's request is
answered the same with it and without it, except for the submissions to it and the
requests for its hints that reach it. -/
theorem hidden_indistinguishable_iff (hc : c ∈ a.tables.challenges.rows)
    (hhidden : c.visibility = .hidden) (halone : Unreferenced a c.id) {r : PlayerRequest}
    (hplayer : a.isAdmin r.user = false) :
    respond P a r = respond P (a.without c.id) r ↔ ¬ Reaches a c.id r := by
  cases r with
  | list req => exact iff_of_true (respond_views hc hhidden hplayer).1 (fun h => h)
  | get req challengeId =>
    exact iff_of_true ((respond_views hc hhidden hplayer).2 challengeId) (fun h => h)
  | submit req =>
    by_cases hid : req.challengeId = c.id
    · exact submit_hidden_iff hc hhidden hplayer hid
    · exact iff_of_true (submit_other hid) fun h => hid h.1
  | unlock req =>
    by_cases hid : req.challengeId = c.id
    · exact unlock_hidden_iff hc hhidden hplayer hid
    · exact iff_of_true (unlock_other halone hid) fun h => hid h.1

end

/-! ## Asking for a hidden challenge -/

/-- A hidden challenge with a hint. -/
def draft : Challenge :=
  { Challenge.plain "draft" "Draft" ⟨.pointValue, "100"⟩ (.static "flag") with
    hints := [⟨"soon", .fixed 0⟩]
    visibility := .hidden }

/-- Alice plays, and nobody has submitted anything. -/
def withDraft : App :=
  .fresh
    { teams := .empty
      challenges := .single draft
      submissions := []
      hintUnlocks := []
      activeFlag := fun _ _ _ => none }
    (.single (.plain "alice" none))

theorem draft_unreferenced : Unreferenced withDraft draft.id where
  submissions := by simp [withDraft, App.fresh]
  hintUnlocks := by simp [withDraft, App.fresh]
  requirements := by simp [withDraft, App.fresh, draft, Challenge.plain]
  instances := fun _ _ => rfl

/-- Alice sends a flag to the hidden challenge. -/
def submitDraft : SubmitRequest where
  user := ⟨"alice"⟩
  ip := "10.0.0.1"
  lang := "en"
  challengeId := "draft"
  flag := "guess"
  ipCheckedAt := 0
  accountCheckedAt := 0
  uuid := "1"
  submittedAt := 0
  notificationId := "2"
  notifiedAt := 0

/-- The condition on a view of it. -/
theorem hidden_indistinguishable_iff_view :
    respond .plain withDraft (.get ⟨⟨"alice"⟩, "en", 0⟩ "draft") =
        respond .plain (withDraft.without draft.id) (.get ⟨⟨"alice"⟩, "en", 0⟩ "draft") ↔
      ¬ Reaches withDraft draft.id (.get ⟨⟨"alice"⟩, "en", 0⟩ "draft") :=
  hidden_indistinguishable_iff (List.mem_singleton_self _) rfl draft_unreferenced rfl

/-- **The hidden challenge gives itself away.**  A flag for it is forbidden with 403, and
a hint of it is locked; had it not existed, both would have been answered with 400 and
another message. -/
theorem hidden_told_apart :
    Unreferenced withDraft draft.id ∧ draft.visibility = .hidden ∧
      withDraft.isAdmin ⟨"alice"⟩ = false ∧
      (respond .plain withDraft (.submit submitDraft)).status = 403 ∧
      (respond .plain (withDraft.without draft.id) (.submit submitDraft)).status = 400 ∧
      respond .plain withDraft (.unlock ⟨⟨"alice"⟩, "en", "draft", 0, 0, "3"⟩) ≠
        respond .plain (withDraft.without draft.id)
          (.unlock ⟨⟨"alice"⟩, "en", "draft", 0, 0, "3"⟩) := by
  refine ⟨draft_unreferenced, rfl, rfl, by decide +kernel, by decide +kernel, fun hsame => ?_⟩
  have hbody := congrArg Response.body hsame
  have hlocked : (respond .plain withDraft (.unlock ⟨⟨"alice"⟩, "en", "draft", 0, 0, "3"⟩)).body =
      .error "This challenge is locked" := by rfl
  have hmissing : (respond .plain (withDraft.without draft.id)
      (.unlock ⟨⟨"alice"⟩, "en", "draft", 0, 0, "3"⟩)).body = .error "Challenge not found" := by rfl
  rw [hlocked, hmissing] at hbody
  exact absurd (Except.error.inj hbody) (by decide)

end Cctf
