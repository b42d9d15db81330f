import Cctf.Access.Areas
import Cctf.Library.SlidingWindow
import Mathlib.Algebra.Order.Group.Int
import Mathlib.Data.Finset.Card

/-!
# The rate limits of the API

How many attempts get past the limiter, when requests of any kind run next to each other.

* `checkOf` — the checks of a key in a trace; `exactFrom_checks` is that **they are those of a
  sliding window**, whatever the server does between them.
* `limits` — the keys under which a request is counted, with their limits and times.
* `handle_meters` — **nothing is called before the limiter has let the request pass**, under
  each of its keys.
* `attempts_le` — in no minute more attempts get past the limiter than it allows; so no address
  tries more than five passwords (`passwords_bounded`), and no account more than ten flags
  (`flags_bounded`).
-/

namespace Cctf

open Program Pg Knowledge

/-! ## The limiter of the server -/

namespace Server

variable {B : Backend} {s : Server}

/-- The limiter answers without faults. -/
theorem answer_checkLimit (key : String) (limit : ℕ) (windowSecs now : ℤ) :
    (handler B).answer s (.app (.checkLimit key limit windowSecs now)) =
      decide ((s.recent key windowSecs now).length < limit) := by
  rcases serve_cases (B := B) (s := s) (.app (.checkLimit key limit windowSecs now)) with
    ⟨f, r, hfailed, -⟩ | heq
  · cases hfailed
  · exact congrArg Prod.fst heq

theorem requests_checkLimit (key : String) (limit : ℕ) (windowSecs now : ℤ) :
    ((handler B).next s (.app (.checkLimit key limit windowSecs now))).requests =
      Function.update s.requests key
        (if (s.recent key windowSecs now).length < limit then s.recent key windowSecs now ++ [now]
          else s.recent key windowSecs now) := by
  rcases serve_cases (B := B) (s := s) (.app (.checkLimit key limit windowSecs now)) with
    ⟨f, r, hfailed, -⟩ | heq
  · cases hfailed
  · exact congrArg (fun p => p.2.requests) heq

/-- Other calls leave the times of a key. -/
theorem requests_next {op : ServerOp} {key : String}
    (h : ∀ limit windowSecs now, op ≠ .app (.checkLimit key limit windowSecs now)) :
    ((handler B).next s op).requests key = s.requests key := by
  rcases serve_cases (B := B) (s := s) op with ⟨f, r, -, heq⟩ | heq
  · exact congrArg (fun p => p.2.requests key) heq
  · show (s.serve B op).2.requests key = _
    rw [heq]
    cases op with
    | query q =>
      rw [perform, performQuery]
      split <;> rfl
    | challenge st =>
      rw [perform, performChallenge]
      split <;> rfl
    | file op =>
      rw [perform, performFile]
      split <;> rfl
    | notice op =>
      cases op with
      | notificationSave n =>
        rw [perform, performNotice]
        split <;> rfl
      | _ => rfl
    | app op =>
      cases op with
      | checkLimit key' limit windowSecs now =>
        have hkey : key ≠ key' := fun heq => h limit windowSecs now (by rw [heq])
        exact Function.update_of_ne hkey _ _
      | repo op =>
        cases op with
        | challengeFindById id =>
          rw [perform, performApp, performRepo]
          split <;> rfl
        | hintSave unlock =>
          rw [perform, performApp, performRepo]
          split <;> rfl
        | _ => rfl
      | _ => rfl

end Server

/-! ## The checks of a key -/

section

variable {ι : Type}

/-- When a call is checked, if it is a check. -/
def checkedAt (e : Made ServerOp Server ι) : Option ℤ :=
  match e.op with
  | .app (.checkLimit _ _ _ now) => some now
  | _ => none

/-- The checks come in the order of their times, though a time is read before the lock is taken. -/
def Clocked (trace : List (Made ServerOp Server ι)) : Prop :=
  (trace.filterMap checkedAt).Pairwise (· ≤ ·)

/-- A check of the key, with its answer. -/
def checkOf (key : String) (e : Made ServerOp Server ι) : Option (SlidingWindow.Outcome Unit ℤ) :=
  match e.op with
  | .app (.checkLimit key' limit windowSecs now) =>
    if key' = key then
      some ⟨⟨(), now⟩, decide ((e.before.recent key windowSecs now).length < limit)⟩
    else none
  | _ => none

theorem checkedAt_of_checkOf {key : String} {e : Made ServerOp Server ι}
    {o : SlidingWindow.Outcome Unit ℤ}
    (h : checkOf key e = some o) : checkedAt e = some o.call.time := by
  rw [checkOf] at h
  split at h
  · rename_i key' limit windowSecs now hop
    split_ifs at h
    cases h
    rw [checkedAt, hop]
  · cases h

/-- All checks of the key have one limit and one window. -/
def Uniform (key : String) (limit : ℕ) (windowSecs : ℤ) (trace : List (Made ServerOp Server ι)) :
    Prop :=
  ∀ e ∈ trace, ∀ limit' windowSecs' now,
    e.op = .app (.checkLimit key limit' windowSecs' now) → limit' = limit ∧ windowSecs' = windowSecs

theorem pairwise_checks (key : String) {trace : List (Made ServerOp Server ι)}
    (h : Clocked trace) :
    (trace.filterMap (checkOf key)).Pairwise fun o o' => o.call.time ≤ o'.call.time := by
  rw [Clocked, List.pairwise_filterMap] at h
  rw [List.pairwise_filterMap]
  refine h.imp fun hle o ho o' ho' => ?_
  exact hle _ (checkedAt_of_checkOf ho) _ (checkedAt_of_checkOf ho')

/-- The checks come in the order of their times, and the key has one limit and one window. -/
structure Timed (key : String) (limit : ℕ) (windowSecs : ℤ)
    (trace : List (Made ServerOp Server ι)) : Prop where
  clocked : Clocked trace
  uniform : Uniform key limit windowSecs trace

/-- The checks of the key are those of a sliding window so far, and so will be the next one. -/
structure WindowSoFar (key : String) (limit : ℕ) (windowSecs : ℤ)
    (trace : List (Made ServerOp Server ι)) (Q : Serves ι) : Prop where
  exact : SlidingWindow.ExactFrom (fun _ => limit) (fun _ => windowSecs) []
    (trace.filterMap (checkOf key))
  tracks : SlidingWindow.Tracks (fun _ => windowSecs) (fun _ : Unit => Q.store.requests key)
    (trace.filterMap (checkOf key))

/-- **A check of the key is one of the window.** -/
theorem WindowSoFar.check {B : Backend} {key : String} {limit : ℕ} {windowSecs now : ℤ}
    {trace : List (Made ServerOp Server ι)} {Q Q' : Serves ι} {i : ι}
    (h : WindowSoFar key limit windowSecs trace Q)
    (hclock : Clocked (trace ++ [⟨i, .app (.checkLimit key limit windowSecs now), Q.store⟩]))
    (hstore : Q'.store =
      (Server.handler B).next Q.store (.app (.checkLimit key limit windowSecs now))) :
    WindowSoFar key limit windowSecs
      (trace ++ [⟨i, .app (.checkLimit key limit windowSecs now), Q.store⟩]) Q' := by
  have hnew : [(⟨i, .app (.checkLimit key limit windowSecs now), Q.store⟩ :
      Made ServerOp Server ι)].filterMap (checkOf key) =
      [⟨⟨(), now⟩, SlidingWindow.admits (fun _ => limit) (fun _ => windowSecs)
        (fun _ : Unit => Q.store.requests key) ⟨(), now⟩⟩] := by
    simp only [checkOf, List.filterMap_cons, List.filterMap_nil, if_pos]
    rfl
  have hlast : ∀ o ∈ trace.filterMap (checkOf key), o.call.time ≤ now := by
    have hpairwise := pairwise_checks key hclock
    rw [List.filterMap_append, hnew, List.pairwise_append] at hpairwise
    exact fun o ho => hpairwise.2.2 o ho _ (List.mem_singleton_self _)
  have htimes : SlidingWindow.next (fun _ => limit) (fun _ => windowSecs)
      (fun _ : Unit => Q.store.requests key) ⟨(), now⟩ = fun _ => Q'.store.requests key := by
    funext u
    rw [hstore, Server.requests_checkLimit, Function.update_self, SlidingWindow.next]
    exact Function.update_self _ _ _
  constructor
  · rw [List.filterMap_append, hnew]
    refine SlidingWindow.exactFrom_append.mpr ⟨h.exact, ?_, trivial⟩
    rw [List.nil_append, ← h.tracks () now hlast]
    exact decide_eq_true_iff
  · rw [List.filterMap_append, hnew, ← htimes]
    exact h.tracks.next (⟨(), now⟩ : SlidingWindow.Call Unit ℤ)

/-- Other calls leave the window. -/
theorem WindowSoFar.other {B : Backend} {key : String} {limit : ℕ} {windowSecs : ℤ}
    {trace : List (Made ServerOp Server ι)} {Q Q' : Serves ι} {i : ι} {op : ServerOp}
    (h : WindowSoFar key limit windowSecs trace Q)
    (hop : ∀ limit' windowSecs' now, op ≠ .app (.checkLimit key limit' windowSecs' now))
    (hstore : Q'.store = (Server.handler B).next Q.store op) :
    WindowSoFar key limit windowSecs (trace ++ [⟨i, op, Q.store⟩]) Q' := by
  have hnone : checkOf key (⟨i, op, Q.store⟩ : Made ServerOp Server ι) = none := by
    rw [checkOf]
    split
    · rename_i key' limit' windowSecs' now heq
      rw [if_neg]
      rintro rfl
      exact hop _ _ _ heq
    · rfl
  have hchecks : (trace ++ [(⟨i, op, Q.store⟩ : Made ServerOp Server ι)]).filterMap
      (checkOf key) = trace.filterMap (checkOf key) := by
    rw [List.filterMap_append, List.filterMap_cons_none hnone, List.filterMap_nil, List.append_nil]
  have hstays : Q'.store.requests key = Q.store.requests key := by
    rw [hstore, Server.requests_next hop]
  constructor
  · rw [hchecks]
    exact h.exact
  · rw [hchecks, hstays]
    exact h.tracks

variable [DecidableEq ι]

/-- **The checks of a key are those of a sliding window**, whatever the server does between
them. -/
theorem exactFrom_checks {B : Backend} {P : Serves ι} {key : String} {limit : ℕ} {windowSecs : ℤ}
    (hfresh : P.store.requests key = []) (schedule : List ι)
    (htimed : Timed key limit windowSecs (P.trace (Server.handler B) schedule)) :
    SlidingWindow.ExactFrom (fun _ => limit) (fun _ => windowSecs) []
      ((P.trace (Server.handler B) schedule).filterMap (checkOf key)) := by
  have hstart : WindowSoFar key limit windowSecs [] P :=
    ⟨trivial, fun k t _ => by simp [hfresh]⟩
  have hrun : WindowSoFar key limit windowSecs (P.trace (Server.handler B) schedule)
      (P.run (Server.handler B) schedule) := by
    refine Pool.run_invariant ?_ hstart ?_ schedule htimed
    · rintro trace e ⟨hclock, huniform⟩
      refine ⟨?_, fun e' he' => huniform e' (List.mem_append_left _ he')⟩
      rw [Clocked, List.filterMap_append] at hclock
      exact (List.pairwise_append.mp hclock).1
    · rintro trace Q i op k h - ⟨hclock, huniform⟩
      by_cases hcheck : ∃ limit' windowSecs' now,
          op = .app (.checkLimit key limit' windowSecs' now)
      · obtain ⟨limit', windowSecs', now, rfl⟩ := hcheck
        have hlast := huniform _ (List.mem_append_right _ (List.mem_singleton_self _)) _ _ _ rfl
        obtain ⟨rfl, rfl⟩ := hlast
        exact h.check hclock rfl
      · exact h.other (fun limit' windowSecs' now heq => hcheck ⟨_, _, _, heq⟩) rfl
  exact hrun.exact

end

/-! ## The keys of a request -/

section

variable (D : Deployment) (req : HttpRequest)

/-- The keys under which a request is counted, each with its limit and its time. -/
def Deployment.limits : List (String × ℕ × ℤ) :=
  match req.endpoint with
  | .register _ _ checkedAt _ _ _ => [("auth-ip:" ++ D.ip req, 5, checkedAt)]
  | .login checkedAt _ _ _ => [("auth-ip:" ++ D.ip req, 5, checkedAt)]
  | .submitFlag submit => ("sub-ip:" ++ D.ip req, 10, submit.ipCheckedAt) ::
    (D.user req).toOption.toList.map fun id => ("sub-acc:" ++ id.val, 10, submit.accountCheckedAt)
  | _ => []

/-- A call that is no check. -/
def ServerOp.Unlimited : ServerOp → Prop
  | .app (.checkLimit _ _ _ _) => False
  | _ => True

instance : DecidablePred ServerOp.Unlimited
  | .query _ => isTrue trivial
  | .challenge _ => isTrue trivial
  | .file _ => isTrue trivial
  | .notice _ => isTrue trivial
  | .app (.checkLimit _ _ _ _) => isFalse id
  | .app (.accountFindById _) => isTrue trivial
  | .app (.repo _) => isTrue trivial
  | .app (.broadcast _) => isTrue trivial

/-- The key of a check that lets the request pass. -/
def ServerOp.passed : (op : ServerOp) → op.Resp → List String
  | .app (.checkLimit key _ _ _), true => [key]
  | _, _ => []

/-- What a request may call, by the keys under which it has passed. -/
def Deployment.Metered (passed : List String) : ServerOp → Prop
  | .app (.checkLimit key limit windowSecs now) =>
    (key, limit, now) ∈ D.limits req ∧ windowSecs = 60
  | _ => ∀ key limit now, (key, limit, now) ∈ D.limits req → key ∈ passed

/-- The checks that let a request pass, as what it knows. -/
def Deployment.meter : Knowledge ServerOp ServerOp.Resp String where
  may _ _ := True
  shown := ServerOp.passed
  guard := D.Metered req

variable {D req}

/-- A key is for one limit. -/
theorem limit_of_key {key : String} {limit : ℕ} {now : ℤ} (h : (key, limit, now) ∈ D.limits req) :
    limit = if key.toList.head? = some 'a' then 5 else 10 := by
  rw [Deployment.limits] at h
  cases hreq : req.endpoint with
  | register salt fresh checkedAt username email password =>
    simp only [hreq, List.mem_singleton, Prod.mk.injEq] at h
    obtain ⟨rfl, rfl, -⟩ := h
    simp
  | login checkedAt username password now =>
    simp only [hreq, List.mem_singleton, Prod.mk.injEq] at h
    obtain ⟨rfl, rfl, -⟩ := h
    simp
  | submitFlag submit =>
    simp only [hreq, List.mem_cons, List.mem_map, Prod.mk.injEq] at h
    rcases h with ⟨rfl, rfl, -⟩ | ⟨id, -, rfl, rfl, -⟩
    · simp
    · simp
  | _ => simp [hreq] at h

/-- A request is counted once under a key. -/
theorem time_of_key {key : String} {limit limit' : ℕ} {now now' : ℤ}
    (h : (key, limit, now) ∈ D.limits req) (h' : (key, limit', now') ∈ D.limits req) :
    now = now' := by
  rw [Deployment.limits] at h h'
  cases hreq : req.endpoint with
  | register salt fresh checkedAt username email password =>
    simp only [hreq, List.mem_singleton, Prod.mk.injEq] at h h'
    rw [h.2.2, h'.2.2]
  | login checkedAt username password now =>
    simp only [hreq, List.mem_singleton, Prod.mk.injEq] at h h'
    rw [h.2.2, h'.2.2]
  | submitFlag submit =>
    simp only [hreq, List.mem_cons, List.mem_map, Prod.mk.injEq] at h h'
    rcases h with ⟨rfl, -, rfl⟩ | ⟨id, -, rfl, -, rfl⟩
    · rcases h' with ⟨-, -, rfl⟩ | ⟨id, -, heq, -⟩
      · rfl
      · exact absurd heq (Api.limit_keys_ne _ _)
    · rcases h' with ⟨heq, -⟩ | ⟨id', -, -, -, rfl⟩
      · exact absurd heq (Api.limit_keys_ne _ _)
      · rfl
  | _ => simp [hreq] at h

/-! ## Nothing before the limiter -/

variable {α : Type} {known : List String}

/-- Behind the limiter everything may be called. -/
theorem learns_unlimited (hpassed : ∀ key limit now, (key, limit, now) ∈ D.limits req → key ∈ known)
    {p : Serving α} (h : p.Calls ServerOp.Unlimited) :
    (D.meter req).Learns known p fun _ _ => True := by
  refine Learns.of_calls (fun known' op hsub hop => ?_) (fun _ _ _ => trivial) h
  have hall : ∀ key limit now, (key, limit, now) ∈ D.limits req → key ∈ known' :=
    fun key limit now hkey => hsub (hpassed key limit now hkey)
  cases op with
  | app op =>
    cases op with
    | checkLimit key limit windowSecs now => exact hop.elim
    | _ => exact hall
  | _ => exact hall

/-- The same in programs of the players' handlers. -/
def Deployment.appMeter (D : Deployment) (req : HttpRequest) :
    Knowledge AppOp AppOp.Resp String where
  may _ _ := True
  shown op r := ServerOp.passed (.app op) r
  guard passed op := D.Metered req passed (.app op)

theorem learns_onMeter {p : Api α} {P : List String → α → Prop}
    (h : (D.appMeter req).Learns known p P) : (D.meter req).Learns known (onApp p) P := by
  refine Learns.lift ?_ ?_ ?_ h
  · exact fun _ _ hr => hr
  · exact fun _ _ => rfl
  · exact fun _ _ hguard => hguard

/-- A check of the limiter. -/
theorem learns_limited {key : String} {limit : ℕ} {now : ℤ}
    (hkey : (key, limit, now) ∈ D.limits req) :
    (D.appMeter req).Learns known (checkLimit key limit 60 now) fun known' allowed =>
      allowed = true → key ∈ known' := by
  refine Learns.call ⟨hkey, rfl⟩ fun (allowed : Bool) _ => Learns.pure ?_
  rintro rfl
  exact List.mem_cons_self

theorem unlimited_onDatabase (p : Program Query Query.Resp α) :
    (onDatabase p).Calls ServerOp.Unlimited :=
  Calls.lift (Calls.of_forall (fun _ => trivial) p)

theorem unlimited_of_within {areas : List Area} {op : ServerOp} (h : op.Within areas)
    (hlimiter : Area.limiter ∉ areas) : op.Unlimited := by
  cases op with
  | app op =>
    cases op with
    | checkLimit key limit windowSecs now => exact hlimiter (h (List.mem_singleton_self _))
    | _ => trivial
  | _ => trivial

/-- The handlers that the limiter does not count. -/
theorem unlimited_handle (hlimits : D.limits req = []) :
    (D.handle req).Calls ServerOp.Unlimited := by
  refine (handle_writes D req).imp fun op hwithin => unlimited_of_within hwithin ?_
  rw [Deployment.limits] at hlimits
  cases hreq : req.endpoint with
  | register salt fresh checkedAt username email password => simp [hreq] at hlimits
  | login checkedAt username password now => simp [hreq] at hlimits
  | submitFlag submit => simp [hreq] at hlimits
  | deleteChallenge id deleteSolves => cases deleteSolves <;> simp [Endpoint.writes]
  | _ => simp [Endpoint.writes]

/-- Behind the limiter, in programs of the players' handlers. -/
theorem learns_unlimitedApp
    (hpassed : ∀ key limit now, (key, limit, now) ∈ D.limits req → key ∈ known) {p : Api α}
    (h : p.Calls fun op => ServerOp.Unlimited (.app op)) :
    (D.appMeter req).Learns known p fun _ _ => True := by
  refine Learns.of_calls (fun known' op hsub hop => ?_) (fun _ _ _ => trivial) h
  cases op with
  | checkLimit key limit windowSecs now => exact hop.elim
  | _ => exact fun key limit now hkey => hsub (hpassed key limit now hkey)

/-- `register` and `login` are counted under the address. -/
theorem authLimited_meters {checkedAt : ℤ} {rest : Serving Reply}
    (hlimits : D.limits req = [("auth-ip:" ++ D.ip req, 5, checkedAt)])
    (h : rest.Calls ServerOp.Unlimited) :
    (D.meter req).Learns known (authLimited D req checkedAt rest) fun _ _ => True := by
  have hkey : ("auth-ip:" ++ D.ip req, 5, checkedAt) ∈ D.limits req := by
    rw [hlimits]
    exact List.mem_singleton_self _
  refine Learns.bind (learns_onMeter (learns_limited hkey)) fun known' allowed _ hpassed => ?_
  cases allowed with
  | false => exact Learns.pure trivial
  | true =>
    refine learns_unlimited (fun key limit now hmem => ?_) h
    rw [hlimits, List.mem_singleton, Prod.mk.injEq] at hmem
    rw [hmem.1]
    exact hpassed rfl

/-- A submission is counted under the address and under the account. -/
theorem submitFlag_meters {P : Platform} {submit : SubmitRequest}
    (hlimits : D.limits req = [("sub-ip:" ++ submit.ip, 10, submit.ipCheckedAt),
      ("sub-acc:" ++ submit.user.val, 10, submit.accountCheckedAt)]) :
    (D.appMeter req).Learns known (Api.submitFlag P submit) fun _ _ => True := by
  refine Learns.bind (learns_limited (by simp [hlimits])) fun known₁ allowed _ hip => ?_
  cases allowed with
  | false => exact Learns.pure trivial
  | true =>
    refine Learns.bind (learns_limited (by simp [hlimits])) fun known₂ allowed hsub hacc => ?_
    cases allowed with
    | false => exact Learns.pure trivial
    | true =>
      refine learns_unlimitedApp (fun key limit now hmem => ?_) ?_
      · simp only [hlimits, List.mem_cons, List.not_mem_nil, or_false, Prod.mk.injEq] at hmem
        rcases hmem with ⟨rfl, -⟩ | ⟨rfl, -⟩
        · exact hsub (hip rfl)
        · exact hacc rfl
      · refine Calls.bind (fun found => ?_) ⟨trivial, fun _ => trivial⟩
        rcases found with e | _ | account
        · trivial
        · trivial
        refine Calls.bind (fun locked => ?_) ((lockedFor_calls _ _).imp fun op hop =>
          unlimited_of_within (show (ServerOp.app op).Within [] from within_of_reads hop)
            List.not_mem_nil)
        cases locked with
        | true => trivial
        | false =>
          refine Calls.bind (fun res => ?_) (Calls.lift (Calls.of_forall (fun _ => trivial) _))
          exact (answerSubmission_calls P submit res).imp fun op hop =>
            unlimited_of_within (within_of_tells hop (List.mem_singleton_self Area.channel))
              (by decide)

/-- **Nothing is called before the limiter has let the request pass.** -/
theorem handle_meters (D : Deployment) (req : HttpRequest) :
    (D.meter req).Learns [] (D.handle req) fun _ _ => True := by
  by_cases hlimits : D.limits req = []
  · exact learns_unlimited (fun key limit now hmem => by simp [hlimits] at hmem)
      (unlimited_handle hlimits)
  · cases hreq : req.endpoint with
    | register salt fresh checkedAt username email password =>
      rw [Deployment.handle, hreq]
      refine authLimited_meters (by rw [Deployment.limits, hreq]) ?_
      refine Calls.bind (fun r => ?_) (unlimited_onDatabase _)
      cases r <;> trivial
    | login checkedAt username password now =>
      rw [Deployment.handle, hreq]
      refine authLimited_meters (by rw [Deployment.limits, hreq]) ?_
      refine Calls.bind (fun r => ?_) (unlimited_onDatabase _)
      cases r <;> trivial
    | submitFlag submit =>
      rw [Deployment.handle, hreq]
      show (D.meter req).Learns [] (authenticated D req _) _
      rw [authenticated]
      cases huser : D.user req with
      | error e => exact Learns.pure trivial
      | ok id =>
        refine Learns.bind (learns_onMeter (submitFlag_meters ?_)) fun _ _ _ _ => Learns.pure trivial
        rw [Deployment.limits, hreq, huser]
        rfl
    | _ => exact absurd (by rw [Deployment.limits, hreq]) hlimits

end

/-! ## Attempts -/

section

variable {ι : Type} [DecidableEq ι] {D : Deployment} {B : Backend} {req : ι → HttpRequest}
  {s₀ : Server} {schedule : List ι}

/-- Every check of a run is one of its request, under a minute. -/
theorem check_of_trace {e : Made ServerOp Server ι}
    (he : e ∈ (D.serving req s₀).trace (Server.handler B) schedule) {key : String} {limit : ℕ}
    {windowSecs now : ℤ} (hop : e.op = .app (.checkLimit key limit windowSecs now)) :
    (key, limit, now) ∈ D.limits (req e.who) ∧ windowSecs = 60 := by
  obtain ⟨g, hguard, -⟩ := guard_of_trace (K := D.meter (req e.who)) (fun _ _ => trivial)
    (handle_meters D (req e.who)) schedule e he rfl
  have hmetered : D.Metered (req e.who) g e.op := hguard
  rwa [hop] at hmetered

/-- A call that is no check needs all keys. -/
theorem Deployment.Metered.passed {r : HttpRequest} {g : List String} {op : ServerOp}
    (h : D.Metered r g op) (hop : op.Unlimited) {key : String} {limit : ℕ} {now : ℤ}
    (hkey : (key, limit, now) ∈ D.limits r) : key ∈ g := by
  cases op with
  | app op =>
    cases op with
    | checkLimit key limit windowSecs now => exact hop.elim
    | _ => exact h key limit now hkey
  | _ => exact h key limit now hkey

omit [DecidableEq ι] in
/-- A check that lets the request pass. -/
theorem check_of_passed {e : Made ServerOp Server ι} {key : String}
    (h : key ∈ ServerOp.passed e.op ((Server.handler B).answer e.before e.op)) :
    ∃ limit windowSecs now, e.op = .app (.checkLimit key limit windowSecs now) ∧
      checkOf key e = some ⟨⟨(), now⟩, true⟩ := by
  obtain ⟨who, op, before⟩ := e
  cases op with
  | app op =>
    cases op with
    | checkLimit key' limit windowSecs now =>
      rw [Server.answer_checkLimit] at h
      by_cases hroom : (before.recent key' windowSecs now).length < limit
      · rw [decide_eq_true hroom] at h
        obtain rfl := List.mem_singleton.mp h
        exact ⟨limit, windowSecs, now, rfl, by simp [checkOf, hroom]⟩
      · rw [decide_eq_false hroom] at h
        exact absurd h List.not_mem_nil
    | _ => exact absurd h List.not_mem_nil
  | _ => exact absurd h List.not_mem_nil

/-- A request that gets past the limiter has passed under each of its keys. -/
theorem passed_of_unlimited {e : Made ServerOp Server ι}
    (he : e ∈ (D.serving req s₀).trace (Server.handler B) schedule) (hop : e.op.Unlimited)
    {key : String} {limit : ℕ} {now : ℤ} (hkey : (key, limit, now) ∈ D.limits (req e.who)) :
    ∃ e' ∈ (D.serving req s₀).trace (Server.handler B) schedule, e'.who = e.who ∧
      checkOf key e' = some ⟨⟨(), now⟩, true⟩ := by
  obtain ⟨g, hguard, hshown⟩ := guard_of_trace (K := D.meter (req e.who)) (fun _ _ => trivial)
    (handle_meters D (req e.who)) schedule e he rfl
  obtain ⟨e', he', hwho, hpassed⟩ := hshown key (Deployment.Metered.passed hguard hop hkey)
  obtain ⟨limit', windowSecs, now', hcheck, heq⟩ := check_of_passed hpassed
  have hkey' := (check_of_trace he' hcheck).1
  rw [hwho] at hkey'
  rw [time_of_key hkey hkey']
  exact ⟨e', he', hwho, heq⟩

/-- **In no minute more attempts get past the limiter than it allows**, whatever runs next to
them: of the requests that are counted under a key, no more than its limit make another call
than to the limiter. -/
theorem attempts_le (hfresh : s₀.requests = fun _ => [])
    (hclock : Clocked ((D.serving req s₀).trace (Server.handler B) schedule)) (key : String)
    {limit : ℕ} (T : ℤ) (S : Finset ι)
    (hcounted : ∀ i ∈ S, ∃ now, (key, limit, now) ∈ D.limits (req i) ∧ T - 60 < now ∧ now ≤ T)
    (hpast : ∀ i ∈ S, ∃ e ∈ (D.serving req s₀).trace (Server.handler B) schedule,
      e.who = i ∧ e.op.Unlimited) : S.card ≤ limit := by
  rcases S.eq_empty_or_nonempty with rfl | ⟨i, hi⟩
  · exact Nat.zero_le limit
  obtain ⟨now, hlimit, -⟩ := hcounted i hi
  have huniform : Uniform key limit 60 ((D.serving req s₀).trace (Server.handler B) schedule) :=
    fun e he limit' windowSecs now' hop => by
      obtain ⟨hmem, hwindow⟩ := check_of_trace he hop
      exact ⟨(limit_of_key hmem).trans (limit_of_key hlimit).symm, hwindow⟩
  have hbound := (exactFrom_checks (P := D.serving req s₀) (by simp [Deployment.serving, hfresh])
    schedule ⟨hclock, huniform⟩).inWindow_le (fun k t => Nat.zero_le _)
    (pairwise_checks key hclock) () T
  refine le_trans ?_ hbound
  -- each request of `S` has an admitted check of its own in the window
  rw [List.nil_append, SlidingWindow.inWindow, List.countP_filterMap, List.countP_eq_length_filter,
    ← List.length_map (f := Made.who)]
  refine le_trans (Finset.card_le_card fun i hi => ?_) (List.toFinset_card_le _)
  obtain ⟨now, hkey, hlow, hhigh⟩ := hcounted i hi
  obtain ⟨e, he, rfl, hop⟩ := hpast i hi
  obtain ⟨e', he', hwho, hcheck⟩ := passed_of_unlimited he hop hkey
  rw [List.mem_toFinset, List.mem_map]
  exact ⟨e', List.mem_filter.mpr ⟨he', by simp [hcheck, hlow, hhigh]⟩, hwho⟩

/-- **From no address more than five passwords are tried in a minute**: of the logins whose
`ClientIp` is the address, no more are looked at. -/
theorem passwords_bounded (hfresh : s₀.requests = fun _ => [])
    (hclock : Clocked ((D.serving req s₀).trace (Server.handler B) schedule)) (address : String)
    (T : ℤ) (S : Finset ι)
    (hlogin : ∀ i ∈ S, ∃ checkedAt username password now,
      (req i).endpoint = .login checkedAt username password now ∧ D.ip (req i) = address ∧
        T - 60 < checkedAt ∧ checkedAt ≤ T)
    (hpast : ∀ i ∈ S, ∃ e ∈ (D.serving req s₀).trace (Server.handler B) schedule,
      e.who = i ∧ e.op.Unlimited) : S.card ≤ 5 := by
  refine attempts_le hfresh hclock ("auth-ip:" ++ address) T S (fun i hi => ?_) hpast
  obtain ⟨checkedAt, username, password, now, hreq, hip, hlow, hhigh⟩ := hlogin i hi
  refine ⟨checkedAt, ?_, hlow, hhigh⟩
  rw [Deployment.limits, hreq, hip]
  exact List.mem_singleton_self _

/-- **No account tries more than ten flags in a minute**, from whatever addresses. -/
theorem flags_bounded (hfresh : s₀.requests = fun _ => [])
    (hclock : Clocked ((D.serving req s₀).trace (Server.handler B) schedule)) (id : AccountId)
    (T : ℤ) (S : Finset ι)
    (hsubmit : ∀ i ∈ S, ∃ submit, (req i).endpoint = .submitFlag submit ∧
      D.user (req i) = .ok id ∧ T - 60 < submit.accountCheckedAt ∧ submit.accountCheckedAt ≤ T)
    (hpast : ∀ i ∈ S, ∃ e ∈ (D.serving req s₀).trace (Server.handler B) schedule,
      e.who = i ∧ e.op.Unlimited) : S.card ≤ 10 := by
  refine attempts_le hfresh hclock ("sub-acc:" ++ id.val) T S (fun i hi => ?_) hpast
  obtain ⟨submit, hreq, huser, hlow, hhigh⟩ := hsubmit i hi
  refine ⟨submit.accountCheckedAt, ?_, hlow, hhigh⟩
  rw [Deployment.limits, hreq, huser]
  exact List.mem_cons_of_mem _ (List.mem_singleton_self _)

end

/-! ### Two attempts -/

/-- The same deployment behind a proxy. -/
def proxiedDeployment : Deployment := { smallDeployment with trust := true }

/-- A login that names another address, through a proxy that adds `10.0.0.7`, which it sees. -/
def guesses (first : Bool) : HttpRequest where
  headers := [("x-forwarded-for",
    (addForwarded (some "1.2.3.4") "10.0.0.7").toList.flatMap Jwt.utf8)]
  peer := none
  authAt := 0
  endpoint := if first then .login 0 "alice" "rose" 0 else .login 10 "alice" "tulip" 10

/-- Both are of the address that the proxy sees. -/
theorem ip_guesses (first : Bool) : proxiedDeployment.ip (guesses first) = "10.0.0.7" := by
  have haddress : IpText "10.0.0.7" := ⟨by decide, by decide, by decide⟩
  have hheader : HeaderMap.text (guesses first).headers "x-forwarded-for" =
      some (addForwarded (some "1.2.3.4") "10.0.0.7") := by
    show HeaderMap.text (guesses true).headers "x-forwarded-for" = _
    decide +kernel
  exact clientIp_of_forwarded haddress hheader

theorem passwords_bounded_guesses :
    (∀ i : Bool, ∃ e ∈ (proxiedDeployment.serving guesses smallServer).trace
      (Server.handler smallBackend) [true, false, true, false], e.who = i ∧ e.op.Unlimited) ∧
    (Finset.univ : Finset Bool).card ≤ 5 := by
  obtain ⟨hclock, hpast⟩ : Clocked ((proxiedDeployment.serving guesses smallServer).trace
      (Server.handler smallBackend) [true, false, true, false]) ∧
      ∀ i : Bool, ∃ e ∈ (proxiedDeployment.serving guesses smallServer).trace
        (Server.handler smallBackend) [true, false, true, false], e.who = i ∧ e.op.Unlimited := by
    rw [Clocked]
    decide +kernel
  refine ⟨hpast, passwords_bounded rfl hclock "10.0.0.7" 20 Finset.univ (fun i _ => ?_)
    fun i _ => hpast i⟩
  cases i with
  | true => exact ⟨0, _, _, _, rfl, ip_guesses true, by decide, by decide⟩
  | false => exact ⟨10, _, _, _, rfl, ip_guesses false, by decide, by decide⟩

/-- `account-123` submits twice. -/
def submitsTwice (first : Bool) : HttpRequest :=
  let now : ℤ := if first then 0 else 10
  withSession (.submitFlag ⟨⟨""⟩, "", "", "web", "flag", now, now, "uuid", now, "uuid", now⟩)

theorem flags_bounded_twice :
    (∀ i : Bool, ∃ e ∈ (smallDeployment.serving submitsTwice smallServer).trace
      (Server.handler smallBackend) [true, true, true, false, false, false],
      e.who = i ∧ e.op.Unlimited) ∧
    (Finset.univ : Finset Bool).card ≤ 10 := by
  obtain ⟨hclock, hpast⟩ : Clocked ((smallDeployment.serving submitsTwice smallServer).trace
      (Server.handler smallBackend) [true, true, true, false, false, false]) ∧
      ∀ i : Bool, ∃ e ∈ (smallDeployment.serving submitsTwice smallServer).trace
        (Server.handler smallBackend) [true, true, true, false, false, false],
        e.who = i ∧ e.op.Unlimited := by
    rw [Clocked]
    decide +kernel
  refine ⟨hpast, flags_bounded rfl hclock ⟨"account-123"⟩ 20 Finset.univ (fun i _ => ?_)
    fun i _ => hpast i⟩
  have huser : smallDeployment.user (submitsTwice i) = .ok ⟨"account-123"⟩ := by
    cases i <;> decide +kernel
  cases i with
  | true => exact ⟨_, rfl, huser, by decide, by decide⟩
  | false => exact ⟨_, rfl, huser, by decide, by decide⟩

end Cctf
