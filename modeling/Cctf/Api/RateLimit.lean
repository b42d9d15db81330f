import Mathlib.Algebra.Order.Group.Int
import Cctf.Library.SlidingWindow
import Cctf.Api.App

/-!
# The rate limiter

`RateLimiter::check_limit` keeps the times of the requests it has let through, one list
for each key, and drops the old ones whenever the key is used.

* `App.checks` — the answers to a list of calls; `App.checks_eq_log`: they are those of a
  limiter of `SlidingWindow`.
* `ExactWindow` — what a sliding window promises.
* `rate_limit_exact` — **the rate limiter keeps it**, for every sequence of calls whose
  clock does not run backwards and that uses each key with one limit and one window.
-/

namespace Cctf

open Program SlidingWindow

section

variable (limit : String → ℕ) (window : String → ℤ)

/-- The answers of `check_limit` to a list of calls. -/
def App.checks : App → List (Call String ℤ) → List (Outcome String ℤ)
  | _, [] => []
  | a, c :: cs =>
    ⟨c, (runApi a (checkLimit c.key (limit c.key) (window c.key) c.time)).1⟩ ::
      App.checks (runApi a (checkLimit c.key (limit c.key) (window c.key) c.time)).2 cs

/-- **The rate limiter is a sliding window.** -/
theorem App.checks_eq_log (a : App) (calls : List (Call String ℤ)) :
    a.checks limit window calls = SlidingWindow.log limit window a.requests calls := by
  induction calls generalizing a with
  | nil => rfl
  | cons c cs ih =>
    rw [checks, ih]
    rfl

/-- What a sliding window promises of a list of calls. -/
structure ExactWindow (a : App) (calls : List (Call String ℤ)) : Prop where
  /-- In the window that ends at any time no more calls are admitted than the limit. -/
  bounded : ∀ key t,
    inWindow (a.checks limit window calls) key (t - window key) t ≤ limit key
  /-- A call is refused when the calls before it have used up the limit of its window, and
  only then. -/
  refused_iff : ∀ before o after, a.checks limit window calls = before ++ o :: after →
    (o.admitted = false ↔
      inWindow before o.call.key (o.call.time - window o.call.key) o.call.time =
        limit o.call.key)
  /-- Without a refused call the others are answered alike. -/
  refused_free : ∀ before o after, a.checks limit window calls = before ++ o :: after →
    o.admitted = false →
      a.checks limit window (before.map Outcome.call ++ after.map Outcome.call) = before ++ after
  /-- Without the calls on other keys those on a key are answered alike. -/
  keys_apart : ∀ key, a.checks limit window (calls.filter fun c => c.key = key) =
    (a.checks limit window calls).filter fun o => o.call.key = key

variable {limit window} {a : App} {calls : List (Call String ℤ)}

/-- A limiter that nobody has used writes an exact log. -/
theorem App.exactFrom_checks (hfresh : a.requests = fun _ => [])
    (hclock : calls.Pairwise fun c c' => c.time ≤ c'.time) :
    ExactFrom limit window [] (a.checks limit window calls) := by
  have htracks : Tracks window a.requests [] := by
    intro key t _
    simp [hfresh]
  rw [checks_eq_log]
  exact exactFrom_log htracks (by simp) hclock

theorem App.map_call_checks : (a.checks limit window calls).map Outcome.call = calls := by
  rw [checks_eq_log, map_call_log]

/-- The times of a log are those of its calls. -/
theorem pairwise_outcomes {outcomes : List (Outcome String ℤ)} :
    (outcomes.map Outcome.call).Pairwise (fun c c' => c.time ≤ c'.time) ↔
      outcomes.Pairwise fun o o' => o.call.time ≤ o'.call.time :=
  List.pairwise_map

/-- **The rate limiter is an exact sliding window.** -/
theorem rate_limit_exact (hfresh : a.requests = fun _ => [])
    (hclock : calls.Pairwise fun c c' => c.time ≤ c'.time) :
    ExactWindow limit window a calls := by
  have hexact : ExactFrom limit window [] (a.checks limit window calls) :=
    App.exactFrom_checks hfresh hclock
  have hcalls : (a.checks limit window calls).map Outcome.call = calls := App.map_call_checks
  have htimes : (a.checks limit window calls).Pairwise fun o o' => o.call.time ≤ o'.call.time := by
    rw [← pairwise_outcomes, hcalls]
    exact hclock
  constructor
  · intro key t
    simpa using hexact.inWindow_le (by simp) htimes key t
  · intro before o after hsplit
    rw [hsplit] at hexact htimes
    obtain ⟨hbefore, ho, -⟩ := exactFrom_append.1 hexact
    have hle := hbefore.inWindow_le (by simp) (List.pairwise_append.1 htimes).1 o.call.key
      o.call.time
    rw [List.nil_append] at ho hle
    rw [← Bool.not_eq_true, ho]
    omega
  · intro before o after hsplit ho
    have hsub : (before.map Outcome.call ++ after.map Outcome.call).Sublist calls := by
      rw [← hcalls, hsplit, List.map_append, List.map_cons]
      exact (List.sublist_cons_self _ _).append_left _
    rw [hsplit] at hexact
    refine (App.exactFrom_checks hfresh (hclock.sublist hsub)).unique (hexact.drop_refused ho) ?_
    rw [App.map_call_checks, List.map_append]
  · intro key
    have hsub : (calls.filter fun c => c.key = key).Sublist calls := List.filter_sublist
    refine (App.exactFrom_checks hfresh (hclock.sublist hsub)).unique (hexact.filter_key key) ?_
    rw [App.map_call_checks]
    conv_lhs => rw [← hcalls]
    rw [List.filter_map]
    rfl

end

/-! ## Three attempts a minute -/

/-- Two addresses: the first calls four times within a minute, and once when its first call
is a minute old. -/
def attemptsAMinute : List (Call String ℤ) :=
  [⟨"sub-ip:a", 0⟩, ⟨"sub-ip:a", 1⟩, ⟨"sub-ip:b", 1⟩, ⟨"sub-ip:a", 59⟩, ⟨"sub-ip:a", 59⟩,
    ⟨"sub-ip:a", 60⟩]

/-- An application that has had no request. -/
def idle : App :=
  .fresh
    { teams := redAndBlue, challenges := .empty, submissions := [], hintUnlocks := []
      activeFlag := fun _ _ _ => none } .empty

theorem rate_limit_exact_minute :
    ExactWindow (fun _ => 3) (fun _ => 60) idle attemptsAMinute :=
  rate_limit_exact rfl (by decide)

/-- The fourth call of the minute is refused, the one at its end is not. -/
example : (idle.checks (fun _ => 3) (fun _ => 60) attemptsAMinute).map Outcome.admitted =
    [true, true, true, true, false, true] := by
  decide

end Cctf
