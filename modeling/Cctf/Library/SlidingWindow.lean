import Mathlib.Algebra.Order.Group.Defs
import Mathlib.Logic.Function.Basic

/-!
# Sliding windows

A limiter keeps, for every key, the times of the calls it has admitted.  A call first
drops the times that have left the window of its key, and is admitted when fewer times
are left than the limit of its key.

* `Call`, `Outcome` — a call, and what became of it; `inWindow` counts the admitted calls
  of a key in a half-open window.
* `admits`, `next`, `log` — the limiter.
* `ExactFrom` — a log in which every call is admitted exactly when the calls before it
  leave room; `ExactFrom.unique`: there is one such log for a list of calls.
* `Tracks` — **the invariant**: what the limiter has kept is what the log says is in the
  window, now and at any later time.
* `exactFrom_log` — a limiter whose clock does not run backwards writes such a log.
* `ExactFrom.inWindow_le` — **no window ever holds more admitted calls than the limit**.
* `ExactFrom.filter_key`, `ExactFrom.drop_refused` — other keys and refused calls do not
  matter.
-/

namespace SlidingWindow

variable {κ τ : Type}

/-- A call for a key. -/
structure Call (κ τ : Type) where
  key : κ
  time : τ
  deriving DecidableEq, Repr

/-- A call that has been answered. -/
structure Outcome (κ τ : Type) where
  call : Call κ τ
  admitted : Bool
  deriving DecidableEq, Repr

variable [DecidableEq κ] [LinearOrder τ]

/-- How many admitted calls of a key lie after `lo` and not after `hi`. -/
def inWindow (log : List (Outcome κ τ)) (k : κ) (lo hi : τ) : ℕ :=
  log.countP fun o => o.admitted && decide (o.call.key = k) && decide (lo < o.call.time) &&
    decide (o.call.time ≤ hi)

section

variable {log log' : List (Outcome κ τ)} {k : κ} {lo hi : τ}

@[simp] theorem inWindow_nil : inWindow ([] : List (Outcome κ τ)) k lo hi = 0 := rfl

@[simp] theorem inWindow_append :
    inWindow (log ++ log') k lo hi = inWindow log k lo hi + inWindow log' k lo hi :=
  List.countP_append

theorem inWindow_refused {o : Outcome κ τ} (h : o.admitted = false) :
    inWindow [o] k lo hi = 0 := by
  simp [inWindow, h]

theorem inWindow_other {o : Outcome κ τ} (h : o.call.key ≠ k) : inWindow [o] k lo hi = 0 := by
  simp [inWindow, h]

theorem inWindow_filter_key :
    inWindow (log.filter fun o => o.call.key = k) k lo hi = inWindow log k lo hi := by
  rw [inWindow, List.countP_filter]
  refine List.countP_congr fun o _ => ?_
  simp only [Bool.and_eq_true, decide_eq_true_eq]
  exact ⟨fun h => h.1, fun h => ⟨h, h.1.1.2⟩⟩

/-- A smaller window holds no more calls. -/
theorem inWindow_mono {lo' hi' : τ} (hlo : lo' ≤ lo)
    (hhi : ∀ o ∈ log, o.call.time ≤ hi → o.call.time ≤ hi') :
    inWindow log k lo hi ≤ inWindow log k lo' hi' := by
  refine List.countP_mono_left fun o ho h => ?_
  simp only [Bool.and_eq_true, decide_eq_true_eq] at h ⊢
  exact ⟨⟨h.1.1, hlo.trans_lt h.1.2⟩, hhi o ho h.2⟩

end

section

variable [AddCommGroup τ] (limit : κ → ℕ) (window : κ → τ)

/-! ## The limiter -/

/-- The times of a key that have not left its window. -/
def kept (times : κ → List τ) (c : Call κ τ) : List τ :=
  (times c.key).filter fun ts => c.time - ts < window c.key

/-- Is the call admitted? -/
def admits (times : κ → List τ) (c : Call κ τ) : Bool :=
  decide ((kept window times c).length < limit c.key)

/-- What the limiter remembers after the call. -/
def next (times : κ → List τ) (c : Call κ τ) : κ → List τ :=
  Function.update times c.key
    (if (kept window times c).length < limit c.key then kept window times c ++ [c.time]
      else kept window times c)

/-- What becomes of a list of calls. -/
def log : (κ → List τ) → List (Call κ τ) → List (Outcome κ τ)
  | _, [] => []
  | times, c :: cs => ⟨c, admits limit window times c⟩ :: log (next limit window times c) cs

theorem map_call_log (times : κ → List τ) (calls : List (Call κ τ)) :
    (log limit window times calls).map Outcome.call = calls := by
  induction calls generalizing times with
  | nil => rfl
  | cons c cs ih => rw [log, List.map_cons, ih]

/-! ## Exact logs -/

/-- After `past`, every call is admitted exactly when its window has room. -/
def ExactFrom (past : List (Outcome κ τ)) : List (Outcome κ τ) → Prop
  | [] => True
  | o :: rest =>
    (o.admitted = true ↔
      inWindow past o.call.key (o.call.time - window o.call.key) o.call.time <
        limit o.call.key) ∧
    ExactFrom (past ++ [o]) rest

variable {limit window} {past past' l l' : List (Outcome κ τ)}

theorem exactFrom_append :
    ExactFrom limit window past (l ++ l') ↔
      ExactFrom limit window past l ∧ ExactFrom limit window (past ++ l) l' := by
  induction l generalizing past with
  | nil => simp [ExactFrom]
  | cons o l ih =>
    rw [List.cons_append, ExactFrom, ExactFrom, ih, List.append_assoc, List.singleton_append,
      and_assoc]

/-- Only the counts of the past matter. -/
theorem ExactFrom.congr (h : ExactFrom limit window past l)
    (hcount : ∀ k lo hi, inWindow past k lo hi = inWindow past' k lo hi) :
    ExactFrom limit window past' l := by
  induction l generalizing past past' with
  | nil => trivial
  | cons o l ih =>
    refine ⟨?_, ih h.2 fun k lo hi => ?_⟩
    · rw [← hcount]
      exact h.1
    · rw [inWindow_append, inWindow_append, hcount]

/-- **The calls determine the log.** -/
theorem ExactFrom.unique (h : ExactFrom limit window past l) (h' : ExactFrom limit window past l')
    (hcalls : l.map Outcome.call = l'.map Outcome.call) : l = l' := by
  induction l generalizing past l' with
  | nil => exact (List.map_eq_nil_iff.1 hcalls.symm).symm
  | cons o l ih =>
    cases l' with
    | nil => exact absurd hcalls (by simp)
    | cons o' l' =>
      obtain ⟨hcall, hrest⟩ := List.cons.inj hcalls
      obtain ⟨c, admitted⟩ := o
      obtain ⟨c', admitted'⟩ := o'
      obtain rfl : c = c' := hcall
      obtain rfl : admitted = admitted' := by
        rw [Bool.eq_iff_iff]
        exact h.1.trans h'.1.symm
      rw [ih h.2 h'.2 hrest]

/-- **Other keys do not matter**: the calls of one key have an exact log of their own. -/
theorem ExactFrom.filter_key (k : κ) (h : ExactFrom limit window past l) :
    ExactFrom limit window (past.filter fun o => o.call.key = k)
      (l.filter fun o => o.call.key = k) := by
  induction l generalizing past with
  | nil => trivial
  | cons o l ih =>
    have hrest := ih h.2
    rw [List.filter_append] at hrest
    by_cases hkey : o.call.key = k
    · subst hkey
      rw [List.filter_cons_of_pos (by simp)] at hrest ⊢
      refine ⟨?_, hrest⟩
      rw [inWindow_filter_key]
      exact h.1
    · rw [List.filter_cons_of_neg (by simpa using hkey)] at hrest ⊢
      simpa using hrest

/-- **Refused calls do not matter**: the log without one is exact. -/
theorem ExactFrom.drop_refused {o : Outcome κ τ} (h : ExactFrom limit window past (l ++ o :: l'))
    (ho : o.admitted = false) : ExactFrom limit window past (l ++ l') := by
  obtain ⟨hbefore, -, hafter⟩ := exactFrom_append.1 h
  refine exactFrom_append.2 ⟨hbefore, hafter.congr fun k lo hi => ?_⟩
  rw [inWindow_append, inWindow_refused ho, Nat.add_zero]

variable [IsOrderedAddMonoid τ]

/-- A call that is admitted had room in every window it lies in. -/
theorem inWindow_snoc_le {o : Outcome κ τ}
    (hle : ∀ k t, inWindow past k (t - window k) t ≤ limit k)
    (ho : o.admitted = true ↔
      inWindow past o.call.key (o.call.time - window o.call.key) o.call.time < limit o.call.key)
    (hclock : ∀ p ∈ past, p.call.time ≤ o.call.time) (k : κ) (t : τ) :
    inWindow (past ++ [o]) k (t - window k) t ≤ limit k := by
  rw [inWindow_append]
  by_cases hcounts : inWindow [o] k (t - window k) t = 0
  · rw [hcounts]
    exact hle k t
  · have hone : inWindow [o] k (t - window k) t ≤ 1 := List.countP_le_length
    obtain ⟨hadmitted, rfl, -, htime⟩ : o.admitted = true ∧ o.call.key = k ∧
        t - window k < o.call.time ∧ o.call.time ≤ t := by
      simpa [inWindow] using hcounts
    -- what lies in the window that ends at `t` lies in the one that ends at the call
    have hsmaller : inWindow past o.call.key (t - window o.call.key) t ≤
        inWindow past o.call.key (o.call.time - window o.call.key) o.call.time :=
      inWindow_mono (sub_le_sub_right htime _) fun p hp _ => hclock p hp
    have hroom := ho.1 hadmitted
    omega

/-- **No window holds more admitted calls than the limit.** -/
theorem ExactFrom.inWindow_le (h : ExactFrom limit window past l)
    (hpast : ∀ k t, inWindow past k (t - window k) t ≤ limit k)
    (hclock : (past ++ l).Pairwise fun o o' => o.call.time ≤ o'.call.time) (k : κ) (t : τ) :
    inWindow (past ++ l) k (t - window k) t ≤ limit k := by
  induction l generalizing past with
  | nil =>
    rw [List.append_nil]
    exact hpast k t
  | cons o l ih =>
    rw [List.append_cons] at hclock ⊢
    refine ih h.2 (fun k t => inWindow_snoc_le hpast h.1 ?_ k t) hclock
    intro p hp
    exact (List.pairwise_append.1 (List.pairwise_append.1 hclock).1).2.2 p hp o
      (List.mem_singleton_self o)

/-! ## The limiter is exact -/

/-- The invariant: from the last call on, the times that are kept are as many as the log has
admitted calls in the window. -/
def Tracks (window : κ → τ) (times : κ → List τ) (past : List (Outcome κ τ)) : Prop :=
  ∀ k t, (∀ o ∈ past, o.call.time ≤ t) →
    ((times k).filter fun ts => t - ts < window k).length = inWindow past k (t - window k) t

omit [DecidableEq κ] in
/-- Times that are dropped now would be dropped later. -/
theorem filter_kept (times : κ → List τ) {c : Call κ τ} {t : τ} (ht : c.time ≤ t) :
    (kept window times c).filter (fun ts => t - ts < window c.key) =
      (times c.key).filter fun ts => t - ts < window c.key := by
  rw [kept, List.filter_filter]
  refine List.filter_congr fun ts _ => ?_
  rw [Bool.eq_iff_iff]
  simp only [Bool.and_eq_true, decide_eq_true_eq, and_iff_left_iff_imp]
  intro hlater
  exact (sub_le_sub_right ht ts).trans_lt hlater

/-- **One call keeps the invariant.** -/
theorem Tracks.next {times : κ → List τ} (h : Tracks window times past) (c : Call κ τ) :
    Tracks window (next limit window times c)
      (past ++ [⟨c, admits limit window times c⟩]) := by
  intro k t ht
  have hpast := h k t fun o ho => ht o (List.mem_append_left _ ho)
  have htime : c.time ≤ t := ht _ (List.mem_append_right past (List.mem_singleton_self _))
  rw [inWindow_append, SlidingWindow.next]
  by_cases hkey : k = c.key
  · subst hkey
    rw [Function.update_self]
    by_cases hroom : (kept window times c).length < limit c.key
    · rw [if_pos hroom, List.filter_append, List.length_append, filter_kept times htime, hpast]
      have hcount : [c.time].filter (fun ts => t - ts < window c.key) =
          if t - window c.key < c.time then [c.time] else [] := by
        by_cases hin : t - window c.key < c.time
        · rw [if_pos hin, List.filter_cons_of_pos (by simpa using sub_lt_comm.1 hin)]
          rfl
        · rw [if_neg hin, List.filter_cons_of_neg (by simpa using fun h => hin (sub_lt_comm.1 h))]
          rfl
      rw [hcount]
      by_cases hin : t - window c.key < c.time
      · simp [inWindow, admits, hroom, hin, htime]
      · simp [inWindow, admits, hroom, hin]
    · rw [if_neg hroom, filter_kept times htime, hpast, inWindow_refused (by simpa [admits] using hroom),
        Nat.add_zero]
  · rw [Function.update_of_ne hkey, hpast, inWindow_other (Ne.symm hkey), Nat.add_zero]

/-- **A limiter whose clock does not run backwards writes an exact log.** -/
theorem exactFrom_log {times : κ → List τ} (h : Tracks window times past)
    {calls : List (Call κ τ)} (hpast : ∀ o ∈ past, ∀ c ∈ calls, o.call.time ≤ c.time)
    (hclock : calls.Pairwise fun c c' => c.time ≤ c'.time) :
    ExactFrom limit window past (log limit window times calls) := by
  induction calls generalizing times past with
  | nil => trivial
  | cons c cs ih =>
    rw [List.pairwise_cons] at hclock
    refine ⟨?_, ih (h.next c) ?_ hclock.2⟩
    · rw [← h c.key c.time fun o ho => hpast o ho c List.mem_cons_self]
      exact decide_eq_true_iff
    · intro o ho c' hc'
      rcases List.mem_append.1 ho with hold | hnew
      · exact hpast o hold c' (List.mem_cons_of_mem c hc')
      · rw [List.mem_singleton.1 hnew]
        exact hclock.1 c' hc'

end

end SlidingWindow
