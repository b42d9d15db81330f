import Cctf.Library.Runs
import Cctf.Services.Instancer

/-!
# Renewing and reaping

A timer is set once, when an instance is started or the service is, and knows only
the id of the instance; `renew_instance` moves the expiry in the row and leaves the
timers alone.  This file runs the methods, the timers and the clock in any order.

* `Event`, `begin`, `step` — what can happen, and a run.
* `SparesLive` — a step takes nothing of an instance away whose row has not expired.
* `TimersLate` — the invariant: no timer wakes up before the row it is for expires.
* `RenewsWithinTimers` — the condition: a renewal does not go past a pending timer.
* `renewed_not_reaped` — **in a run of such steps no live instance is ever touched**;
  `reaped_early_of_renewed` — after any other renewal a timer takes a live one, if nothing else
  happens before.
-/

namespace Cctf.Instances

open Program Runs

/-! ## Runs -/

/-- What can happen. -/
inductive Event where
  | spawn (req : SpawnRequest) (outside : Outside)
  | renew (instanceId : String) (durationSeconds : Int64) (outside : Outside)
  /-- Some milliseconds pass. -/
  | pass (ms : ℕ)
  /-- The `i`-th pending timer wakes up, if its time has come. -/
  | fire (i : ℕ) (outside : Outside)
  | reap (outside : Outside)
  /-- The process is started again: its tasks are gone, and it sets new ones. -/
  | restart (outside : Outside)

/-- How the outside behaves. -/
def Event.outside : Event → Outside
  | .spawn _ out => out
  | .renew _ _ out => out
  | .pass _ => {}
  | .fire _ out => out
  | .reap out => out
  | .restart out => out

/-- What an event begins with, and what then runs. -/
def begin (w : Instances) : Event → Instances × Instancing Unit
  | .spawn req _ => (w, do let _ ← spawnInstance req; pure ())
  | .renew instanceId durationSeconds _ => (w, renewInstance instanceId durationSeconds)
  | .pass ms => ({ w with clock := w.clock.advance ms }, pure ())
  | .fire i _ =>
    match w.timers[i]? with
    | some timer =>
      if timer.due ≤ w.clock.ms then
        ({ w with timers := w.timers.eraseIdx i }, destroyInstances timer.instanceId)
      else (w, pure ())
    | none => (w, pure ())
  | .reap _ => (w, reapExpiredInstances)
  | .restart _ => ({ w with timers := [] }, initReaperSchedules)

/-- One event; a method runs at one moment of the clock. -/
def step (sleep : Sleep) (w : Instances) (e : Event) : Instances :=
  (Program.run (handler sleep) ⟨(w.begin e).1, e.outside⟩ (w.begin e).2.run).2.world

/-- Nothing is taken away from an instance that is live at that moment. -/
def Spares (a : Attempt) (op : InstancerOp) : Prop := ∀ id, op.Ends id → ¬ a.world.Live id

/-- Nothing the event does is taken away from an instance that is live at that moment. -/
def SparesLive (sleep : Sleep) (w : Instances) (e : Event) : Prop :=
  Throughout (handler sleep) Spares (fun _ _ => True) ⟨(w.begin e).1, e.outside⟩
    (w.begin e).2.run

/-- No timer wakes up before the row it is for expires. -/
def TimersLate (w : Instances) : Prop :=
  ∀ timer ∈ w.timers, ∀ row ∈ w.rows.rows, row.id = timer.instanceId →
    w.clock.timestamp < row.expiresAt → 1000 * row.expiresAt.toInt ≤ timer.due

/-- The uuid of a new instance is new: no timer is for it. -/
def NewUuid (w : Instances) : Event → Prop
  | .spawn req _ => ∀ timer ∈ w.timers, timer.instanceId ≠ req.instanceId
  | _ => True

/-- A renewal that finds its instance, and that does not fail, sets no expiry past a
timer that is pending for the instance. -/
def RenewsWithinTimers (w : Instances) : Event → Prop
  | .renew instanceId durationSeconds out =>
    w.Live instanceId → out.faults.headD false = false →
      w.clock.timestamp < w.clock.timestamp + durationSeconds →
      ∀ timer ∈ w.timers, timer.instanceId = instanceId →
        1000 * (w.clock.timestamp + durationSeconds).toInt ≤ timer.due
  | _ => True

/-! ## Delays -/

theorem toNat_toUInt64 {d : Int64} (h : 0 ≤ d.toInt) :
    (d.toUInt64.toNat : ℤ) = d.toInt ∧ d.toUInt64.toNat < 2 ^ 63 := by
  have hnat : d.toUInt64.toNat = d.toNatClampNeg :=
    Int64.toNat_toUInt64_of_le (Int64.le_iff_toInt_le.2 h)
  rw [hnat]
  refine ⟨?_, d.toNatClampNeg_lt⟩
  rw [← Int64.toNat_toInt]
  exact Int.toNat_of_nonneg h

/-- A sum that ends up later did not wrap. -/
theorem toInt_timestamp_add {c : Clock} {d : Int64} (h : c.timestamp < c.timestamp + d) :
    0 ≤ d.toInt ∧ (c.timestamp + d).toInt = c.timestamp.toInt + d.toInt := by
  have hnow : 0 ≤ c.timestamp.toInt := c.timestamp_nonneg
  have hrange : c.timestamp.toInt < 2 ^ 63 := c.timestamp.toInt_lt
  have hlo : -2 ^ 63 ≤ d.toInt := d.le_toInt
  have hhi : d.toInt < 2 ^ 63 := d.toInt_lt
  rw [Int64.lt_iff_toInt_lt, Int64.toInt_add] at h
  rw [Int64.toInt_add]
  by_cases hfits : c.timestamp.toInt + d.toInt < 2 ^ 63
  · have hsum : (c.timestamp.toInt + d.toInt).bmod (2 ^ 64) = c.timestamp.toInt + d.toInt :=
      Int.bmod_eq_of_le (by omega) (by omega)
    rw [hsum] at h ⊢
    exact ⟨by omega, rfl⟩
  · -- past the range the sum is negative
    have hsum : (c.timestamp.toInt + d.toInt).bmod (2 ^ 64) < 0 := by
      rw [← Int.sub_bmod_right]
      rw [Int.bmod_eq_of_le (by omega) (by omega)]
      omega
    omega

/-- The timer of a new instance is not early. -/
theorem spawn_late (sleep : Sleep) {c : Clock} {d : Int64} (h : c.timestamp < c.timestamp + d) :
    1000 * (c.timestamp + d).toInt ≤ sleep.wake c.ms d.toUInt64 := by
  obtain ⟨hpos, hsum⟩ := toInt_timestamp_add h
  obtain ⟨hnat, hlt⟩ := toNat_toUInt64 hpos
  have hwake := sleep.notEarly c.ms d.toUInt64 hlt
  have hms := c.timestamp_le
  omega

/-- The timer that a restart sets is not early. -/
theorem restart_late (sleep : Sleep) {c : Clock} {expiresAt : Int64}
    (h : c.timestamp < expiresAt) :
    1000 * expiresAt.toInt ≤ sleep.wake c.ms (reapDelay c.timestamp expiresAt) := by
  have hnow : 0 ≤ c.timestamp.toInt := c.timestamp_nonneg
  have hhi : expiresAt.toInt < 2 ^ 63 := expiresAt.toInt_lt
  have hms := c.timestamp_le
  rw [Int64.lt_iff_toInt_lt] at h
  have hdiff : (expiresAt - c.timestamp).toInt = expiresAt.toInt - c.timestamp.toInt := by
    rw [Int64.toInt_sub]
    exact Int.bmod_eq_of_le (by omega) (by omega)
  have hpos : (0 : Int64) ≤ expiresAt - c.timestamp := by
    rw [Int64.le_iff_toInt_le, hdiff]
    exact Int.sub_nonneg_of_le h.le
  have hdelay : reapDelay c.timestamp expiresAt = (expiresAt - c.timestamp).toUInt64 := by
    rw [reapDelay]
    exact congrArg _ (if_pos hpos)
  obtain ⟨hnat, hlt⟩ := toNat_toUInt64 (Int64.le_iff_toInt_le.1 hpos)
  have hwake := sleep.notEarly c.ms _ hlt
  rw [hdelay]
  omega

/-! ## What each method does -/

/-- The second world has the clock, the timers and some of the rows of the first. -/
structure Fewer (w w' : Instances) : Prop where
  clock : w'.clock = w.clock
  timers : w'.timers = w.timers
  rows : ∀ row ∈ w'.rows.rows, row ∈ w.rows.rows

namespace Fewer

variable {w w' w'' : Instances}

theorem refl (w : Instances) : Fewer w w := ⟨rfl, rfl, fun _ h => h⟩

theorem trans (h : Fewer w w') (h' : Fewer w' w'') : Fewer w w'' :=
  ⟨h'.clock.trans h.clock, h'.timers.trans h.timers, fun row hrow => h.rows row (h'.rows row hrow)⟩

theorem timersLate (h : Fewer w w') (hlate : TimersLate w) : TimersLate w' := by
  intro timer htimer row hrow hid hlive
  rw [h.timers] at htimer
  rw [h.clock] at hlive
  exact hlate timer htimer row (h.rows row hrow) hid hlive

theorem not_live (h : Fewer w w') {id : String} (hid : ¬ w.Live id) : ¬ w'.Live id := by
  rintro ⟨row, hrow, hkey, hlive⟩
  rw [h.clock] at hlive
  exact hid ⟨row, h.rows row hrow, hkey, hlive⟩

/-- Taking away leaves less. -/
theorem write_of_ends {sleep : Sleep} {op : InstancerOp} {id : String} (h : op.Ends id) :
    Fewer w (w.write sleep op) := by
  cases op with
  | deletePod name => exact ⟨rfl, rfl, fun _ hrow => hrow⟩
  | deleteService name => exact ⟨rfl, rfl, fun _ hrow => hrow⟩
  | deleteInstance id' => exact ⟨rfl, rfl, fun row hrow => (List.mem_filter.1 hrow).1⟩
  | _ => exact False.elim h

end Fewer

section

variable {sleep : Sleep} {w : Instances} {out : Outside}

/-- A call that takes something away from an instance that is not live. -/
theorem request_ends {op : InstancerOp} {id : String} (hop : op.Ends id)
    (honly : ∀ id', op.Ends id' → id' = id) (hid : ¬ w.Live id) :
    Throughout (handler sleep) Spares (fun a' _ => Fewer w a'.world) ⟨w, out⟩ (request op).run := by
  refine throughout_request ?_ (fun _ => .write_of_ends hop) fun _ => .refl _
  intro id' hop'
  rw [honly id' hop']
  exact hid

/-- **`destroy_instances`, for an instance that is not live.** -/
theorem destroyInstances_spares {id : String} (hid : ¬ w.Live id) :
    Throughout (handler sleep) Spares (fun a' _ => Fewer w a'.world) ⟨w, out⟩
      (destroyInstances id).run := by
  refine throughout_ignore_bind (request_ends rfl (fun _ h => h.symm) hid) fun a₁ _ h₁ => ?_
  refine throughout_ignore_bind (request_ends rfl (fun _ h => h.symm) (h₁.not_live hid))
    fun a₂ _ h₂ => ?_
  have hid₂ : ¬ a₂.world.Live id := (h₁.trans h₂).not_live hid
  refine throughout_bind (request_ends rfl (fun _ h => h.symm) hid₂) (fun a₃ _ h₃ => ?_)
    fun a₃ _ h₃ => (h₁.trans h₂).trans h₃
  exact (h₁.trans h₂).trans h₃

theorem reapAll_spares {ids : List String} (hids : ∀ id ∈ ids, ¬ w.Live id) :
    Throughout (handler sleep) Spares (fun a' _ => Fewer w a'.world) ⟨w, out⟩ (reapAll ids).run := by
  induction ids generalizing w out with
  | nil => exact Fewer.refl _
  | cons id rest ih =>
    have hid : ¬ w.Live id := hids id List.mem_cons_self
    refine throughout_ignore_bind (destroyInstances_spares hid) fun a₁ _ h₁ => ?_
    have hrest : ∀ id' ∈ rest, ¬ a₁.world.Live id' := fun id' hid' =>
      h₁.not_live (hids id' (List.mem_cons_of_mem _ hid'))
    exact (ih hrest).imp (fun _ _ h => h) fun _ _ h => h₁.trans h

/-- No row the sweep selects is live. -/
theorem not_live_of_selected {id : String}
    (h : List.Mem id (w.value out (.selectExpired w.clock.timestamp))) : ¬ w.Live id := by
  obtain ⟨row, hrow, rfl⟩ := List.mem_map.1 h
  obtain ⟨hmem, hexpired⟩ := List.mem_filter.1 hrow
  rintro ⟨row', hrow', hid, hlive⟩
  obtain rfl : row' = row := w.rows.eq_of_key_eq hrow' hmem hid
  exact absurd (of_decide_eq_true hexpired) (Int64.not_le.2 hlive)

/-- **`reap_expired_instances` touches no live instance.** -/
theorem reapExpiredInstances_spares :
    Throughout (handler sleep) Spares (fun a' _ => Fewer w a'.world) ⟨w, out⟩
      reapExpiredInstances.run := by
  refine throughout_request_bind (fun _ => False.elim) (fun _ => ?_) fun _ => Fewer.refl _
  refine throughout_request_bind (fun _ => False.elim) (fun _ => ?_) fun _ => Fewer.refl _
  have hids : ∀ id, List.Mem id (w.value out (.selectExpired w.clock.timestamp)) →
      ¬ w.Live id := fun id => not_live_of_selected
  exact reapAll_spares hids

/-- **`renew_instance`, within the pending timers.** -/
theorem renewInstance_late {instanceId : String} {durationSeconds : Int64}
    (hlate : TimersLate w)
    (hrenew : RenewsWithinTimers w (.renew instanceId durationSeconds out)) :
    Throughout (handler sleep) Spares (fun a' _ => TimersLate a'.world) ⟨w, out⟩
      (renewInstance instanceId durationSeconds).run := by
  refine throughout_request_bind (fun _ => False.elim) (fun _ => ?_) fun _ => hlate
  refine throughout_request_bind (fun _ => False.elim) (fun hok => ?_) fun _ => hlate
  have hnext : TimersLate (w.write sleep (.updateExpiry
      (w.clock.timestamp + durationSeconds) instanceId w.clock.timestamp)) := by
    intro timer htimer row hrow hid hlive
    obtain ⟨old, hold, rfl⟩ := mem_write_updateExpiry.1 hrow
    by_cases hhit : hits instanceId w.clock.timestamp old = true
    · obtain ⟨hkey, hwas⟩ := of_decide_eq_true hhit
      rw [if_pos hhit] at hid hlive ⊢
      have hfault : out.faults.headD false = false := (Attempt.of_not_fails rfl hok).1
      exact hrenew ⟨old, hold, hkey, hwas⟩ hfault hlive timer htimer (hid.symm.trans hkey)
    · rw [if_neg hhit] at hid hlive ⊢
      exact hlate timer htimer old hold hid hlive
  simp only
  split
  · exact hnext
  · exact hnext

/-- **`spawn_instance`, with a new uuid.** -/
theorem spawnInstance_late {req : SpawnRequest} (hlate : TimersLate w)
    (hnew : ∀ timer ∈ w.timers, timer.instanceId ≠ req.instanceId) :
    Throughout (handler sleep) Spares (fun a' _ => TimersLate a'.world) ⟨w, out⟩
      (spawnInstance req).run := by
  refine throughout_request_bind (fun _ => False.elim) (fun _ => ?_) fun _ => hlate
  refine throughout_request_bind (fun _ => False.elim) (fun _ => ?_) fun _ => hlate
  split
  · exact hlate
  rename_i clusterIp _
  refine throughout_request_bind (fun _ => False.elim) (fun _ => ?_) fun _ => hlate
  refine throughout_request_bind (fun _ => False.elim) (fun hok => ?_) fun _ => hlate
  obtain ⟨hrows, hkeys⟩ := mem_write_insertInstance sleep
    (Attempt.of_not_fails rfl hok).2
  have hinserted : TimersLate (w.write sleep (.insertInstance
      (req.row clusterIp w.clock.timestamp))) := by
    intro timer htimer row hrow hid hlive
    rcases (hrows row).1 hrow with hold | rfl
    · exact hlate timer htimer row hold hid hlive
    · exact absurd hid.symm (hnew timer htimer)
  refine throughout_request_bind (fun _ => False.elim) (fun _ => ?_) fun _ => hinserted
  intro timer htimer row hrow hid hlive
  rcases List.mem_append.1 htimer with hold | htimer
  · exact hinserted timer hold row hrow hid hlive
  · obtain rfl := List.mem_singleton.1 htimer
    -- the only row of the new instance is the one just inserted
    rcases (hrows row).1 hrow with hold | rfl
    · exact absurd hid (hkeys row hold)
    · exact spawn_late sleep hlive

/-- The loop that sets the timers anew: each for a row, at its expiry or later. -/
theorem scheduleAll_late {active : List (String × Int64)} (hlate : TimersLate w)
    (hactive : ∀ p ∈ active, w.clock.timestamp < p.2 ∧
      ∀ row ∈ w.rows.rows, row.id = p.1 → row.expiresAt = p.2) :
    Throughout (handler sleep) Spares (fun a' _ => TimersLate a'.world) ⟨w, out⟩
      (scheduleAll w.clock.timestamp active).run := by
  induction active generalizing w out with
  | nil => exact hlate
  | cons p rest ih =>
    obtain ⟨hlive, hexpiry⟩ := hactive p List.mem_cons_self
    refine throughout_request_bind (fun _ => False.elim) (fun _ => ?_) fun _ => hlate
    refine ih ?_ fun p' hp' => hactive p' (List.mem_cons_of_mem _ hp')
    intro timer htimer row hrow hid hrow_live
    rcases List.mem_append.1 htimer with hold | htimer
    · exact hlate timer hold row hrow hid hrow_live
    · obtain rfl := List.mem_singleton.1 htimer
      rw [hexpiry row hrow hid]
      exact restart_late sleep hlive

/-- **`init_reaper_schedules`.** -/
theorem initReaperSchedules_late (hlate : TimersLate w) :
    Throughout (handler sleep) Spares (fun a' _ => TimersLate a'.world) ⟨w, out⟩
      initReaperSchedules.run := by
  refine throughout_request_bind (fun _ => False.elim) (fun _ => ?_) fun _ => hlate
  refine throughout_request_bind (fun _ => False.elim) (fun _ => ?_) fun _ => hlate
  have hactive : ∀ p, List.Mem p
      (w.value out (.selectActive w.clock.timestamp)) →
      w.clock.timestamp < p.2 ∧
        ∀ row ∈ w.rows.rows, row.id = p.1 → row.expiresAt = p.2 := by
    intro p hp
    obtain ⟨row, hrow, rfl⟩ := List.mem_map.1 hp
    obtain ⟨hmem, hlive⟩ := List.mem_filter.1 hrow
    refine ⟨of_decide_eq_true hlive, fun row' hrow' hid => ?_⟩
    rw [w.rows.eq_of_key_eq hrow' hmem hid]
  refine throughout_bind (scheduleAll_late hlate hactive)
    (fun a' _ hlate' => ?_) fun _ _ h => h
  exact reapExpiredInstances_spares.imp (fun _ _ h => h) fun _ _ h => h.timersLate hlate'

/-! ## What each event does -/

/-- A timer that wakes up is not for a live instance. -/
theorem not_live_of_due (hlate : TimersLate w) {timer : Timer}
    (htimer : timer ∈ w.timers) (hdue : timer.due ≤ w.clock.ms) : ¬ w.Live timer.instanceId := by
  rintro ⟨row, hrow, hid, hlive⟩
  have hrow_late := hlate timer htimer row hrow hid hlive
  rw [Int64.lt_iff_toInt_lt, Clock.toInt_timestamp] at hlive
  omega

/-- **The step lemma.**  With a new uuid and within the pending timers, an event touches
no live instance and leaves every timer late. -/
theorem begin_late {e : Event} (hlate : TimersLate w) (hnew : w.NewUuid e)
    (hrenew : w.RenewsWithinTimers e) :
    Throughout (handler sleep) Spares (fun a' _ => TimersLate a'.world)
      ⟨(w.begin e).1, e.outside⟩ (w.begin e).2.run := by
  cases e with
  | spawn req out =>
    exact throughout_bind (spawnInstance_late hlate hnew)
      (fun _ _ h => h) fun _ _ h => h
  | renew instanceId durationSeconds out =>
    exact renewInstance_late hlate hrenew
  | pass ms =>
    intro timer htimer row hrow hid hlive
    exact hlate timer htimer row hrow hid
      (Int64.lt_of_le_of_lt (w.clock.timestamp_le_advance ms) hlive)
  | fire i out =>
    simp only [begin]
    cases htimer : w.timers[i]? with
    | none => exact hlate
    | some timer =>
      simp only
      by_cases hdue : timer.due ≤ w.clock.ms
      · rw [if_pos hdue]
        have hmem : timer ∈ w.timers := List.mem_of_getElem? htimer
        have hrest : TimersLate { w with timers := w.timers.eraseIdx i } :=
          fun timer' htimer' => hlate timer' (List.mem_of_mem_eraseIdx htimer')
        have hnotlive : ¬ Live { w with timers := w.timers.eraseIdx i } timer.instanceId :=
          not_live_of_due hlate hmem hdue
        exact (destroyInstances_spares hnotlive).imp (fun _ _ h => h)
          fun _ _ h => h.timersLate hrest
      · rw [if_neg hdue]
        exact hlate
  | reap out =>
    exact reapExpiredInstances_spares.imp (fun _ _ h => h)
      fun _ _ h => h.timersLate hlate
  | restart out =>
    exact initReaperSchedules_late fun timer htimer => absurd htimer List.not_mem_nil

end

/-! ## Runs -/

/-- **A renewed instance is not reaped early.**  From any tables without timers on, in
every run whose uuids are new and whose renewals stay within the pending timers, no step
takes anything away from an instance that has not expired at that moment. -/
theorem renewed_not_reaped {sleep : Sleep} {w : Instances} (hstart : w.timers = [])
    {events : List Event} (hnew : Each (step sleep) NewUuid w events)
    (hrenew : Each (step sleep) RenewsWithinTimers w events) :
    Each (step sleep) (SparesLive sleep) w events := by
  have hlate : TimersLate w := by
    intro timer htimer
    rw [hstart] at htimer
    exact absurd htimer List.not_mem_nil
  refine each_of_each (fun w e hlate hboth => ?_) (fun w e hlate hboth => ?_) hlate
    (hnew.and hrenew)
  · exact (begin_late hlate hboth.1 hboth.2).run
  · exact (begin_late hlate hboth.1 hboth.2).imp (fun _ _ h => h) fun _ _ _ => trivial

/-- An instance that lives for ten minutes, and a service that is only starting. -/
def beforeStart : Instances where
  clock := ⟨0, by decide⟩
  rows := .single ⟨"inst-a", "web", none, "alice", "flag", "10.0.0.1", 0, 600⟩
  pods := ["inst-a"]
  services := ["inst-a"]
  timers := []

/-- A restart, a renewal for five minutes after three, and the timer of the restart. -/
def renewedBriefly : List Event :=
  [.restart {}, .pass 180000, .renew "inst-a" 300 {}, .pass 420000, .fire 0 {}]

theorem renewed_not_reaped_briefly :
    beforeStart.timers = [] ∧
    Each (step .exact) NewUuid beforeStart renewedBriefly ∧
    Each (step .exact) RenewsWithinTimers beforeStart renewedBriefly ∧
    Each (step .exact) (SparesLive .exact) beforeStart renewedBriefly := by
  have hnew : Each (step .exact) NewUuid beforeStart renewedBriefly :=
    ⟨trivial, trivial, trivial, trivial, trivial, trivial⟩
  have hrenew : Each (step .exact) RenewsWithinTimers beforeStart renewedBriefly := by
    refine ⟨trivial, trivial, ?_, trivial, trivial, trivial⟩
    intro _ _ _ timer htimer _
    change timer ∈ [(⟨"inst-a", 600000⟩ : Timer)] at htimer
    rw [List.mem_singleton.1 htimer]
    decide +kernel
  exact ⟨rfl, hnew, hrenew, renewed_not_reaped rfl hnew hrenew⟩

/-- A timer whose time has come spares the instance only if it is not live. -/
theorem not_live_of_spares {sleep : Sleep} {w : Instances} {i : ℕ} {out : Outside} (timer : Timer)
    (hspares : SparesLive sleep w (.fire i out)) (htimer : w.timers[i]? = some timer)
    (hdue : timer.due ≤ w.clock.ms) : ¬ w.Live timer.instanceId := by
  simp only [SparesLive, begin, htimer, if_pos hdue] at hspares
  -- the first call of the timer already takes the service
  exact hspares.1 timer.instanceId rfl

/-- What a renewal that does not fail leaves behind. -/
theorem step_renew (sleep : Sleep) {w : Instances} {instanceId : String} {durationSeconds : Int64}
    {out : Outside} (hfault : out.faults.headD false = false) :
    step sleep w (.renew instanceId durationSeconds out) =
      w.write sleep (.updateExpiry (w.clock.timestamp + durationSeconds) instanceId
        w.clock.timestamp) := by
  have hrun : Throughout (handler sleep) (fun _ _ => True)
      (fun a' _ => a'.world = w.write sleep
        (.updateExpiry (w.clock.timestamp + durationSeconds) instanceId w.clock.timestamp))
      ⟨w, out⟩ (renewInstance instanceId durationSeconds).run := by
    refine throughout_request_bind trivial (fun _ => ?_) fun h => absurd h Bool.false_ne_true
    refine throughout_request_bind trivial (fun _ => ?_) fun h => ?_
    · simp only
      split <;> rfl
    · have hfails : (out.faults.headD false || false) = true := h
      rw [hfault] at hfails
      exact absurd hfails Bool.false_ne_true
  exact hrun.run

/-- **The condition is needed.**  After a renewal past a pending timer, and nothing else, that
timer wakes up in time to take the instance while it is live. -/
theorem reaped_early_of_renewed (sleep : Sleep) {w : Instances} {instanceId : String}
    {durationSeconds : Int64} {out : Outside}
    (h : ¬ w.RenewsWithinTimers (.renew instanceId durationSeconds out)) :
    ∃ ms i, ¬ Each (step sleep) (SparesLive sleep) w
      [.renew instanceId durationSeconds out, .pass ms, .fire i {}] := by
  simp only [RenewsWithinTimers, not_forall] at h
  obtain ⟨⟨old, hold, hkey, hwas⟩, hfault, hlater, timer, htimer, hid, hpast⟩ := h
  have hlive := Int64.lt_iff_toInt_lt.1 hlater
  have hrange := (w.clock.timestamp + durationSeconds).toInt_lt
  rw [Clock.toInt_timestamp] at hlive
  obtain ⟨i, hi⟩ := List.getElem?_of_mem htimer
  refine ⟨timer.due - w.clock.ms, i, ?_⟩
  rintro ⟨-, -, hfire, -⟩
  rw [step_renew sleep hfault] at hfire
  have hms : (w.clock.advance (timer.due - w.clock.ms)).ms =
      w.clock.ms + (timer.due - w.clock.ms) := Clock.advance_ms (by omega)
  have hdue : timer.due ≤ (w.clock.advance (timer.due - w.clock.ms)).ms := by omega
  have hrow : { old with expiresAt := w.clock.timestamp + durationSeconds } ∈
      (w.write sleep (.updateExpiry (w.clock.timestamp + durationSeconds) instanceId
        w.clock.timestamp)).rows.rows :=
    mem_write_updateExpiry.2 ⟨old, hold, if_pos (decide_eq_true ⟨hkey, hwas⟩)⟩
  have hstill : (w.clock.advance (timer.due - w.clock.ms)).timestamp <
      w.clock.timestamp + durationSeconds := by
    rw [Int64.lt_iff_toInt_lt, Clock.toInt_timestamp]
    omega
  exact not_live_of_spares timer hfire hi hdue ⟨_, hrow, hkey.trans hid.symm, hstill⟩

/-- Nothing is there. -/
def nothing : Instances where
  clock := ⟨0, by decide⟩
  rows := .empty
  pods := []
  services := []
  timers := []

/-- An instance for ten seconds. -/
def shortInstance : SpawnRequest :=
  ⟨"web", "web:1", 8080, none, "alice", "flag", 10, "a", "b"⟩

/-- It is started, renewed after five seconds for a hundred, and its timer wakes up. -/
def renewedLong : List Event :=
  [.spawn shortInstance { clusterIp := some "10.0.0.1" }, .pass 5000, .renew "inst-a" 100 {},
    .pass 5000, .fire 0 {}]

/-- **A renewed instance is reaped early.**  After ten seconds the timer takes an instance
whose row expires after a hundred and five. -/
theorem renewed_reaped :
    nothing.timers = [] ∧ Each (step .exact) NewUuid nothing renewedLong ∧
    ¬ Each (step .exact) (SparesLive .exact) nothing renewedLong := by
  refine ⟨rfl, ⟨fun timer htimer => absurd htimer List.not_mem_nil, trivial, trivial, trivial,
    trivial, trivial⟩, ?_⟩
  rintro ⟨-, -, -, -, hfire, -⟩
  refine not_live_of_spares ⟨"inst-a", 10000⟩ hfire rfl (by decide +kernel) ?_
  refine ⟨{ shortInstance.row "10.0.0.1" 0 with expiresAt := 105 }, ?_, rfl, ?_⟩
  · exact List.mem_singleton.2 rfl
  · decide +kernel

end Cctf.Instances
