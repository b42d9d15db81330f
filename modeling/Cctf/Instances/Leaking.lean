import Cctf.Instances.Reaping
import Cctf.Instances.Resources

/-!
# Leaked pods and services

The reaper knows an instance by its row only.  This file runs the methods, the timers and
the clock in any order, any of the calls failing.

* `Operation`, `Cluster.step` — what can happen, and a run; `Cluster.Covered` — every minted
  id with a pod or a service has a row.
* `Cluster.Leaks` — a spawn that stops between its pod and its row, or a row that goes while
  its pod or its service stays.
* `always_covered_iff` — **nothing is leaked all along a run exactly when no step leaks**.
* `pod_leaked` — one failing call is enough, in either method.
-/

namespace Cctf.Instances

open Program Runs

/-! ## Operations -/

/-- What can happen: an event, or a call of `destroy_instances`. -/
inductive Operation where
  | event (e : Event)
  | destroy (instanceId : String) (outside : Outside)

/-- One operation. -/
def operate (sleep : Sleep) (w : Instances) : Operation → Instances
  | .event e => w.step sleep e
  | .destroy instanceId out =>
    (Program.run (handler sleep) ⟨w, out⟩ (destroyInstances instanceId).run).2.world

namespace Operation

/-- The ids an operation mints. -/
def mints : Operation → List String
  | .event (.spawn req _) => [req.instanceId]
  | _ => []

/-- No spawn and no renewal: all it does to instances is to destroy them. -/
def Destroys : Operation → Prop
  | .event (.spawn _ _) => False
  | .event (.renew _ _ _) => False
  | _ => True

end Operation

/-- The ids an operation destroys, and the faults of the calls it does that with. -/
def destroys (w : Instances) : Operation → List String × List Bool
  | .destroy instanceId out => ([instanceId], out.faults)
  | .event (.fire i out) =>
    match w.timers[i]? with
    | some timer => if timer.due ≤ w.clock.ms then ([timer.instanceId], out.faults) else ([], [])
    | none => ([], [])
  | .event (.reap out) =>
    if out.faults.headD false then ([], []) else (w.expired, out.faults.tail)
  | .event (.restart out) =>
    if out.faults.headD false || out.faults.tail.headD false then ([], [])
    else (w.expired, out.faults.tail.tail)
  | _ => ([], [])

theorem nodup_destroys (w : Instances) (op : Operation) : (destroys w op).1.Nodup := by
  unfold destroys
  split
  · exact List.nodup_singleton _
  · split
    · split
      · exact List.nodup_singleton _
      · exact List.nodup_nil
    · exact List.nodup_nil
  · split
    · exact List.nodup_nil
    · exact nodup_expired w
  · split
    · exact List.nodup_nil
    · exact nodup_expired w
  · exact List.nodup_nil

section

variable (sleep : Sleep) (w : Instances)

/-- An operation that only destroys. -/
theorem resources_of_destroys {op : Operation} (hop : op.Destroys) :
    (w.operate sleep op).resources =
      w.resources.reaped (destroys w op).1 (destroys w op).2 := by
  cases op with
  | destroy instanceId out => exact (destroyInstances_resources instanceId).run.1
  | event e =>
    cases e with
    | spawn req out => exact hop.elim
    | renew id d out => exact hop.elim
    | pass ms => rfl
    | fire i out =>
      rw [operate, Instances.step, begin, destroys]
      cases w.timers[i]? with
      | none => rfl
      | some timer =>
        by_cases hdue : timer.due ≤ w.clock.ms
        · simp only [if_pos hdue]
          exact (destroyInstances_resources timer.instanceId).run.1
        · simp only [if_neg hdue]
          rfl
    | reap out =>
      have hrun := (reapExpiredInstances_resources sleep w out).run
      rw [destroys]
      cases hfault : out.faults.headD false with
      | false => rw [hfault] at hrun; exact hrun
      | true => rw [hfault] at hrun; exact hrun
    | restart out =>
      have hrun := (initReaperSchedules_resources sleep { w with timers := [] } out).run
      rw [destroys]
      cases hfault : out.faults.headD false || out.faults.tail.headD false with
      | false => rw [hfault] at hrun; exact hrun
      | true => rw [hfault] at hrun; exact hrun

/-- A spawn. -/
theorem resources_of_spawn (req : SpawnRequest) (out : Outside) :
    (w.operate sleep (.event (.spawn req out))).resources =
      w.resources.spawned req out w.clock.timestamp := by
  have hspawned : Throughout (handler sleep) (fun _ _ => True)
      (fun a' _ => a'.world.resources = w.resources.spawned req out w.clock.timestamp) ⟨w, out⟩
      (w.begin (.spawn req out)).2.run :=
    throughout_bind (spawnInstance_resources sleep w out req) (fun _ _ h => h) fun _ _ h => h
  exact hspawned.run

end

/-! ## Runs -/

/-- A world, and the ids that `spawn_instance` has minted. -/
structure Cluster where
  world : Instances
  minted : List String

namespace Cluster

/-- Every minted id with a pod or a service has a row. -/
def Covered (s : Cluster) : Prop := ∀ id ∈ s.minted, s.world.resources.Whole id

instance (s : Cluster) : Decidable s.Covered := inferInstanceAs (Decidable (∀ id ∈ _, _))

/-- One operation, and what it mints. -/
def step (sleep : Sleep) (s : Cluster) (op : Operation) : Cluster :=
  ⟨s.world.operate sleep op, s.minted ++ op.mints⟩

/-- The uuid of a new instance is new. -/
def FreshUuid (s : Cluster) : Operation → Prop
  | .event (.spawn req _) =>
    ¬ s.world.resources.Uses req.instanceId ∧ ¬ s.world.resources.HasRow req.instanceId
  | _ => True

/-- A spawn that makes the pod and stops then. -/
def SpawnLeaks : Operation → Prop
  | .event (.spawn _ out) => out.faults.headD false = false ∧ SpawnStops out
  | _ => False

/-- A spawn that stops after the pod, or an instance that loses its row and keeps its pod
or its service. -/
def Leaks (s : Cluster) (op : Operation) : Prop :=
  SpawnLeaks op ∨
    s.world.resources.LeavesAny s.minted (destroys s.world op).1 (destroys s.world op).2

variable {sleep : Sleep} {s : Cluster}

/-- A spawn with a new uuid. -/
theorem covered_spawn_iff {req : SpawnRequest} {out : Outside} (h : s.Covered)
    (hfresh : s.FreshUuid (.event (.spawn req out))) :
    (s.step sleep (.event (.spawn req out))).Covered ↔ ¬ s.Leaks (.event (.spawn req out)) := by
  have hleaks : s.Leaks (.event (.spawn req out)) ↔
      out.faults.headD false = false ∧ SpawnStops out := or_iff_left id
  have hresources := resources_of_spawn sleep s.world req out
  rw [hleaks]
  constructor
  · intro hcovered
    have hself := hcovered req.instanceId
      (List.mem_append_right _ (List.mem_singleton.mpr rfl))
    rw [step, hresources] at hself
    exact (whole_spawned_iff hfresh.1 hfresh.2).mp hself
  · intro hgoes id hid
    rw [step, hresources]
    by_cases heq : id = req.instanceId
    · subst heq
      exact (whole_spawned_iff hfresh.1 hfresh.2).mpr hgoes
    · rcases List.mem_append.mp hid with hminted | hnew
      · exact (sameAt_spawned heq).whole_iff.mpr (h id hminted)
      · exact absurd (List.mem_singleton.mp hnew) heq

/-- A renewal. -/
theorem covered_renew {instanceId : String} {d : Int64} {out : Outside} (h : s.Covered) :
    (s.step sleep (.event (.renew instanceId d out))).Covered := by
  intro id hid
  have hminted : id ∈ s.minted := by simpa [step, Operation.mints] using hid
  exact (renewInstance_resources sleep s.world out instanceId d id).run.whole_iff.mpr
    (h id hminted)

/-- An operation that only destroys. -/
theorem covered_destroys_iff {op : Operation} (hop : op.Destroys) (h : s.Covered) :
    (s.step sleep op).Covered ↔ ¬ s.Leaks op := by
  have hnothing : ¬ SpawnLeaks op ∧ op.mints = [] := by
    cases op with
    | destroy instanceId out => exact ⟨id, rfl⟩
    | event e =>
      cases e with
      | spawn req out => exact hop.elim
      | _ => exact ⟨id, rfl⟩
  rw [Leaks, or_iff_right hnothing.1, step, hnothing.2, List.append_nil, Covered,
    resources_of_destroys sleep s.world hop,
    Resources.whole_reaped_iff (nodup_destroys s.world op) fun id hid _ => h id hid]
  exact and_iff_right fun id hid _ => h id hid

/-- **The step lemma.** -/
theorem covered_step_iff {op : Operation} (hfresh : s.FreshUuid op) (h : s.Covered) :
    (s.step sleep op).Covered ↔ ¬ s.Leaks op := by
  cases op with
  | destroy instanceId out => exact covered_destroys_iff trivial h
  | event e =>
    cases e with
    | spawn req out => exact covered_spawn_iff h hfresh
    | renew id d out => exact iff_of_true (covered_renew h) (not_or.mpr ⟨nofun, nofun⟩)
    | _ => exact covered_destroys_iff trivial h

end Cluster

/-- **Nothing is leaked all along a run exactly when no step leaks**: no spawn stops between
its pod and its row, and no row goes while its pod or its service stays. -/
theorem always_covered_iff (sleep : Sleep) (w : Instances) (ops : List Operation)
    (hfresh : Each (Cluster.step sleep) Cluster.FreshUuid ⟨w, []⟩ ops) :
    Always (Cluster.step sleep) Cluster.Covered ⟨w, []⟩ ops ↔
      Each (Cluster.step sleep) (fun s op => ¬ s.Leaks op) ⟨w, []⟩ ops :=
  always_iff_each_of_each (fun _ _ hfresh hcovered => Cluster.covered_step_iff hfresh hcovered)
    (fun _ hid => absurd hid List.not_mem_nil) hfresh

/-! ## Two leaks -/

/-- The second call of a method fails, the others succeed. -/
def secondFails : Outside := { faults := [false, true], clusterIp := some "10.0.0.1" }

/-- No call fails. -/
def allSucceed : Outside := { clusterIp := some "10.0.0.1" }

/-- An instance is started, and its service is refused. -/
def stoppedSpawn : List Operation := [.event (.spawn shortInstance secondFails)]

/-- An instance is started and destroyed, and its pod cannot be deleted. -/
def keptPod : List Operation :=
  [.event (.spawn shortInstance allSucceed), .destroy "inst-a" secondFails]

theorem freshUuid_stoppedSpawn :
    Each (Cluster.step .exact) Cluster.FreshUuid ⟨nothing, []⟩ stoppedSpawn :=
  ⟨show ¬ _ ∧ ¬ _ by decide +kernel, trivial⟩

theorem freshUuid_keptPod :
    Each (Cluster.step .exact) Cluster.FreshUuid ⟨nothing, []⟩ keptPod :=
  ⟨show ¬ _ ∧ ¬ _ by decide +kernel, trivial, trivial⟩

/-- Each time one call fails, and a pod is left that has no row. -/
theorem pod_leaked :
    Each (Cluster.step .exact) Cluster.FreshUuid ⟨nothing, []⟩ stoppedSpawn ∧
      ¬ (Runs.run (Cluster.step .exact) ⟨nothing, []⟩ stoppedSpawn).Covered ∧
      Each (Cluster.step .exact) Cluster.FreshUuid ⟨nothing, []⟩ keptPod ∧
      ¬ (Runs.run (Cluster.step .exact) ⟨nothing, []⟩ keptPod).Covered :=
  ⟨freshUuid_stoppedSpawn, by decide +kernel, freshUuid_keptPod, by decide +kernel⟩

theorem always_covered_iff_keptPod :
    Always (Cluster.step .exact) Cluster.Covered ⟨nothing, []⟩ keptPod ↔
      Each (Cluster.step .exact) (fun s op => ¬ s.Leaks op) ⟨nothing, []⟩ keptPod :=
  always_covered_iff .exact nothing keptPod freshUuid_keptPod

end Cctf.Instances
