import Cctf.Services.Instancer

/-!
# What is there of an instance

An instance has a pod, a service and a row.  `spawn_instance` makes them in this order and
returns at the first call that fails; `destroy_instances` takes the service and the pod
away, whether that fails or not, and then the row.

* `Resources` — the rows, the pods and the services; `Whole` — an instance that has a pod or
  a service has a row.
* `spawned`, `destroyed`, `reaped` — what the methods make of them, by the calls that fail.
* `spawnInstance_resources`, `destroyInstances_resources`, `reapExpiredInstances_resources`,
  `initReaperSchedules_resources` — that the methods do so.
* `whole_spawned_iff`, `whole_destroyed_iff`, `whole_reaped_iff` — when that leaves an
  instance whole; `mem_rows_spawned` — when there is a new row.
-/

namespace Cctf.Instances

open Program

/-! ## What is there of an instance -/

/-- What is there of the instances. -/
structure Resources where
  rows : Table InstanceRow String InstanceRow.id
  pods : List String
  services : List String

/-- What is there of the instances in a world. -/
def resources (w : Instances) : Resources := ⟨w.rows, w.pods, w.services⟩

namespace Resources

/-- The instance has a pod or a service. -/
def Uses (r : Resources) (id : String) : Prop := id ∈ r.pods ∨ id ∈ r.services

/-- The instance has a row. -/
def HasRow (r : Resources) (id : String) : Prop := ∃ row ∈ r.rows.rows, row.id = id

/-- The reaper knows what there is of the instance. -/
def Whole (r : Resources) (id : String) : Prop := r.Uses id → r.HasRow id

instance (r : Resources) (id : String) : Decidable (r.Uses id) :=
  inferInstanceAs (Decidable (_ ∨ _))

instance (r : Resources) (id : String) : Decidable (r.HasRow id) :=
  inferInstanceAs (Decidable (∃ row ∈ _, _))

instance (r : Resources) (id : String) : Decidable (r.Whole id) :=
  inferInstanceAs (Decidable (_ → _))

/-- Of one instance there is the same. -/
structure SameAt (r r' : Resources) (id : String) : Prop where
  pods : id ∈ r'.pods ↔ id ∈ r.pods
  services : id ∈ r'.services ↔ id ∈ r.services
  rows : r'.HasRow id ↔ r.HasRow id

variable {r r' r'' : Resources} {id other : String} {faults : List Bool}

theorem SameAt.refl (r : Resources) (id : String) : SameAt r r id := ⟨Iff.rfl, Iff.rfl, Iff.rfl⟩

theorem SameAt.whole_iff (h : SameAt r r' id) : r'.Whole id ↔ r.Whole id := by
  rw [Whole, Whole, Uses, Uses, h.pods, h.services, h.rows]

theorem hasRow_iff : r.HasRow id ↔ id ∈ r.rows.rows.map InstanceRow.id := List.mem_map.symm

theorem hasRow_erase : (⟨r.rows.erase id, r.pods, r.services⟩ : Resources).HasRow other ↔
    r.HasRow other ∧ other ≠ id := by
  constructor
  · rintro ⟨row, hrow, rfl⟩
    obtain ⟨hmem, hne⟩ := List.mem_filter.mp hrow
    exact ⟨⟨row, hmem, rfl⟩, by simpa using hne⟩
  · rintro ⟨⟨row, hrow, rfl⟩, hne⟩
    exact ⟨row, List.mem_filter.mpr ⟨hrow, by simpa using hne⟩, rfl⟩

/-! ## Destroying -/

/-- What `destroy_instances` makes of it; three calls may fail. -/
def destroyed (r : Resources) (id : String) (faults : List Bool) : Resources where
  services := if faults.headD false then r.services else r.services.filter (· ≠ id)
  pods := if faults.tail.headD false then r.pods else r.pods.filter (· ≠ id)
  rows := if faults.tail.tail.headD false then r.rows else r.rows.erase id

/-- The row goes, and the service or the pod stays. -/
def Leaves (r : Resources) (id : String) (faults : List Bool) : Prop :=
  faults.tail.tail.headD false = false ∧
    (faults.headD false = true ∧ id ∈ r.services ∨ faults.tail.headD false = true ∧ id ∈ r.pods)

theorem mem_services_destroyed : other ∈ (r.destroyed id faults).services ↔
    other ∈ r.services ∧ (other = id → faults.headD false = true) := by
  rw [destroyed]
  cases faults.headD false <;> simp

theorem mem_pods_destroyed : other ∈ (r.destroyed id faults).pods ↔
    other ∈ r.pods ∧ (other = id → faults.tail.headD false = true) := by
  rw [destroyed]
  cases faults.tail.headD false <;> simp

theorem hasRow_destroyed : (r.destroyed id faults).HasRow other ↔
    r.HasRow other ∧ (other = id → faults.tail.tail.headD false = true) := by
  have hrows : (r.destroyed id faults).HasRow other ↔ (⟨if faults.tail.tail.headD false then r.rows
      else r.rows.erase id, r.pods, r.services⟩ : Resources).HasRow other := Iff.rfl
  rw [hrows]
  cases faults.tail.tail.headD false with
  | false => simpa using hasRow_erase
  | true => simp [HasRow]

/-- The others stay as they are. -/
theorem sameAt_destroyed (h : other ≠ id) : SameAt r (r.destroyed id faults) other := by
  refine ⟨?_, ?_, ?_⟩
  · simp [mem_pods_destroyed, h]
  · simp [mem_services_destroyed, h]
  · simp [hasRow_destroyed, h]

/-- **The instance itself is whole** unless its row goes without the rest. -/
theorem whole_destroyed_iff (h : r.Whole id) :
    (r.destroyed id faults).Whole id ↔ ¬ r.Leaves id faults := by
  rw [Whole, Uses, mem_pods_destroyed, mem_services_destroyed, hasRow_destroyed, Leaves]
  cases hrow : faults.tail.tail.headD false with
  | true =>
    refine iff_of_true (fun huses => ?_) (by simp)
    exact ⟨h (huses.imp And.left And.left), fun _ => rfl⟩
  | false =>
    simp only [forall_const, true_and, Bool.false_eq_true, and_false, imp_false, not_or, not_and]
    tauto

/-! ## Sweeping -/

/-- What the loop of `reap_expired_instances` makes of it. -/
def reaped (r : Resources) : List String → List Bool → Resources
  | [], _ => r
  | id :: rest, faults => (r.destroyed id faults).reaped rest faults.tail.tail.tail

/-- Some instance of those that count is left. -/
def LeavesAny (minted : List String) (r : Resources) : List String → List Bool → Prop
  | [], _ => False
  | id :: rest, faults =>
    id ∈ minted ∧ r.Leaves id faults ∨ LeavesAny minted r rest faults.tail.tail.tail

theorem leavesAny_congr {minted ids : List String} (h : ∀ id ∈ ids, SameAt r r' id) :
    LeavesAny minted r' ids faults ↔ LeavesAny minted r ids faults := by
  induction ids generalizing faults with
  | nil => exact Iff.rfl
  | cons id rest ih =>
    have hid := h id List.mem_cons_self
    rw [LeavesAny, LeavesAny, ih fun id' hid' => h id' (List.mem_cons_of_mem _ hid'), Leaves, Leaves,
      hid.pods, hid.services]

/-- **After a sweep all are whole** unless it leaves one, or one was not whole before. -/
theorem whole_reaped_iff {minted ids : List String} (hnodup : ids.Nodup)
    (h : ∀ id ∈ minted, id ∈ ids → r.Whole id) :
    (∀ id ∈ minted, (r.reaped ids faults).Whole id) ↔
      (∀ id ∈ minted, id ∉ ids → r.Whole id) ∧ ¬ LeavesAny minted r ids faults := by
  induction ids generalizing r faults with
  | nil => simp [reaped, LeavesAny]
  | cons id rest ih =>
    obtain ⟨hid, hrest⟩ := List.nodup_cons.mp hnodup
    have hsame : ∀ id' ≠ id, SameAt r (r.destroyed id faults) id' := fun id' hne =>
      sameAt_destroyed hne
    have hne : ∀ id' ∈ rest, id' ≠ id := fun id' hmem heq => hid (heq ▸ hmem)
    have hwhole : ∀ id' ∈ minted, id' ∈ rest → (r.destroyed id faults).Whole id' :=
      fun id' hminted hmem =>
        (hsame id' (hne id' hmem)).whole_iff.mpr (h id' hminted (List.mem_cons_of_mem _ hmem))
    rw [reaped, ih hrest hwhole, LeavesAny,
      leavesAny_congr fun id' hmem => hsame id' (hne id' hmem), not_or, ← and_assoc]
    refine and_congr ⟨fun hall => ⟨fun id' hminted hmem => ?_, fun ⟨hminted, hleaves⟩ => ?_⟩,
      fun ⟨hall, hkept⟩ id' hminted hmem => ?_⟩ Iff.rfl
    · exact (hsame id' (List.ne_of_not_mem_cons hmem)).whole_iff.mp
        (hall id' hminted (List.not_mem_of_not_mem_cons hmem))
    · exact (whole_destroyed_iff (h id hminted List.mem_cons_self)).mp (hall id hminted hid) hleaves
    · by_cases heq : id' = id
      · subst heq
        exact (whole_destroyed_iff (h id' hminted List.mem_cons_self)).mpr
          fun hleaves => hkept ⟨hminted, hleaves⟩
      · exact (hsame id' heq).whole_iff.mpr
          (hall id' hminted (List.not_mem_cons_of_ne_of_not_mem heq hmem))

end Resources

/-! ## What the methods do -/

section Methods

variable {sleep : Sleep} {w : Instances} {out : Outside}

/-- What a call that takes something away leaves. -/
def Resources.take (r : Resources) : InstancerOp → Resources
  | .deletePod name => { r with pods := r.pods.filter (· ≠ name) }
  | .deleteService name => { r with services := r.services.filter (· ≠ name) }
  | .deleteInstance id => { r with rows := r.rows.erase id }
  | _ => r

theorem resources_write {op : InstancerOp} {id : String} (hop : op.Ends id) :
    (w.write sleep op).resources = w.resources.take op := by
  cases op with
  | deletePod name => rfl
  | deleteService name => rfl
  | deleteInstance id' => rfl
  | _ => exact hop.elim

/-- Taking away what is not there changes nothing. -/
theorem take_of_refuses {op : InstancerOp} {id : String} (hop : op.Ends id)
    (h : w.refuses op = true) : w.resources.take op = w.resources := by
  have hfilter : ∀ {names : List String}, id ∉ names → names.filter (· ≠ id) = names :=
    fun hmem => List.filter_eq_self.mpr fun name hname => by
      simpa using fun heq : name = id => hmem (heq ▸ hname)
  cases op with
  | deletePod name =>
    cases hop
    rw [Resources.take, resources, hfilter (of_decide_eq_true h)]
  | deleteService name =>
    cases hop
    rw [Resources.take, resources, hfilter (of_decide_eq_true h)]
  | deleteInstance id' => cases h
  | _ => exact hop.elim

/-- A call that takes something of an instance away, if it is there. -/
theorem request_takes {op : InstancerOp} {id : String} (hop : op.Ends id) :
    Throughout (handler sleep) (fun _ _ => True) (fun a' _ =>
        a'.world.resources =
          (if out.faults.headD false then w.resources else w.resources.take op) ∧
        a'.outside.faults = out.faults.tail) ⟨w, out⟩ (request op).run := by
  have hfallible : op.Fallible = true := by
    cases op with
    | timestamp => exact hop.elim
    | scheduleReap _ _ => exact hop.elim
    | _ => rfl
  have hrest : (Attempt.rest ⟨w, out⟩ op).faults = out.faults.tail := by
    rw [Attempt.rest, if_pos hfallible]
  refine throughout_request trivial (fun hok => ⟨?_, hrest⟩) fun hfails => ⟨?_, hrest⟩
  · rw [(Attempt.of_not_fails hfallible hok).1]
    exact resources_write hop
  · have hcause : (out.faults.headD false || w.refuses op) = true := by
      simpa [Attempt.fails, hfallible] using hfails
    cases hfault : out.faults.headD false with
    | true => rfl
    | false =>
      rw [hfault, Bool.false_or] at hcause
      exact (take_of_refuses hop hcause).symm

/-- `destroy_instances` -/
theorem destroyInstances_resources (id : String) :
    Throughout (handler sleep) (fun _ _ => True) (fun a' _ =>
        a'.world.resources = w.resources.destroyed id out.faults ∧
        a'.outside.faults = out.faults.tail.tail.tail) ⟨w, out⟩ (destroyInstances id).run := by
  have hends : InstancerOp.Ends id (.deleteService id) ∧ InstancerOp.Ends id (.deletePod id) ∧
      InstancerOp.Ends id (.deleteInstance id) := ⟨rfl, rfl, rfl⟩
  obtain ⟨hservice, hpod, hrow⟩ := hends
  refine throughout_ignore_bind (request_takes hservice) fun a₁ _ h₁ => ?_
  refine throughout_ignore_bind (request_takes hpod) fun a₂ _ h₂ => ?_
  have hlast : ∀ a₃ : Attempt, a₃.world.resources = (if a₂.outside.faults.headD false then
        a₂.world.resources else a₂.world.resources.take (.deleteInstance id)) ∧
      a₃.outside.faults = a₂.outside.faults.tail →
      a₃.world.resources = w.resources.destroyed id out.faults ∧
        a₃.outside.faults = out.faults.tail.tail.tail := by
    rintro a₃ ⟨hresources, hfaults⟩
    rw [h₂.2, h₁.2] at hresources hfaults
    rw [h₂.1, h₁.2, h₁.1] at hresources
    refine ⟨hresources.trans ?_, hfaults⟩
    rw [Resources.destroyed]
    cases out.faults.headD false <;> cases out.faults.tail.headD false <;>
      cases out.faults.tail.tail.headD false <;> rfl
  exact throughout_bind (request_takes hrow) (fun a₃ _ h₃ => hlast a₃ h₃) fun a₃ _ h₃ => hlast a₃ h₃

end Methods

section Sweeps

variable (sleep : Sleep) (w : Instances) (out : Outside)

/-- The loop of `reap_expired_instances`. -/
theorem reapAll_resources (ids : List String) :
    Throughout (handler sleep) (fun _ _ => True)
      (fun a' _ => a'.world.resources = w.resources.reaped ids out.faults) ⟨w, out⟩
      (reapAll ids).run := by
  induction ids generalizing w out with
  | nil => exact rfl
  | cons id rest ih =>
    refine throughout_ignore_bind (destroyInstances_resources id) fun a₁ _ h₁ => ?_
    refine (ih a₁.world a₁.outside).imp (fun _ _ h => h) fun a' _ h => ?_
    rw [h, h₁.1, h₁.2]
    rfl

/-- The ids the sweep selects. -/
def expired (w : Instances) : List String :=
  (w.rows.rows.filter fun row => decide (row.expiresAt ≤ w.clock.timestamp)).map InstanceRow.id

theorem nodup_expired : w.expired.Nodup :=
  (List.filter_sublist.map InstanceRow.id).nodup w.rows.nodup

/-- `reap_expired_instances` -/
theorem reapExpiredInstances_resources :
    Throughout (handler sleep) (fun _ _ => True)
      (fun a' _ => a'.world.resources =
        if out.faults.headD false then w.resources
        else w.resources.reaped w.expired out.faults.tail) ⟨w, out⟩ reapExpiredInstances.run := by
  refine throughout_request_bind trivial (fun _ => ?_) fun h => absurd h Bool.false_ne_true
  refine throughout_request_bind trivial (fun hok => ?_) fun hfails => ?_
  · rw [show out.faults.headD false = false from (Attempt.of_not_fails rfl hok).1]
    exact reapAll_resources sleep w { out with faults := out.faults.tail } w.expired
  · have hfault : (out.faults.headD false || false) = true := hfails
    rw [Bool.or_false] at hfault
    rw [hfault]
    rfl

/-- The loop of `init_reaper_schedules` only sets timers. -/
theorem scheduleAll_resources (now : Int64) (active : List (String × Int64)) :
    Throughout (handler sleep) (fun _ _ => True)
      (fun a' r => a'.world.resources = w.resources ∧ a'.world.expired = w.expired ∧
        a'.outside = out ∧ r = .ok ()) ⟨w, out⟩ (scheduleAll now active).run := by
  induction active generalizing w out with
  | nil => exact ⟨rfl, rfl, rfl, rfl⟩
  | cons p rest ih =>
    refine throughout_request_bind trivial (fun _ => ?_) fun h => absurd h Bool.false_ne_true
    exact ih (w.write sleep (.scheduleReap p.1 (reapDelay now p.2))) out

/-- `init_reaper_schedules` -/
theorem initReaperSchedules_resources :
    Throughout (handler sleep) (fun _ _ => True)
      (fun a' _ => a'.world.resources =
        if out.faults.headD false || out.faults.tail.headD false then w.resources
        else w.resources.reaped w.expired out.faults.tail.tail) ⟨w, out⟩
      initReaperSchedules.run := by
  refine throughout_request_bind trivial (fun _ => ?_) fun h => absurd h Bool.false_ne_true
  refine throughout_request_bind trivial (fun hok => ?_) fun hfails => ?_
  · have hfault : out.faults.headD false = false := (Attempt.of_not_fails rfl hok).1
    rw [hfault, Bool.false_or]
    refine throughout_bind
      (scheduleAll_resources sleep w { out with faults := out.faults.tail } _ _)
      (fun a₁ _ h₁ => ?_) fun a₁ e h₁ => nomatch h₁.2.2.2
    obtain ⟨hresources, hexpired, houtside, -⟩ := h₁
    refine (reapExpiredInstances_resources sleep a₁.world a₁.outside).imp (fun _ _ h => h)
      fun a' _ h => ?_
    rw [h, hresources, hexpired, houtside]
  · have hfault : (out.faults.headD false || false) = true := hfails
    rw [Bool.or_false] at hfault
    rw [hfault]
    rfl

/-- `renew_instance` moves an expiry. -/
theorem renewInstance_resources (instanceId : String) (durationSeconds : Int64) (id : String) :
    Throughout (handler sleep) (fun _ _ => True)
      (fun a' _ => Resources.SameAt w.resources a'.world.resources id) ⟨w, out⟩
      (renewInstance instanceId durationSeconds).run := by
  have hrenewed : ∀ expiresAt now : Int64, Resources.SameAt w.resources
      (w.write sleep (.updateExpiry expiresAt instanceId now)).resources id := by
    refine fun expiresAt now => ⟨Iff.rfl, Iff.rfl, ?_⟩
    rw [Resources.hasRow_iff, Resources.hasRow_iff]
    exact iff_of_eq (congrArg (id ∈ ·) (Table.keys_updateWhere w.rows (hits instanceId now)
      (fun row => { row with expiresAt := expiresAt }) fun _ => rfl))
  refine throughout_request_bind trivial (fun _ => ?_) fun h => absurd h Bool.false_ne_true
  refine throughout_request_bind trivial (fun hok => ?_) fun _ => .refl _ _
  simp only
  split
  · exact hrenewed _ _
  · exact hrenewed _ _

end Sweeps

/-! ## Spawning -/

section Spawning

variable {r r' : Resources} {id : String}

/-- What `spawn_instance` makes of it. -/
def Resources.spawned (r : Resources) (req : SpawnRequest) (out : Outside) (createdAt : Int64) :
    Resources :=
  if out.faults.headD false || decide (req.instanceId ∈ r.pods) then r
  else if out.faults.tail.headD false || decide (req.instanceId ∈ r.services) then
    { r with pods := req.instanceId :: r.pods }
  else
    match out.clusterIp with
    | none =>
      { r with pods := req.instanceId :: r.pods, services := req.instanceId :: r.services }
    | some clusterIp =>
      { rows :=
          if out.faults.tail.tail.headD false then r.rows
          else (r.rows.insert (req.row clusterIp createdAt)).getD r.rows
        pods := req.instanceId :: r.pods
        services := req.instanceId :: r.services }

/-- `spawn_instance` -/
theorem spawnInstance_resources (sleep : Sleep) (w : Instances) (out : Outside)
    (req : SpawnRequest) :
    Throughout (handler sleep) (fun _ _ => True)
      (fun a' _ => a'.world.resources = w.resources.spawned req out w.clock.timestamp) ⟨w, out⟩
      (spawnInstance req).run := by
  obtain ⟨faults, clusterIp, failure⟩ := out
  rw [Resources.spawned]
  -- the pod
  refine throughout_request_bind trivial (fun hok => ?_) fun hfails => ?_
  swap
  · have hpod : (faults.headD false || decide (req.instanceId ∈ w.resources.pods)) = true := hfails
    rw [if_pos hpod]
  have hpod : (faults.headD false || decide (req.instanceId ∈ w.resources.pods)) = false := hok
  rw [hpod, if_neg Bool.false_ne_true]
  -- the service
  refine throughout_request_bind trivial (fun hok => ?_) fun hfails => ?_
  swap
  · have hservice : (faults.tail.headD false ||
        decide (req.instanceId ∈ w.resources.services)) = true := hfails
    rw [if_pos hservice]
    rfl
  have hservice : (faults.tail.headD false ||
      decide (req.instanceId ∈ w.resources.services)) = false := hok
  rw [hservice, if_neg Bool.false_ne_true]
  cases clusterIp with
  | none => exact rfl
  | some clusterIp =>
    -- the row
    refine throughout_request_bind trivial (fun _ => ?_) fun h => absurd h Bool.false_ne_true
    refine throughout_request_bind trivial (fun hok => ?_) fun hfails => ?_
    · have hrow : faults.tail.tail.headD false = false := (Attempt.of_not_fails rfl hok).1
      simp only [hrow, Bool.false_eq_true, if_false]
      exact throughout_request_bind trivial (fun _ => rfl) fun h => absurd h Bool.false_ne_true
    · have hcause : (faults.tail.tail.headD false ||
          (w.rows.insert (req.row clusterIp w.clock.timestamp)).isNone) = true := hfails
      cases hrow : faults.tail.tail.headD false with
      | true => rfl
      | false =>
        rw [hrow, Bool.false_or, Option.isNone_iff_eq_none] at hcause
        have hsame : (w.resources.rows.insert (req.row clusterIp w.clock.timestamp)).getD
            w.resources.rows = w.rows := congrArg (Option.getD · w.rows) hcause
        simp only [Bool.false_eq_true, if_false, hsame]
        rfl

/-- The calls of a spawn after the one for the pod: one of them fails. -/
def SpawnStops (out : Outside) : Prop :=
  out.faults.tail.headD false = true ∨ out.clusterIp = none ∨
    out.faults.tail.tail.headD false = true

/-- No call of a spawn fails, or finds its name taken. -/
structure Resources.Accepts (r : Resources) (req : SpawnRequest) (out : Outside) : Prop where
  pod : out.faults.headD false = false
  podName : req.instanceId ∉ r.pods
  service : out.faults.tail.headD false = false
  serviceName : req.instanceId ∉ r.services
  row : out.faults.tail.tail.headD false = false
  rowId : ¬ r.HasRow req.instanceId

/-- The rows stay. -/
theorem mem_rows_spawned_of_mem {req : SpawnRequest} {out : Outside} {createdAt : Int64}
    {row : InstanceRow} (h : row ∈ r.rows.rows) : row ∈ (r.spawned req out createdAt).rows.rows := by
  rw [Resources.spawned]
  split_ifs
  · exact h
  · exact h
  · split <;> exact h
  · split
    · exact h
    · exact Table.mem_getD_insert.mpr (.inl h)

/-- A spawn that goes through makes its row. -/
theorem Resources.Accepts.row_mem {req : SpawnRequest} {out : Outside} {createdAt : Int64}
    {clusterIp : String} (h : r.Accepts req out) (hip : out.clusterIp = some clusterIp) :
    req.row clusterIp createdAt ∈ (r.spawned req out createdAt).rows.rows := by
  obtain ⟨hpod, hpodName, hservice, hserviceName, hrow, hrowId⟩ := h
  simp only [Resources.spawned, hpod, hpodName, hservice, hserviceName, hrow, hip, decide_false,
    Bool.or_self, Bool.false_eq_true, if_false]
  exact Table.mem_getD_insert.mpr (.inr ⟨fun hmem => hrowId (Resources.hasRow_iff.mpr hmem), rfl⟩)

/-- The row of a spawn that goes through. -/
theorem mem_rows_spawned {req : SpawnRequest} {out : Outside} {createdAt : Int64}
    {row : InstanceRow} :
    row ∈ (r.spawned req out createdAt).rows.rows ↔ row ∈ r.rows.rows ∨
      r.Accepts req out ∧
        ∃ clusterIp, out.clusterIp = some clusterIp ∧ row = req.row clusterIp createdAt := by
  constructor
  · intro h
    rw [Resources.spawned] at h
    split_ifs at h with hpod hservice hrow
    · exact .inl h
    · exact .inl h
    · split at h
      · exact .inl h
      · exact .inl h
    · simp only [Bool.or_eq_true, decide_eq_true_eq, not_or, Bool.not_eq_true] at hpod hservice hrow
      split at h
      · exact .inl h
      · rename_i clusterIp hip
        refine (Table.mem_getD_insert.mp h).imp id fun ⟨hnew, heq⟩ => ⟨?_, clusterIp, hip, heq⟩
        exact ⟨hpod.1, hpod.2, hservice.1, hservice.2, hrow,
          fun hhas => hnew (Resources.hasRow_iff.mp hhas)⟩
  · rintro (hold | ⟨haccepts, clusterIp, hip, rfl⟩)
    · exact mem_rows_spawned_of_mem hold
    · exact haccepts.row_mem hip

/-- The other instances stay as they are. -/
theorem sameAt_spawned {req : SpawnRequest} {out : Outside} {createdAt : Int64} {other : String}
    (hne : other ≠ req.instanceId) : Resources.SameAt r (r.spawned req out createdAt) other := by
  have hrows : (r.spawned req out createdAt).HasRow other ↔ r.HasRow other := by
    constructor
    · rintro ⟨row, hrow, rfl⟩
      rcases mem_rows_spawned.mp hrow with hold | ⟨-, clusterIp, -, rfl⟩
      · exact ⟨row, hold, rfl⟩
      · exact absurd rfl hne
    · rintro ⟨row, hrow, rfl⟩
      exact ⟨row, mem_rows_spawned.mpr (.inl hrow), rfl⟩
  refine ⟨?_, ?_, hrows⟩
  · rw [Resources.spawned]
    split_ifs <;> (try split) <;> simp [hne]
  · rw [Resources.spawned]
    split_ifs <;> (try split) <;> simp [hne]

/-- A new name has a pod or a service as soon as the pod is made. -/
theorem uses_spawned_iff {req : SpawnRequest} {out : Outside} {createdAt : Int64}
    (hunused : ¬ r.Uses req.instanceId) :
    (r.spawned req out createdAt).Uses req.instanceId ↔ out.faults.headD false = false := by
  obtain ⟨hpods, hservices⟩ := not_or.mp hunused
  simp only [Resources.spawned, hpods, decide_false, Bool.or_false]
  cases out.faults.headD false with
  | true => exact iff_of_false hunused Bool.noConfusion
  | false =>
    refine iff_of_true (.inl ?_) rfl
    simp only [Bool.false_eq_true, if_false]
    split_ifs
    · exact List.mem_cons_self
    · split <;> exact List.mem_cons_self
    · split <;> exact List.mem_cons_self

/-- Whether the instance of a spawn with a new uuid is whole. -/
theorem whole_spawned_iff {req : SpawnRequest} {out : Outside} {createdAt : Int64}
    (hunused : ¬ r.Uses req.instanceId) (hnew : ¬ r.HasRow req.instanceId) :
    (r.spawned req out createdAt).Whole req.instanceId ↔
      ¬ (out.faults.headD false = false ∧ SpawnStops out) := by
  obtain ⟨hpods, hservices⟩ := not_or.mp hunused
  rw [Resources.Whole, uses_spawned_iff hunused, not_and]
  refine forall_congr' fun hpod => ⟨?_, fun hgoes => ?_⟩
  · rintro ⟨row, hrow, hid⟩
    rcases mem_rows_spawned.mp hrow with hold | ⟨haccepts, clusterIp, hip, -⟩
    · exact absurd ⟨row, hold, hid⟩ hnew
    · rintro (hservice | hnone | hstops)
      · exact Bool.false_ne_true (haccepts.service.symm.trans hservice)
      · exact Option.some_ne_none _ (hip.symm.trans hnone)
      · exact Bool.false_ne_true (haccepts.row.symm.trans hstops)
  · obtain ⟨hservice, hip, hstops⟩ := not_or.mp hgoes |>.imp id not_or.mp
    obtain ⟨clusterIp, hip⟩ := Option.ne_none_iff_exists'.mp hip
    refine ⟨req.row clusterIp createdAt, mem_rows_spawned.mpr (.inr ⟨?_, clusterIp, hip, rfl⟩), rfl⟩
    exact ⟨hpod, hpods, by simpa using hservice, hservices, by simpa using hstops, hnew⟩

end Spawning

end Cctf.Instances
