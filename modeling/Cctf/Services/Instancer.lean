import Cctf.Library.Table
import Cctf.Library.Text
import Cctf.Repos.Traits

/-!
# Challenge instances

`InstancerService` starts a pod and a service for one player or team, keeps a row of
`challenge_instances` about them, and takes them down again: by a timer that it sets
when it starts them, and by a sweep over the rows that have expired.

* `Clock` — the wall clock; `Clock.timestamp` is what the service reads.
* `renderInstancedFlag` — the flag of an instance.
* `InstancerOp` — the calls on Kubernetes, on the table and on the runtime.
* `spawnInstance`, `destroyInstances`, `renewInstance`, `reapExpiredInstances`,
  `initReaperSchedules` — the methods, as programs of these calls.
* `Instances` — the cluster, the table and the pending timers; `Instances.handler` what
  the calls do there, any of them possibly failing.
-/

namespace Cctf

open Program

/-! ## Time -/

/-- The wall clock, in milliseconds; its seconds are an `i64`. -/
structure Clock where
  ms : ℕ
  inRange : ms / 1000 < 2 ^ 63

namespace Clock

/-- `Utc::now().timestamp()`. -/
def timestamp (c : Clock) : Int64 := Int64.ofNat (c.ms / 1000)

/-- Time passes, up to the end of the range. -/
def advance (c : Clock) (ms : ℕ) : Clock :=
  if h : (c.ms + ms) / 1000 < 2 ^ 63 then ⟨c.ms + ms, h⟩ else c

@[simp] theorem toInt_timestamp (c : Clock) : c.timestamp.toInt = (c.ms / 1000 : ℕ) :=
  Int64.toInt_ofNat_of_lt c.inRange

theorem timestamp_nonneg (c : Clock) : 0 ≤ c.timestamp.toInt := by
  rw [toInt_timestamp]
  exact Int.natCast_nonneg _

theorem timestamp_le (c : Clock) : 1000 * c.timestamp.toInt ≤ c.ms := by
  rw [toInt_timestamp]
  omega

theorem advance_ms {c : Clock} {ms : ℕ} (h : (c.ms + ms) / 1000 < 2 ^ 63) :
    (c.advance ms).ms = c.ms + ms := by
  rw [advance, dif_pos h]

theorem ms_le_advance (c : Clock) (ms : ℕ) : c.ms ≤ (c.advance ms).ms := by
  rw [advance]
  split
  · exact Nat.le_add_right _ _
  · exact le_rfl

/-- Time does not go back. -/
theorem timestamp_le_advance (c : Clock) (ms : ℕ) : c.timestamp ≤ (c.advance ms).timestamp := by
  rw [Int64.le_iff_toInt_le, toInt_timestamp, toInt_timestamp]
  exact_mod_cast Nat.div_le_div_right (c.ms_le_advance ms)

end Clock

/-- The runtime's timers: when a sleep of some seconds that begins at `clock`
milliseconds ends.  A sleep that fits the clock is not cut short. -/
structure Sleep where
  wake : (clock : ℕ) → (seconds : UInt64) → ℕ
  notEarly : ∀ clock seconds, seconds.toNat < 2 ^ 63 →
    clock + 1000 * seconds.toNat ≤ wake clock seconds

/-- Timers that are exact. -/
def Sleep.exact : Sleep where
  wake clock seconds := clock + 1000 * seconds.toNat
  notEarly _ _ _ := le_rfl

/-! ## The flag of an instance -/

/-- `render_instanced_flag`. -/
def renderInstancedFlag (template challengeId randomPart : String) : String :=
  let rendered :=
    if Text.contains template "\x7b\x7brandom\x7d\x7d" ||
        Text.contains template "\x7b\x7buuid\x7d\x7d" then
      Text.replace (Text.replace template "\x7b\x7brandom\x7d\x7d" randomPart)
        "\x7b\x7buuid\x7d\x7d" randomPart
    else if template.toList.getLast? = some '\x7d' ∧ 1 < template.utf8ByteSize then
      let body := String.ofList template.toList.dropLast
      -- the index counts bytes, the characters are counted one by one
      if template.toList[template.utf8ByteSize - 2]? = some '\x7b' then
        body ++ randomPart ++ "\x7d"
      else body ++ "_" ++ randomPart ++ "\x7d"
    else template ++ randomPart
  Text.replace rendered "\x7b\x7bchallenge\x7d\x7d" challengeId

/-! ## The calls -/

/-- A row of `challenge_instances`. -/
structure InstanceRow where
  id : String
  challengeId : String
  teamId : Option String
  accountId : String
  flag : String
  clusterIp : String
  createdAt : Int64
  expiresAt : Int64
  deriving DecidableEq

/-- A pod with one container. -/
structure Pod where
  name : String
  labels : List (String × String)
  image : String
  containerPort : Int32
  env : List (String × String)

/-- A service in front of the pods with some labels. -/
structure KubeService where
  name : String
  labels : List (String × String)
  selector : List (String × String)
  port : Int32
  targetPort : Int32

/-- The calls of the service on what is outside it. -/
inductive InstancerOp where
  | createPod (pod : Pod)
  | createService (service : KubeService)
  | deletePod (name : String)
  | deleteService (name : String)
  | timestamp
  /-- `INSERT INTO challenge_instances …` -/
  | insertInstance (row : InstanceRow)
  /-- `DELETE FROM challenge_instances WHERE id = $1` -/
  | deleteInstance (id : String)
  /-- `UPDATE challenge_instances SET expires_at = $1 WHERE id = $2 AND expires_at > $3` -/
  | updateExpiry (expiresAt : Int64) (id : String) (now : Int64)
  /-- `SELECT id FROM challenge_instances WHERE expires_at <= $1` -/
  | selectExpired (now : Int64)
  /-- `SELECT id, expires_at FROM challenge_instances WHERE expires_at > $1` -/
  | selectActive (now : Int64)
  /-- `schedule_reap`: a task that sleeps, and then destroys the instance. -/
  | scheduleReap (instanceId : String) (delaySeconds : UInt64)

namespace InstancerOp

/-- What a call returns when it succeeds: a created service its cluster ip, an update
the number of rows. -/
def Value : InstancerOp → Type
  | .createPod _ => Unit
  | .createService _ => Option String
  | .deletePod _ => Unit
  | .deleteService _ => Unit
  | .timestamp => Int64
  | .insertInstance _ => Unit
  | .deleteInstance _ => Unit
  | .updateExpiry _ _ _ => ℕ
  | .selectExpired _ => List String
  | .selectActive _ => List (String × Int64)
  | .scheduleReap _ _ => Unit

/-- What a call returns. -/
abbrev Resp (op : InstancerOp) : Type := Except ServiceError op.Value

/-- Can the call fail at all? -/
def Fallible : InstancerOp → Bool
  | .timestamp => false
  | .scheduleReap _ _ => false
  | _ => true

/-- A call that takes something of the instance away. -/
def Ends (id : String) : InstancerOp → Prop
  | .deletePod name => name = id
  | .deleteService name => name = id
  | .deleteInstance id' => id' = id
  | _ => False

end InstancerOp

/-! ## The methods -/

/-- A computation of the instancer. -/
abbrev Instancing (α : Type) : Type :=
  ExceptT ServiceError (Program InstancerOp InstancerOp.Resp) α

/-- A call with `?`. -/
def request (op : InstancerOp) : Instancing op.Value := ExceptT.mk (.call op .done)

/-- `let _ =` in front of a computation: whether it fails is ignored. -/
def ignore {α : Type} (m : Instancing α) : Instancing Unit :=
  ExceptT.mk (m.run >>= fun _ => .done (.ok ()))

/-- The arguments of `spawn_instance`, and the two uuids it makes. -/
structure SpawnRequest where
  challengeId : String
  image : String
  containerPort : Int32
  teamId : Option String
  accountId : String
  flagTemplate : String
  lifespanSeconds : Int64
  instanceUuid : String
  randomPart : String

namespace SpawnRequest

/-- The id of the new instance. -/
def instanceId (req : SpawnRequest) : String := "inst-" ++ req.instanceUuid

/-- The labels of its pod and its service. -/
def labels (req : SpawnRequest) : List (String × String) :=
  [("app", req.instanceId), ("challenge", req.challengeId)]

/-- The flag in its pod and in its row. -/
def generatedFlag (req : SpawnRequest) : String :=
  renderInstancedFlag req.flagTemplate req.challengeId req.randomPart

/-- The pod. -/
def pod (req : SpawnRequest) : Pod where
  name := req.instanceId
  labels := req.labels
  image := req.image
  containerPort := req.containerPort
  env := [("FLAG", req.generatedFlag)]

/-- The service. -/
def service (req : SpawnRequest) : KubeService where
  name := req.instanceId
  labels := req.labels
  selector := req.labels
  port := req.containerPort
  targetPort := req.containerPort

/-- The row; the sum of the seconds wraps. -/
def row (req : SpawnRequest) (clusterIp : String) (createdAt : Int64) : InstanceRow where
  id := req.instanceId
  challengeId := req.challengeId
  teamId := req.teamId
  accountId := req.accountId
  flag := req.generatedFlag
  clusterIp := clusterIp
  createdAt := createdAt
  expiresAt := createdAt + req.lifespanSeconds

end SpawnRequest

/-- `spawn_instance`. -/
def spawnInstance (req : SpawnRequest) : Instancing String := do
  let _ ← request (.createPod req.pod)
  match ← request (.createService req.service) with
  | none => throw (.kube "service-cluster-ip-missing")
  | some clusterIp =>
    let createdAt : Int64 ← request .timestamp
    let _ ← request (.insertInstance (req.row clusterIp createdAt))
    let _ ← request (.scheduleReap req.instanceId req.lifespanSeconds.toUInt64)
    pure req.instanceId

/-- `destroy_instances`. -/
def destroyInstances (instanceId : String) : Instancing Unit := do
  let _ ← ignore (request (.deleteService instanceId))
  let _ ← ignore (request (.deletePod instanceId))
  let _ ← request (.deleteInstance instanceId)
  pure ()

/-- `renew_instance`. -/
def renewInstance (instanceId : String) (durationSeconds : Int64) : Instancing Unit := do
  let now : Int64 ← request .timestamp
  let rowsAffected : ℕ ← request (.updateExpiry (now + durationSeconds) instanceId now)
  if rowsAffected = 0 then
    throw (.invalidRequest "ctf-instance-expired-or-not-found")
  else pure ()

/-- The loop of `reap_expired_instances`. -/
def reapAll : List String → Instancing Unit
  | [] => pure ()
  | id :: rest => do
    let _ ← ignore (destroyInstances id)
    reapAll rest

/-- `reap_expired_instances`. -/
def reapExpiredInstances : Instancing Unit := do
  let now : Int64 ← request .timestamp
  let ids : List String ← request (.selectExpired now)
  reapAll ids

/-- The delay `init_reaper_schedules` computes. -/
def reapDelay (now expiresAt : Int64) : UInt64 := (max 0 (expiresAt - now)).toUInt64

/-- The loop of `init_reaper_schedules`. -/
def scheduleAll (now : Int64) : List (String × Int64) → Instancing Unit
  | [] => pure ()
  | (id, expiresAt) :: rest => do
    let _ ← request (.scheduleReap id (reapDelay now expiresAt))
    scheduleAll now rest

/-- `init_reaper_schedules`. -/
def initReaperSchedules : Instancing Unit := do
  let now : Int64 ← request .timestamp
  let active : List (String × Int64) ← request (.selectActive now)
  scheduleAll now active
  reapExpiredInstances

/-! ## The cluster, the table and the timers -/

/-- A task set by `schedule_reap` that still sleeps. -/
structure Timer where
  instanceId : String
  /-- When it wakes up, in milliseconds. -/
  due : ℕ
  deriving DecidableEq

/-- What the instancer works on. -/
structure Instances where
  clock : Clock
  rows : Table InstanceRow String InstanceRow.id
  /-- The names of the pods. -/
  pods : List String
  /-- The names of the services. -/
  services : List String
  timers : List Timer

/-- How the outside behaves during one method: what fails, and with what. -/
structure Outside where
  /-- Which of the calls that can fail do; those after the last one succeed. -/
  faults : List Bool := []
  /-- The ip a new service gets. -/
  clusterIp : Option String := none
  /-- What failing calls report. -/
  failure : InstancerOp → ServiceError := fun _ => .kube ""

namespace Instances

/-- There is a row of the instance that has not expired. -/
def Live (w : Instances) (id : String) : Prop :=
  ∃ row ∈ w.rows.rows, row.id = id ∧ w.clock.timestamp < row.expiresAt

/-- A call that finds a name taken, or nothing to take away. -/
def refuses (w : Instances) : InstancerOp → Bool
  | .createPod pod => pod.name ∈ w.pods
  | .createService service => service.name ∈ w.services
  | .deletePod name => name ∉ w.pods
  | .deleteService name => name ∉ w.services
  | .insertInstance row => (w.rows.insert row).isNone
  | _ => false

/-- The rows an update of the expiry hits. -/
def hits (id : String) (now : Int64) (row : InstanceRow) : Bool :=
  decide (row.id = id ∧ now < row.expiresAt)

/-- What a call that succeeds returns. -/
def value (w : Instances) (out : Outside) : (op : InstancerOp) → op.Value
  | .createPod _ => ()
  | .createService _ => out.clusterIp
  | .deletePod _ => ()
  | .deleteService _ => ()
  | .timestamp => w.clock.timestamp
  | .insertInstance _ => ()
  | .deleteInstance _ => ()
  | .updateExpiry _ id now => w.rows.rows.countP (hits id now)
  | .selectExpired now =>
      (w.rows.rows.filter fun row => decide (row.expiresAt ≤ now)).map InstanceRow.id
  | .selectActive now =>
      (w.rows.rows.filter fun row => decide (now < row.expiresAt)).map fun row =>
        (row.id, row.expiresAt)
  | .scheduleReap _ _ => ()

/-- What a call that succeeds leaves behind. -/
def write (sleep : Sleep) (w : Instances) : InstancerOp → Instances
  | .createPod pod => { w with pods := pod.name :: w.pods }
  | .createService service => { w with services := service.name :: w.services }
  | .deletePod name => { w with pods := w.pods.filter (· ≠ name) }
  | .deleteService name => { w with services := w.services.filter (· ≠ name) }
  | .insertInstance row => { w with rows := (w.rows.insert row).getD w.rows }
  | .deleteInstance id => { w with rows := w.rows.erase id }
  | .updateExpiry expiresAt id now => { w with
      rows := w.rows.updateWhere (hits id now) (fun row => { row with expiresAt := expiresAt })
        fun _ => rfl }
  | .scheduleReap instanceId delaySeconds => { w with
      timers := w.timers ++ [⟨instanceId, sleep.wake w.clock.ms delaySeconds⟩] }
  | _ => w

theorem mem_write_updateExpiry {sleep : Sleep} {w : Instances} {expiresAt now : Int64}
    {id : String} {row : InstanceRow} :
    row ∈ (w.write sleep (.updateExpiry expiresAt id now)).rows.rows ↔
      ∃ old ∈ w.rows.rows,
        (if hits id now old then { old with expiresAt := expiresAt } else old) = row :=
  List.mem_map

/-- A new row is not like any old one. -/
theorem mem_write_insertInstance (sleep : Sleep) {w : Instances} {new : InstanceRow}
    (h : w.refuses (.insertInstance new) = false) :
    (∀ row, row ∈ (w.write sleep (.insertInstance new)).rows.rows ↔
      row ∈ w.rows.rows ∨ row = new) ∧ ∀ row ∈ w.rows.rows, row.id ≠ new.id := by
  cases hinsert : w.rows.insert new with
  | none => simp [refuses, hinsert] at h
  | some rows =>
    have hrows : (w.write sleep (.insertInstance new)).rows = rows := by
      simp [write, hinsert]
    rw [hrows]
    exact Table.mem_insert hinsert

/-- One method under way. -/
structure Attempt where
  world : Instances
  outside : Outside

namespace Attempt

/-- Does the call fail? -/
def fails (a : Attempt) (op : InstancerOp) : Bool :=
  op.Fallible && (a.outside.faults.headD false || a.world.refuses op)

theorem of_not_fails {a : Attempt} {op : InstancerOp} (hop : op.Fallible = true)
    (h : a.fails op = false) :
    a.outside.faults.headD false = false ∧ a.world.refuses op = false := by
  simpa [fails, hop] using h

/-- The faults of the calls after this one. -/
def rest (a : Attempt) (op : InstancerOp) : Outside :=
  if op.Fallible then { a.outside with faults := a.outside.faults.tail } else a.outside

end Attempt

/-- Any call that can fail may; one that fails changes nothing. -/
def handler (sleep : Sleep) : Handler InstancerOp InstancerOp.Resp Attempt where
  answer a op :=
    if a.fails op then .error (a.outside.failure op) else .ok (a.world.value a.outside op)
  next a op := ⟨if a.fails op then a.world else a.world.write sleep op, a.rest op⟩

theorem handler_of_ok {sleep : Sleep} {a : Attempt} {op : InstancerOp} (h : a.fails op = false) :
    (handler sleep).answer a op = .ok (a.world.value a.outside op) ∧
      (handler sleep).next a op = ⟨a.world.write sleep op, a.rest op⟩ := by
  simp [handler, h]

theorem handler_of_fails {sleep : Sleep} {a : Attempt} {op : InstancerOp} (h : a.fails op = true) :
    (handler sleep).answer a op = .error (a.outside.failure op) ∧
      (handler sleep).next a op = ⟨a.world, a.rest op⟩ := by
  simp [handler, h]

/-- What holds of a call that succeeds and of one that fails holds of every call. -/
theorem answer_cases {sleep : Sleep} {a : Attempt} {op : InstancerOp}
    {C : Attempt → op.Resp → Prop}
    (hok : a.fails op = false →
      C ⟨a.world.write sleep op, a.rest op⟩ (.ok (a.world.value a.outside op)))
    (herr : a.fails op = true → C ⟨a.world, a.rest op⟩ (.error (a.outside.failure op))) :
    C ((handler sleep).next a op) ((handler sleep).answer a op) := by
  cases hfails : a.fails op with
  | false =>
    rw [(handler_of_ok hfails).1, (handler_of_ok hfails).2]
    exact hok hfails
  | true =>
    rw [(handler_of_fails hfails).1, (handler_of_fails hfails).2]
    exact herr hfails

end Instances

/-! ## Following a method -/

section

open Instances

variable {sleep : Sleep} {P : Attempt → InstancerOp → Prop} {α β : Type}
  {Q : Attempt → Except ServiceError β → Prop} {a : Attempt}

/-- Follow a method through one call. -/
theorem throughout_request {op : InstancerOp} {Q : Attempt → op.Resp → Prop} (hcall : P a op)
    (hok : a.fails op = false →
      Q ⟨a.world.write sleep op, a.rest op⟩ (.ok (a.world.value a.outside op)))
    (herr : a.fails op = true → Q ⟨a.world, a.rest op⟩ (.error (a.outside.failure op))) :
    Throughout (handler sleep) P Q a (request op).run := by
  refine ⟨hcall, ?_⟩
  show Q ((handler sleep).next a op) ((handler sleep).answer a op)
  exact answer_cases hok herr

/-- Follow a method past a call with `?`. -/
theorem throughout_request_bind {op : InstancerOp} {f : op.Value → Instancing β}
    (hcall : P a op)
    (hok : a.fails op = false → Throughout (handler sleep) P Q
      ⟨a.world.write sleep op, a.rest op⟩ (f (a.world.value a.outside op)).run)
    (herr : a.fails op = true → Q ⟨a.world, a.rest op⟩ (.error (a.outside.failure op))) :
    Throughout (handler sleep) P Q a (request op >>= f).run := by
  refine ⟨hcall, ?_⟩
  show Throughout (handler sleep) P Q ((handler sleep).next a op)
    (ExceptT.bindCont f ((handler sleep).answer a op))
  exact answer_cases (C := fun a' r => Throughout (handler sleep) P Q a' (ExceptT.bindCont f r))
    hok herr

/-- Follow a method past a part of it that it ends with `?`. -/
theorem throughout_bind {m : Instancing α} {f : α → Instancing β}
    {Q' : Attempt → Except ServiceError α → Prop} (hm : Throughout (handler sleep) P Q' a m.run)
    (hok : ∀ a' r, Q' a' (.ok r) → Throughout (handler sleep) P Q a' (f r).run)
    (herr : ∀ a' e, Q' a' (.error e) → Q a' (.error e)) :
    Throughout (handler sleep) P Q a (m >>= f).run := by
  refine hm.bind fun a' r hr => ?_
  cases r with
  | ok r => exact hok a' r hr
  | error e => exact herr a' e hr

/-- Follow a method past a computation whose result is ignored. -/
theorem throughout_ignore_bind {m : Instancing α} {f : Unit → Instancing β}
    {Q' : Attempt → Except ServiceError α → Prop} (hm : Throughout (handler sleep) P Q' a m.run)
    (hf : ∀ a' r, Q' a' r → Throughout (handler sleep) P Q a' (f ()).run) :
    Throughout (handler sleep) P Q a (ignore m >>= f).run := by
  show Throughout (handler sleep) P Q a
    ((m.run >>= fun _ => .done (.ok ())) >>= ExceptT.bindCont f)
  rw [bind_assoc]
  exact hm.bind hf

end

end Cctf
