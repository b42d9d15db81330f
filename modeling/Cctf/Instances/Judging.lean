import Cctf.Instances.Leaking
import Cctf.Repos.Pg.Instances
import Cctf.Services.Solve

/-!
# Which instance a flag is judged against

`find_active_flag` returns the flag of one live instance, and a team or an account may have
several of one challenge.

* `JudgesLive` — `submit_flag` accepts the flags of all live instances of the submitter,
  and no others.
* `Agree` — live instances of one submitter and one challenge have one flag;
  `judgesLive_iff_agree` — the two are the same.
* `SpawnsAnother` — a spawn that adds a live instance with another flag.
* `always_judgesLive_iff` — **a run keeps to it exactly when no step is such a spawn**.
-/

namespace Cctf.Instances

open Program Runs Pg

/-! ## One state -/

/-- Whatever row the query returns, a flag that passes the checks of `submit_flag` is
judged right exactly when it is, up to surrounding whitespace, the flag of a live instance
of the submitter; also at any later time. -/
def JudgesLive (w : Instances) : Prop :=
  ∀ (E : Engines) (F : FetchOptional InstanceRow) (s : Store) (challenge : Challenge)
    (challengeId : String) (teamId : Option TeamId) (accountId : AccountId)
    (submittedFlag submittedIp uuid : String) (submittedAt : ℤ) (now : Int64),
    w.clock.timestamp ≤ now → s.challenges.find? challengeId = some challenge →
    challenge.flag = .instanced →
    SolveService.attemptsExhausted s challenge challengeId teamId accountId = false →
    SolveService.meetsRequirements s challenge teamId accountId = true →
    s.activeFlag challengeId teamId accountId =
      findActiveFlag F w.rows.rows challengeId teamId accountId now →
    ((runSvc s (SolveService.submitFlag E challengeId teamId accountId submittedFlag submittedIp
        uuid submittedAt)).1 ≠ .error (.invalidRequest "ctf-incorrect-flag") ↔
      ∃ row ∈ w.rows.rows, isActive challengeId teamId accountId now row = true ∧
        Text.trim row.flag = Text.trim submittedFlag)

/-- One query can select both rows, as far as the columns go that do not change. -/
def SameSubmitter (row row' : InstanceRow) : Prop :=
  row.challengeId = row'.challengeId ∧
    (row.accountId = row'.accountId ∨ ∃ t, row.teamId = some t ∧ row'.teamId = some t)

/-- Live instances of one submitter and one challenge have one flag. -/
def Agree (w : Instances) : Prop :=
  ∀ row ∈ w.rows.rows, ∀ row' ∈ w.rows.rows, w.clock.timestamp < row.expiresAt →
    w.clock.timestamp < row'.expiresAt → SameSubmitter row row' →
    Text.trim row.flag = Text.trim row'.flag

/-- An `Instanced` flag that passes the checks is judged by the flag that is found. -/
theorem submitFlag_instanced {E : Engines} {s : Store} {challenge : Challenge}
    {challengeId : String} {teamId : Option TeamId} {accountId : AccountId}
    {submittedFlag submittedIp uuid : String} {submittedAt : ℤ}
    (hfind : s.challenges.find? challengeId = some challenge) (hflag : challenge.flag = .instanced)
    (hattempts : SolveService.attemptsExhausted s challenge challengeId teamId accountId = false)
    (hmeets : SolveService.meetsRequirements s challenge teamId accountId = true) :
    (runSvc s (SolveService.submitFlag E challengeId teamId accountId submittedFlag submittedIp
        uuid submittedAt)).1 ≠ .error (.invalidRequest "ctf-incorrect-flag") ↔
      ∃ flag, s.activeFlag challengeId teamId accountId = some flag ∧
        Text.trim flag = Text.trim submittedFlag := by
  have hverdict : SolveService.verdict s challenge challengeId teamId accountId E submittedFlag =
      true ↔ ∃ flag, s.activeFlag challengeId teamId accountId = some flag ∧
        Text.trim flag = Text.trim submittedFlag := by
    rw [SolveService.verdict, SolveService.flagIsCorrect, hflag]
    cases s.activeFlag challengeId teamId accountId with
    | none => simp [FlagValidator.isMulti, FlagValidator.isMatch]
    | some flag => simp [FlagValidator.isMulti, FlagValidator.isMatch]
  rw [← hverdict, SolveService.runSvc_submitFlag]
  simp only [hfind, hattempts, hmeets, Bool.false_eq_true, if_false]
  cases hv : SolveService.verdict s challenge challengeId teamId accountId E submittedFlag with
  | false => simp [SolveService.newSubmission, hv]
  | true =>
    cases SolveService.repeatsSolve s challenge challengeId teamId accountId E submittedFlag with
    | false => simp [SolveService.newSubmission, hv]
    | true => simp

/-- What one query selects. -/
theorem sameSubmitter_of_isActive {challengeId : String} {teamId : Option TeamId}
    {accountId : AccountId} {now : Int64} {row row' : InstanceRow}
    (h : isActive challengeId teamId accountId now row = true)
    (h' : isActive challengeId teamId accountId now row' = true) :
    SameSubmitter row row' ∧ now < row.expiresAt ∧ now < row'.expiresAt := by
  simp only [isActive, Bool.and_eq_true, decide_eq_true_eq] at h h'
  obtain ⟨⟨hchallenge, hsubmitter⟩, hlive⟩ := h
  obtain ⟨⟨hchallenge', hsubmitter'⟩, hlive'⟩ := h'
  refine ⟨⟨hchallenge.trans hchallenge'.symm, ?_⟩, hlive, hlive'⟩
  cases teamId with
  | none =>
    simp only [decide_eq_true_eq] at hsubmitter hsubmitter'
    exact .inl (hsubmitter.trans hsubmitter'.symm)
  | some t =>
    simp only [decide_eq_true_eq] at hsubmitter hsubmitter'
    exact .inr ⟨t.val, hsubmitter, hsubmitter'⟩

/-- Some query selects both. -/
theorem isActive_of_sameSubmitter {now : Int64} {row row' : InstanceRow}
    (h : SameSubmitter row row') (hlive : now < row.expiresAt) (hlive' : now < row'.expiresAt) :
    ∃ teamId accountId, isActive row.challengeId teamId accountId now row = true ∧
      isActive row.challengeId teamId accountId now row' = true := by
  obtain ⟨hchallenge, haccount | ⟨t, hteam, hteam'⟩⟩ := h
  · exact ⟨none, ⟨row.accountId⟩, by simp [isActive, hlive],
      by simp [isActive, hlive', hchallenge, haccount]⟩
  · exact ⟨some ⟨t⟩, ⟨row.accountId⟩, by simp [isActive, hlive, hteam],
      by simp [isActive, hlive', hchallenge, hteam']⟩

/-- Instances that agree are judged right. -/
theorem judgesLive_of_agree {w : Instances} (h : w.Agree) : w.JudgesLive := by
  intro E F s challenge challengeId teamId accountId submittedFlag submittedIp uuid submittedAt now
    hnow hfind hflag hattempts hmeets hactive
  rw [submitFlag_instanced hfind hflag hattempts hmeets, hactive, findActiveFlag]
  have hmem : ∀ {row : InstanceRow},
      row ∈ w.rows.rows.filter (isActive challengeId teamId accountId now) ↔
        row ∈ w.rows.rows ∧ isActive challengeId teamId accountId now row = true :=
    List.mem_filter
  constructor
  · rintro ⟨flag, hfetch, htrim⟩
    obtain ⟨row, hrow, rfl⟩ := Option.map_eq_some_iff.mp hfetch
    obtain ⟨hthere, hrowActive⟩ := hmem.mp (F.mem hrow)
    exact ⟨row, hthere, hrowActive, htrim⟩
  · rintro ⟨row, hthere, hrowActive, htrim⟩
    have hne := List.ne_nil_of_mem (hmem.mpr ⟨hthere, hrowActive⟩)
    obtain ⟨found, hfound⟩ := Option.ne_none_iff_exists'.mp (F.found hne)
    obtain ⟨hfoundThere, hfoundActive⟩ := hmem.mp (F.mem hfound)
    obtain ⟨hsame, hlive, hlive'⟩ := sameSubmitter_of_isActive hfoundActive hrowActive
    refine ⟨found.flag, by rw [hfound]; rfl, ?_⟩
    rw [h found hfoundThere row hthere (Int64.lt_of_le_of_lt hnow hlive)
      (Int64.lt_of_le_of_lt hnow hlive') hsame, htrim]

/-- A challenge with an instanced flag and nothing to check before. -/
def instancedChallenge (challengeId : String) : Challenge :=
  .plain challengeId challengeId ⟨.pointValue, "100"⟩ .instanced

/-- A store with this challenge, in which the live flag is what the query finds. -/
def instancedStore (w : Instances) (F : FetchOptional InstanceRow) (challengeId : String) :
    Store where
  teams := .empty
  challenges := .single (instancedChallenge challengeId)
  submissions := []
  hintUnlocks := []
  activeFlag := fun challengeId' teamId accountId =>
    findActiveFlag F w.rows.rows challengeId' teamId accountId w.clock.timestamp

/-- Instances that are judged right agree: the query may return any of them. -/
theorem agree_of_judgesLive {w : Instances} (h : w.JudgesLive) : w.Agree := by
  intro row hrow row' hrow' hlive hlive' hsame
  obtain ⟨teamId, accountId, hactive, hactive'⟩ := isActive_of_sameSubmitter hsame hlive hlive'
  let F : FetchOptional InstanceRow := .prefer row'
  let s := instancedStore w F row.challengeId
  have hfind : s.challenges.find? row.challengeId = some (instancedChallenge row.challengeId) :=
    Table.find?_key (T := s.challenges) (List.mem_singleton.mpr rfl)
  have hjudged := (h .silent F s (instancedChallenge row.challengeId) row.challengeId teamId
    accountId row.flag "" "" 0 w.clock.timestamp Int64.le_rfl hfind rfl rfl rfl rfl).mpr
    ⟨row, hrow, hactive, rfl⟩
  obtain ⟨flag, hfound, htrim⟩ := (submitFlag_instanced hfind rfl rfl rfl).mp hjudged
  have hprefer : findActiveFlag F w.rows.rows row.challengeId teamId accountId w.clock.timestamp =
      some row'.flag :=
    congrArg (Option.map InstanceRow.flag) (if_pos (List.mem_filter.mpr ⟨hrow', hactive'⟩))
  obtain rfl : row'.flag = flag := Option.some.inj (hprefer.symm.trans hfound)
  exact htrim.symm

/-- **Flags are judged right exactly where live instances agree.** -/
theorem judgesLive_iff_agree (w : Instances) : w.JudgesLive ↔ w.Agree :=
  ⟨agree_of_judgesLive, judgesLive_of_agree⟩

/-! ## Runs -/

/-- Every live instance of the second world was live in the first, perhaps with another
expiry. -/
def LiveBefore (w w' : Instances) : Prop :=
  ∀ row' ∈ w'.rows.rows, w'.clock.timestamp < row'.expiresAt →
    ∃ expiresAt, { row' with expiresAt := expiresAt } ∈ w.rows.rows ∧
      w.clock.timestamp < expiresAt

theorem Agree.of_liveBefore {w w' : Instances} (h : w.Agree) (hbefore : LiveBefore w w') :
    w'.Agree := by
  intro row₁ hrow₁ row₂ hrow₂ hlive₁ hlive₂ hsame
  obtain ⟨expiresAt₁, hold₁, hlive₁⟩ := hbefore row₁ hrow₁ hlive₁
  obtain ⟨expiresAt₂, hold₂, hlive₂⟩ := hbefore row₂ hrow₂ hlive₂
  exact h { row₁ with expiresAt := expiresAt₁ } hold₁ { row₂ with expiresAt := expiresAt₂ } hold₂
    hlive₁ hlive₂ hsame

/-- Rows that were there, at the same time or later. -/
theorem LiveBefore.of_subset {w w' : Instances} (hclock : w.clock.timestamp ≤ w'.clock.timestamp)
    (hrows : ∀ row ∈ w'.rows.rows, row ∈ w.rows.rows) : LiveBefore w w' :=
  fun row' hrow' hlive' =>
    ⟨row'.expiresAt, hrows row' hrow', Int64.lt_of_le_of_lt hclock hlive'⟩

section Steps

variable (sleep : Sleep) (w : Instances)

/-- No method moves the clock. -/
theorem run_clock {α : Type} (p : Program InstancerOp InstancerOp.Resp α) (a : Attempt) :
    (Program.run (handler sleep) a p).2.world.clock = a.world.clock := by
  induction p generalizing a with
  | done x => rfl
  | call op k ih =>
    refine (ih _ _).trans ?_
    show (if a.fails op then a.world else a.world.write sleep op).clock = _
    split
    · rfl
    · cases op <;> rfl

/-- Time does not go back. -/
theorem clock_le_operate (op : Operation) :
    w.clock.timestamp ≤ (w.operate sleep op).clock.timestamp := by
  cases op with
  | destroy instanceId out =>
    rw [operate, run_clock]
    exact Int64.le_rfl
  | event e =>
    rw [operate, Instances.step, run_clock]
    cases e with
    | pass ms => exact w.clock.timestamp_le_advance ms
    | fire i out =>
      rw [begin]
      split
      · split <;> exact Int64.le_rfl
      · exact Int64.le_rfl
    | _ => exact Int64.le_rfl

/-- A sweep adds no row. -/
theorem mem_rows_of_reaped {r : Resources} {ids : List String} {faults : List Bool}
    {row : InstanceRow} (h : row ∈ (r.reaped ids faults).rows.rows) : row ∈ r.rows.rows := by
  induction ids generalizing r faults with
  | nil => exact h
  | cons id rest ih =>
    have hrow : row ∈ (r.destroyed id faults).rows.rows := ih h
    rw [Resources.destroyed] at hrow
    dsimp only at hrow
    split at hrow
    · exact hrow
    · exact (List.mem_filter.mp hrow).1

/-- What only destroys adds no live instance. -/
theorem liveBefore_of_destroys {op : Operation} (hop : op.Destroys) :
    LiveBefore w (w.operate sleep op) := by
  refine .of_subset (clock_le_operate sleep w op) fun row hrow => ?_
  have hresources := congrArg Resources.rows (resources_of_destroys sleep w hop)
  rw [show (w.operate sleep op).rows = _ from hresources] at hrow
  exact mem_rows_of_reaped hrow

/-- A renewal finds a live row only. -/
theorem liveBefore_of_renew (instanceId : String) (durationSeconds : Int64) (out : Outside) :
    LiveBefore w (w.operate sleep (.event (.renew instanceId durationSeconds out))) := by
  have hsame : LiveBefore w w := .of_subset Int64.le_rfl fun _ hrow => hrow
  have hrenewed : LiveBefore w (w.write sleep (.updateExpiry
      (w.clock.timestamp + durationSeconds) instanceId w.clock.timestamp)) := by
    intro row' hrow' hlive'
    obtain ⟨old, hold, rfl⟩ := mem_write_updateExpiry.mp hrow'
    by_cases hhit : hits instanceId w.clock.timestamp old = true
    · rw [if_pos hhit]
      exact ⟨old.expiresAt, hold, (of_decide_eq_true hhit).2⟩
    · rw [if_neg hhit] at hlive' ⊢
      exact ⟨old.expiresAt, hold, hlive'⟩
  have hrun : Throughout (handler sleep) (fun _ _ => True) (fun a' _ => LiveBefore w a'.world)
      ⟨w, out⟩ (renewInstance instanceId durationSeconds).run := by
    refine throughout_request_bind trivial (fun _ => ?_) fun h => absurd h Bool.false_ne_true
    refine throughout_request_bind trivial (fun _ => ?_) fun _ => hsame
    simp only
    split
    · exact hrenewed
    · exact hrenewed
  exact hrun.run

end Steps

/-- A spawn that goes through, and adds a live instance that does not agree with one that is
there. -/
def SpawnsAnother (w : Instances) : Operation → Prop
  | .event (.spawn req out) => ∃ clusterIp, w.resources.Accepts req out ∧
      out.clusterIp = some clusterIp ∧
      w.clock.timestamp < (req.row clusterIp w.clock.timestamp).expiresAt ∧
      ∃ row ∈ w.rows.rows, w.clock.timestamp < row.expiresAt ∧
        SameSubmitter row (req.row clusterIp w.clock.timestamp) ∧
        Text.trim row.flag ≠ Text.trim (req.row clusterIp w.clock.timestamp).flag
  | _ => False

theorem SameSubmitter.symm {row row' : InstanceRow} (h : SameSubmitter row row') :
    SameSubmitter row' row :=
  ⟨h.1.symm, h.2.imp Eq.symm fun ⟨t, ht, ht'⟩ => ⟨t, ht', ht⟩⟩

/-- A spawn. -/
theorem agree_spawn_iff (sleep : Sleep) {w : Instances} {req : SpawnRequest} {out : Outside}
    (h : w.Agree) : (w.operate sleep (.event (.spawn req out))).Agree ↔
      ¬ w.SpawnsAnother (.event (.spawn req out)) := by
  have hclock : (w.operate sleep (.event (.spawn req out))).clock = w.clock :=
    run_clock sleep (w.begin (.spawn req out)).2.run ⟨w, out⟩
  have hrows : ∀ row, row ∈ (w.operate sleep (.event (.spawn req out))).rows.rows ↔
      row ∈ w.rows.rows ∨ w.resources.Accepts req out ∧ ∃ clusterIp,
        out.clusterIp = some clusterIp ∧ row = req.row clusterIp w.clock.timestamp := fun row => by
    rw [show (w.operate sleep (.event (.spawn req out))).rows = _ from
      congrArg Resources.rows (resources_of_spawn sleep w req out)]
    exact mem_rows_spawned
  rw [Agree, hclock]
  constructor
  · rintro hagree ⟨clusterIp, haccepts, hip, hnew, row, hrow, hlive, hsame, hflag⟩
    have hthere := (hrows (req.row clusterIp w.clock.timestamp)).mpr
      (.inr ⟨haccepts, clusterIp, hip, rfl⟩)
    exact hflag (hagree row ((hrows row).mpr (.inl hrow)) (req.row clusterIp w.clock.timestamp)
      hthere hlive hnew hsame)
  · intro hnone
    -- an old row and the new one
    have hmixed : ∀ clusterIp, w.resources.Accepts req out → out.clusterIp = some clusterIp →
        w.clock.timestamp < (req.row clusterIp w.clock.timestamp).expiresAt →
        ∀ row ∈ w.rows.rows, w.clock.timestamp < row.expiresAt →
        SameSubmitter row (req.row clusterIp w.clock.timestamp) →
        Text.trim row.flag = Text.trim (req.row clusterIp w.clock.timestamp).flag := by
      intro clusterIp haccepts hip hnew row hrow hlive hsame
      by_contra hflag
      exact hnone ⟨clusterIp, haccepts, hip, hnew, row, hrow, hlive, hsame, hflag⟩
    intro row₁ hrow₁ row₂ hrow₂ hlive₁ hlive₂ hsame
    rcases (hrows row₁).mp hrow₁ with hold₁ | ⟨haccepts, clusterIp, hip, rfl⟩ <;>
      rcases (hrows row₂).mp hrow₂ with hold₂ | ⟨haccepts', clusterIp', hip', rfl⟩
    · exact h row₁ hold₁ row₂ hold₂ hlive₁ hlive₂ hsame
    · exact hmixed clusterIp' haccepts' hip' hlive₂ row₁ hold₁ hlive₁ hsame
    · exact (hmixed clusterIp haccepts hip hlive₁ row₂ hold₂ hlive₂ hsame.symm).symm
    · rfl

/-- **The step lemma.** -/
theorem agree_operate_iff (sleep : Sleep) {w : Instances} {op : Operation} (h : w.Agree) :
    (w.operate sleep op).Agree ↔ ¬ w.SpawnsAnother op := by
  cases op with
  | destroy instanceId out =>
    exact iff_of_true (h.of_liveBefore (liveBefore_of_destroys sleep w trivial)) id
  | event e =>
    cases e with
    | spawn req out => exact agree_spawn_iff sleep h
    | renew instanceId d out =>
      exact iff_of_true (h.of_liveBefore (liveBefore_of_renew sleep w instanceId d out)) id
    | _ => exact iff_of_true (h.of_liveBefore (liveBefore_of_destroys sleep w trivial)) id

/-- **A run judges flags right all along exactly when no step spawns another**: no spawn
goes through while a live instance of the challenge, of the same team or account, has
another flag. -/
theorem always_judgesLive_iff (sleep : Sleep) (w : Instances) (ops : List Operation) :
    Always (operate sleep) JudgesLive { w with rows := .empty } ops ↔
      Each (operate sleep) (fun w op => ¬ w.SpawnsAnother op) { w with rows := .empty } ops := by
  refine always_iff_each (J := fun _ => True) (fun _ _ _ => trivial) (fun w op _ h => ?_) trivial
    ?_ ops
  · rw [judgesLive_iff_agree] at h ⊢
    exact agree_operate_iff sleep h
  · exact (judgesLive_iff_agree _).mpr fun row hrow => absurd hrow List.not_mem_nil

/-! ## Two instances of one team -/

/-- Alice's instance, for ten minutes. -/
def aliceInstance : SpawnRequest :=
  ⟨"web", "web:1", 8080, some "red", "alice", "flag{}", 600, "a", "one"⟩

/-- Bob's instance of the same challenge; bob is on her team. -/
def bobInstance : SpawnRequest :=
  ⟨"web", "web:1", 8080, some "red", "bob", "flag{}", 600, "b", "two"⟩

/-- The table when both are started. -/
def startedTwice : Instances :=
  Runs.run (operate .exact) nothing
    [.event (.spawn aliceInstance allSucceed), .event (.spawn bobInstance allSucceed)]

/-- The query may find bob's flag, and then alice's is refused while her instance is live. -/
theorem live_flag_refused :
    ¬ startedTwice.JudgesLive ∧
      aliceInstance.row "10.0.0.1" 0 ∈ startedTwice.rows.rows ∧
      isActive "web" (some ⟨"red"⟩) ⟨"alice"⟩ 0 (aliceInstance.row "10.0.0.1" 0) = true ∧
      (aliceInstance.row "10.0.0.1" 0).flag = "flag{one}" ∧
      (runSvc (instancedStore startedTwice (.prefer (bobInstance.row "10.0.0.1" 0)) "web")
        (SolveService.submitFlag .silent "web" (some ⟨"red"⟩) ⟨"alice"⟩ "flag{one}" "" "s1"
          0)).1 = .error (.invalidRequest "ctf-incorrect-flag") := by
  have halice : aliceInstance.row "10.0.0.1" 0 ∈ startedTwice.rows.rows := by decide +kernel
  have hbob : bobInstance.row "10.0.0.1" 0 ∈ startedTwice.rows.rows := by decide +kernel
  refine ⟨fun h => ?_, halice, by decide +kernel, by decide +kernel, by decide +kernel⟩
  have hsame := agree_of_judgesLive h _ halice _ hbob (by decide +kernel) (by decide +kernel)
    ⟨rfl, .inr ⟨"red", rfl, rfl⟩⟩
  exact absurd hsame (by decide +kernel)

end Cctf.Instances
