import Cctf.Api.Notifications
import Cctf.Teams.Membership

/-!
# Streams and lists

An announcement reaches a viewer twice: on the streams that they have open, and in the list
that they ask for.  A stream was opened with the team that the viewer had at the time; the list
looks it up.

* `Hub` — the tables, the announcements, and the open streams.
* `NoticeCall`, `NoticeCall.step` — opening a stream, polling it, joining a team, announcing.
* `stream_step`, `told_eq` — what a call adds to a stream, and what a list then has of it.
* `DeliversListed` — every stream delivers what a list has right after the announcement.
* `deliversListed_of_stays` — it does if no viewer joins a team while they have a stream open.
* `delivers_listed_iff` — **it does exactly when no announcement is for a team that a viewer
  has joined, or left, since they opened a stream**.
-/

namespace Cctf

/-! ## The state -/

/-- What the handlers of notifications work on. -/
structure Hub where
  db : Pg.Database
  submissions : List Submission
  notifications : NotificationTable
  streams : List NoticeStream

namespace Hub

/-- The calls on it.  `refusal` is what the database says when it refuses a row. -/
def handler (refusal : String) : Handler NoticeOp NoticeOp.Resp Hub where
  answer h
    | .accountFindById id =>
      (.ok ((h.db.tables.accounts.find? id).map Pg.mapAccount) : Except RepoError (Option Account))
    | .accountFindAll =>
      (.ok (h.db.tables.accounts.rows.map Pg.mapAccount) : Except RepoError (List Account))
    | .submissionFindAll => (.ok h.submissions : Except RepoError (List Submission))
    | .notificationSave n => (h.notifications.save refusal n).map fun _ => ()
    | .notificationListRecent limit =>
      (.ok (h.notifications.listRecent limit) : Except RepoError (List Notification))
    | .send _ => ()
  next h
    | .notificationSave n =>
      match h.notifications.save refusal n with
      | .ok notifications => { h with notifications := notifications }
      | .error _ => h
    | .send n => { h with streams := h.streams.map fun s => s.send n }
    | _ => h

end Hub

/-- What a deployment is configured with, and the crates it uses. -/
structure NoticeSite where
  site : Site
  platform : Platform
  evalFilter : String → List String → String → String → Option Bool

/-- A call, with what it finds outside. -/
inductive NoticeCall where
  | openStream (lang : String) (viewer : Option AccountId)
  /-- The connection asks the stream for more. -/
  | poll (i : ℕ)
  | join (scripts : String → Option String) (req : JoinRequest)
  | announce (lang id : String) (now : ℤ) (payload : AnnouncePayload)

section

variable (N : NoticeSite)

namespace NoticeCall

/-- A call on its own. -/
def step (h : Hub) : NoticeCall → Hub
  | .openStream lang viewer =>
    match Program.run (Hub.handler N.site.refusal) h (notificationsStream N.platform lang viewer) with
    | (⟨_, .ok stream⟩, h') => { h' with streams := h'.streams ++ [stream] }
    | (⟨_, .error _⟩, h') => h'
  | .poll i => { h with streams := h.streams.modify i NoticeStream.poll }
  | .join scripts req => { h with db := (TeamCall.join scripts req).step N.site h.db }
  | .announce lang id now payload =>
    (Program.run (Hub.handler N.site.refusal) h
      (createNotification N.platform lang N.evalFilter id now payload)).2

end NoticeCall

/-- The announcement that a call makes. -/
def announced (h : Hub) : NoticeCall → Option Notification
  | .announce lang id now payload =>
    (Program.run (Hub.handler N.site.refusal) h
      (createNotification N.platform lang N.evalFilter id now payload)).1.body.toOption
  | _ => none

/-- What a viewer who asks for the list gets. -/
def listed (lang : String) (h : Hub) (viewer : Option AccountId) : List Notification :=
  (Program.run (Hub.handler N.site.refusal) h
    (listNotifications N.platform lang viewer)).1.body.toOption.getD []

/-- What the list has of an announcement right after it. -/
def told (lang : String) (h : Hub) (call : NoticeCall) (viewer : Option AccountId) :
    List Notification :=
  (announced N h call).toList.filter fun n => n ∈ listed N lang (call.step N h) viewer

/-- What the lists have of the announcements of a run. -/
def toldDuring (lang : String) (viewer : Option AccountId) : Hub → List NoticeCall →
    List Notification
  | _, [] => []
  | h, call :: calls =>
    told N lang h call viewer ++ toldDuring lang viewer (call.step N h) calls

/-- **Every stream delivers what a list has right after the announcement**, in this order,
once, and nothing else. -/
def DeliversListed (lang : String) (h : Hub) (calls : List NoticeCall) : Prop :=
  ∀ before after, calls = before ++ after →
    ∀ (i : ℕ) (s : NoticeStream), (Runs.run (NoticeCall.step N) h before).streams[i]? = some s →
      ∃ s' : NoticeStream, (Runs.run (NoticeCall.step N) h calls).streams[i]? = some s' ∧
        s'.delivers = s.delivers ++
          (toldDuring N lang s.accountId (Runs.run (NoticeCall.step N) h before) after).map
            Event.ofNotification

end

/-! ## What the handlers do -/

section

variable {N : NoticeSite} {h : Hub} {viewer : Option AccountId}

theorem run_viewerIdentity (refusal : String) (viewer : Option AccountId) (h : Hub) :
    Program.run (Hub.handler refusal) h (viewerIdentity viewer) =
      ((viewer, viewer.bind h.db.tables.teamOf), h) := by
  cases viewer with
  | none => rfl
  | some acc =>
    have hteam : ((h.db.tables.accounts.find? acc).map Pg.mapAccount).bind Account.teamId =
        h.db.tables.teamOf acc := by
      rw [Pg.TeamTables.teamOf, Option.bind_map]
      rfl
    rw [Option.bind_some, ← hteam]
    rfl

/-- The target that an announcement is stored with. -/
def Hub.resolve (evalFilter : String → List String → String → String → Option Bool) (h : Hub) :
    NotificationTarget → NotificationTarget
  | .filter expr => .accounts (filterMatches evalFilter expr
      (h.db.tables.accounts.rows.map Pg.mapAccount) h.submissions)
  | target => target

/-- Only what is for some teams is stored as that. -/
theorem Hub.resolve_eq_teams_iff {evalFilter : String → List String → String → String → Option Bool}
    {target : NotificationTarget} {ids : List TeamId} :
    h.resolve evalFilter target = .teams ids ↔ target = .teams ids := by
  cases target with
  | filter expr => simp [Hub.resolve]
  | _ => rfl

theorem run_resolveTarget (refusal : String)
    (evalFilter : String → List String → String → String → Option Bool)
    (target : NotificationTarget) (h : Hub) :
    Program.run (Hub.handler refusal) h (resolveTarget evalFilter target) =
      (h.resolve evalFilter target, h) := by
  cases target with
  | _ => rfl

/-- What an announcement is stored as. -/
def announcementOf (N : NoticeSite) (h : Hub) (id : String) (now : ℤ) (payload : AnnouncePayload) :
    Notification :=
  ⟨id, .announcement, payload.title, payload.message, h.resolve N.evalFilter payload.target, now⟩

/-- **What announcing does**: it is stored and sent, or neither. -/
theorem run_announce (refusal id title message : String) (target : NotificationTarget) (now : ℤ) :
    Program.run (Hub.handler refusal) h
        (NotificationService.announce id title message target now) =
      match h.notifications.save refusal ⟨id, .announcement, title, message, target, now⟩ with
      | .ok notifications => (.ok ⟨id, .announcement, title, message, target, now⟩,
          { h with
            notifications := notifications
            streams := h.streams.map fun s =>
              s.send ⟨id, .announcement, title, message, target, now⟩ })
      | .error e => (.error (.repo e), h) := by
  have hsave : ∀ n, Program.run (Hub.handler refusal) h (Notices.save n) =
      ((h.notifications.save refusal n).map fun _ => (),
        (Hub.handler refusal).next h (.notificationSave n)) := fun _ => rfl
  rw [NotificationService.announce, Program.run_bind, hsave]
  simp only [Hub.handler]
  cases h.notifications.save refusal _ with
  | ok notifications => rfl
  | error e => rfl

theorem run_createNotification (lang id : String) (now : ℤ) (payload : AnnouncePayload) :
    Program.run (Hub.handler N.site.refusal) h
        (createNotification N.platform lang N.evalFilter id now payload) =
      match h.notifications.save N.site.refusal (announcementOf N h id now payload) with
      | .ok notifications => (⟨201, .ok (announcementOf N h id now payload)⟩,
          { h with
            notifications := notifications
            streams := h.streams.map fun s => s.send (announcementOf N h id now payload) })
      | .error e => ((ServiceError.repo e).response N.platform.localization lang, h) := by
  have hannounce := run_announce (h := h) N.site.refusal id payload.title payload.message
    (h.resolve N.evalFilter payload.target) now
  rw [createNotification, Program.run_bind, run_resolveTarget, Program.run_bind]
  simp only [announcementOf] at hannounce ⊢
  rw [hannounce]
  cases h.notifications.save N.site.refusal _ with
  | ok notifications => rfl
  | error e => rfl

/-- **A list has what is stored and for the viewer**, as long as there is not too much. -/
theorem mem_listed_iff (lang : String) (hviewer : refused N.platform viewer = false)
    (hfew : h.notifications.rows.length ≤ 100) {n : Notification} :
    n ∈ listed N lang h viewer ↔ n ∈ h.notifications.rows ∧
      targetVisible n.target viewer (viewer.bind h.db.tables.teamOf) = true := by
  have hrun : listed N lang h viewer = (h.notifications.listRecent 100).filter fun n =>
      targetVisible n.target viewer (viewer.bind h.db.tables.teamOf) := by
    rw [listed, listNotifications, hviewer, if_neg Bool.false_ne_true, Program.run_bind,
      run_viewerIdentity]
    rfl
  rw [hrun, List.mem_filter, NotificationTable.mem_listRecent hfew]

/-! ## What a call adds -/

/-- No stream is a whole channel behind. -/
def Hub.KeepsUp (h : Hub) : Prop := ∀ s ∈ h.streams, s.unread.length < channelCapacity

/-- There are fewer announcements than a list shows. -/
def Hub.Few (h : Hub) : Prop := h.notifications.rows.length < 100

instance (h : Hub) : Decidable h.KeepsUp := inferInstanceAs (Decidable (∀ s ∈ _, _))

instance (h : Hub) : Decidable h.Few := inferInstanceAs (Decidable (_ < _))

/-- Every stream is of a viewer who may read. -/
def Hub.Admitted (P : Platform) (h : Hub) : Prop := ∀ s ∈ h.streams, refused P s.accountId = false

/-- A stream is the same stream, and delivers a notification more if it was sent one for it. -/
structure NoticeStream.Goes (s s' : NoticeStream) (sent : Option Notification) : Prop where
  accountId : s'.accountId = s.accountId
  teamId : s'.teamId = s.teamId
  delivers : s'.delivers = s.delivers ++ (sent.bind s.accept).toList

theorem NoticeStream.Goes.refl (s : NoticeStream) : s.Goes s none := ⟨rfl, rfl, by simp⟩

/-- An announcement is made, stored and sent to every stream, or nothing happens. -/
theorem step_announce (N : NoticeSite) (h : Hub) (lang id : String) (now : ℤ)
    (payload : AnnouncePayload) :
    (h.notifications.Accepts (announcementOf N h id now payload) ∧
      announced N h (.announce lang id now payload) = some (announcementOf N h id now payload) ∧
      ∃ notifications : NotificationTable,
        notifications.rows = h.notifications.rows ++ [announcementOf N h id now payload] ∧
        (NoticeCall.announce lang id now payload).step N h =
          { h with
            notifications := notifications
            streams := h.streams.map fun s => s.send (announcementOf N h id now payload) }) ∨
    (¬ h.notifications.Accepts (announcementOf N h id now payload) ∧
      announced N h (.announce lang id now payload) = none ∧
      (NoticeCall.announce lang id now payload).step N h = h) := by
  have hrun := run_createNotification (N := N) (h := h) lang id now payload
  rw [announced, NoticeCall.step]
  by_cases haccepts : h.notifications.Accepts (announcementOf N h id now payload)
  · obtain ⟨notifications, hsave, hrows⟩ :=
      NotificationTable.save_of_accepts N.site.refusal haccepts
    rw [hsave] at hrun
    rw [hrun]
    exact .inl ⟨haccepts, rfl, notifications, hrows, rfl⟩
  · obtain ⟨e, hsave⟩ := NotificationTable.save_of_not_accepts N.site.refusal haccepts
    rw [hsave] at hrun
    rw [hrun]
    exact .inr ⟨haccepts, rfl, rfl⟩

/-- A stream that is opened, or a refusal. -/
theorem step_openStream (N : NoticeSite) (h : Hub) (lang : String) (viewer : Option AccountId) :
    (NoticeCall.openStream lang viewer).step N h =
      if refused N.platform viewer then h
      else { h with
        streams := h.streams ++ [⟨viewer, viewer.bind h.db.tables.teamOf, [], []⟩] } := by
  rw [NoticeCall.step, notificationsStream]
  split_ifs
  · rfl
  · rw [Program.run_bind, run_viewerIdentity]
    rfl

/-- A stream that was polled is the stream that it was. -/
theorem exists_of_mem_poll {j : ℕ} {s : NoticeStream}
    (hs : s ∈ ((NoticeCall.poll j).step N h).streams) :
    ∃ s₀ ∈ h.streams, s.accountId = s₀.accountId ∧ s.teamId = s₀.teamId := by
  obtain ⟨i, hi⟩ := List.mem_iff_getElem?.mp hs
  rw [NoticeCall.step, List.getElem?_modify] at hi
  obtain ⟨s₀, hs₀, rfl⟩ := Option.map_eq_some_iff.mp hi
  refine ⟨s₀, List.mem_of_getElem? hs₀, ?_⟩
  split_ifs
  · exact ⟨rfl, rfl⟩
  · exact ⟨rfl, rfl⟩

/-- **What a call adds to a stream.** -/
theorem stream_step (hkeeps : h.KeepsUp) (call : NoticeCall) {i : ℕ} {s : NoticeStream}
    (hs : h.streams[i]? = some s) :
    ∃ s', (call.step N h).streams[i]? = some s' ∧ s.Goes s' (announced N h call) := by
  cases call with
  | openStream lang viewer =>
    refine ⟨s, ?_, NoticeStream.Goes.refl s⟩
    rw [step_openStream]
    split_ifs
    · exact hs
    · exact List.getElem?_append_left (List.getElem?_eq_some_iff.mp hs).1 ▸ hs
  | poll j =>
    rw [NoticeCall.step, List.getElem?_modify, hs]
    by_cases hji : j = i
    · exact ⟨s.poll, by simp [hji], rfl, rfl, by simp [announced]⟩
    · exact ⟨s, by simp [hji], NoticeStream.Goes.refl s⟩
  | join scripts req => exact ⟨s, hs, NoticeStream.Goes.refl s⟩
  | announce lang id now payload =>
    rcases step_announce N h lang id now payload with
      ⟨-, hannounced, notifications, -, hstep⟩ | ⟨-, hannounced, hstep⟩
    · rw [hannounced, hstep]
      refine ⟨s.send (announcementOf N h id now payload), ?_, rfl, rfl, ?_⟩
      · simp [hs]
      · exact NoticeStream.delivers_send (hkeeps s (List.mem_of_getElem? hs)) _
    · rw [hannounced, hstep]
      exact ⟨s, hs, NoticeStream.Goes.refl s⟩

/-- **Where the streams of a call come from**: one that was just opened has the viewer's team,
and every other is the stream that it was. -/
theorem of_mem_streams_step {call : NoticeCall} {s : NoticeStream}
    (hs : s ∈ (call.step N h).streams) :
    (∃ s₀ ∈ h.streams, s.accountId = s₀.accountId ∧ s.teamId = s₀.teamId) ∨
      ∃ lang viewer, call = .openStream lang viewer ∧ refused N.platform viewer = false ∧
        s = ⟨viewer, viewer.bind h.db.tables.teamOf, [], []⟩ := by
  cases call with
  | openStream lang viewer =>
    rw [step_openStream] at hs
    split_ifs at hs with hrefused
    · exact .inl ⟨s, hs, rfl, rfl⟩
    · rcases List.mem_append.mp hs with hold | hnew
      · exact .inl ⟨s, hold, rfl, rfl⟩
      · exact .inr ⟨lang, viewer, rfl, Bool.eq_false_iff.mpr hrefused, List.mem_singleton.mp hnew⟩
  | poll j => exact .inl (exists_of_mem_poll hs)
  | join scripts req => exact .inl ⟨s, hs, rfl, rfl⟩
  | announce lang id now payload =>
    rcases step_announce N h lang id now payload with
      ⟨-, -, notifications, -, hstep⟩ | ⟨-, -, hstep⟩
    · rw [hstep] at hs
      obtain ⟨s₀, hs₀, rfl⟩ := List.mem_map.mp hs
      exact .inl ⟨s₀, hs₀, rfl, rfl⟩
    · rw [hstep] at hs
      exact .inl ⟨s, hs, rfl, rfl⟩

/-- Only viewers who may read get a stream. -/
theorem admitted_step (hadmitted : h.Admitted N.platform) (call : NoticeCall) :
    (call.step N h).Admitted N.platform := by
  intro s hs
  rcases of_mem_streams_step hs with ⟨s₀, hs₀, haccount, -⟩ | ⟨lang, viewer, -, hviewer, rfl⟩
  · rw [haccount]
    exact hadmitted s₀ hs₀
  · exact hviewer

/-! ## What a list then has -/

/-- Right after an announcement, the list has it if it is for the viewer. -/
theorem told_eq (lang : String) (hfew : h.Few) (hviewer : refused N.platform viewer = false)
    (call : NoticeCall) :
    told N lang h call viewer = (announced N h call).toList.filter fun n =>
      targetVisible n.target viewer (viewer.bind h.db.tables.teamOf) := by
  cases call with
  | announce lang' id now payload =>
    rw [told]
    rcases step_announce N h lang' id now payload with
      ⟨-, hannounced, notifications, hrows, hstep⟩ | ⟨-, hannounced, -⟩
    · rw [hannounced, hstep]
      refine List.filter_congr fun n hn => ?_
      obtain rfl : n = announcementOf N h id now payload := by simpa using hn
      have hroom : notifications.rows.length ≤ 100 := by
        rw [hrows, List.length_append]
        exact hfew
      rw [Bool.eq_iff_iff, decide_eq_true_iff, mem_listed_iff lang hviewer hroom, hrows]
      simp
    · rw [hannounced]
      rfl
  | _ => rfl

/-! ## Streams that are up to date -/

/-- An announcement for teams finds every stream with the team that its viewer is on, as far as
these teams go. -/
def UpToDate (h : Hub) : NoticeCall → Prop
  | .announce _ id now payload => ∀ ids, payload.target = .teams ids →
      h.notifications.Accepts
        ⟨id, .announcement, payload.title, payload.message, .teams ids, now⟩ →
      ∀ s ∈ h.streams, ∀ acc, s.accountId = some acc →
        (NotificationTarget.teams ids).matches acc s.teamId =
          (NotificationTarget.teams ids).matches acc (h.db.tables.teamOf acc)
  | _ => True

/-- The call tells every stream what the list tells its viewer. -/
def TellsAll (N : NoticeSite) (lang : String) (h : Hub) (call : NoticeCall) : Prop :=
  ∀ s ∈ h.streams, ((announced N h call).bind s.accept).toList =
    (told N lang h call s.accountId).map Event.ofNotification

/-- Who sees a notification does not depend on the team unless it is for teams. -/
theorem targetVisible_congr {target : NotificationTarget} (htarget : ∀ ids, target ≠ .teams ids)
    (acc : Option AccountId) (teamId teamId' : Option TeamId) :
    targetVisible target acc teamId = targetVisible target acc teamId' := by
  cases acc with
  | none => rfl
  | some acc =>
    cases target with
    | teams ids => exact absurd rfl (htarget ids)
    | _ => rfl

/-- A stream and a list treat an announcement alike if the two teams do. -/
theorem accept_eq_filter_iff (s : NoticeStream) (n : Notification) (teamId : Option TeamId) :
    (s.accept n).toList =
        ([n].filter fun n => targetVisible n.target s.accountId teamId).map Event.ofNotification ↔
      targetVisible n.target s.accountId s.teamId = targetVisible n.target s.accountId teamId := by
  rw [NoticeStream.accept]
  cases targetVisible n.target s.accountId s.teamId <;>
    cases hlist : targetVisible n.target s.accountId teamId <;> simp [hlist]

section

variable {lang id : String} {now : ℤ} {payload : AnnouncePayload}

/-- What is for teams is stored as it is. -/
theorem announcementOf_teams {ids : List TeamId} (htarget : payload.target = .teams ids) :
    announcementOf N h id now payload =
      ⟨id, .announcement, payload.title, payload.message, .teams ids, now⟩ := by
  rw [announcementOf, Hub.resolve_eq_teams_iff.mpr htarget]

/-- Nothing is asked of an announcement that is not made. -/
theorem upToDate_of_not_accepts
    (hrefused : ¬ h.notifications.Accepts (announcementOf N h id now payload)) :
    UpToDate h (.announce lang id now payload) := by
  intro ids htarget haccepts
  have hstored : h.notifications.Accepts (announcementOf N h id now payload) := by
    rw [announcementOf_teams htarget]
    exact haccepts
  exact absurd hstored hrefused

/-- Every stream treats an announcement as its viewer's team of now would. -/
theorem upToDate_iff_of_accepts
    (haccepts : h.notifications.Accepts (announcementOf N h id now payload)) :
    UpToDate h (.announce lang id now payload) ↔ ∀ s ∈ h.streams,
      targetVisible (announcementOf N h id now payload).target s.accountId s.teamId =
        targetVisible (announcementOf N h id now payload).target s.accountId
          (s.accountId.bind h.db.tables.teamOf) := by
  constructor
  · intro hcurrent s hs
    by_cases htarget : ∃ ids, payload.target = .teams ids
    · obtain ⟨ids, htarget⟩ := htarget
      rw [announcementOf_teams htarget] at haccepts ⊢
      cases hacc : s.accountId with
      | none => rfl
      | some acc => exact hcurrent ids htarget haccepts s hs acc hacc
    · refine targetVisible_congr (fun ids hids => htarget ⟨ids, ?_⟩) _ _ _
      exact Hub.resolve_eq_teams_iff.mp hids
  · intro hsame ids htarget _ s hs acc hacc
    have hs' := hsame s hs
    rw [announcementOf_teams htarget, hacc] at hs'
    exact hs'

end

/-- **The step lemma.** -/
theorem tellsAll_iff (lang : String) (hfew : h.Few) (hadmitted : h.Admitted N.platform)
    (call : NoticeCall) : TellsAll N lang h call ↔ UpToDate h call := by
  have htold : TellsAll N lang h call ↔ ∀ s ∈ h.streams,
      ((announced N h call).bind s.accept).toList =
        ((announced N h call).toList.filter fun n => targetVisible n.target s.accountId
          (s.accountId.bind h.db.tables.teamOf)).map Event.ofNotification :=
    forall₂_congr fun s hs => by rw [told_eq lang hfew (hadmitted s hs)]
  rw [htold]
  cases call with
  | announce lang' id now payload =>
    rcases step_announce N h lang' id now payload with
      ⟨haccepts, hannounced, -⟩ | ⟨hrefused, hannounced, -⟩
    · rw [hannounced, upToDate_iff_of_accepts haccepts]
      exact forall₂_congr fun s _ => accept_eq_filter_iff s _ _
    · rw [hannounced]
      exact iff_of_true (fun _ _ => rfl) (upToDate_of_not_accepts hrefused)
  | _ => exact iff_of_true (fun _ _ => rfl) trivial

/-! ## Runs -/

/-- The calls that are not made yet are part of the run. -/
theorem DeliversListed.tail {lang : String} {call : NoticeCall} {calls : List NoticeCall}
    (hall : DeliversListed N lang h (call :: calls)) :
    DeliversListed N lang (call.step N h) calls := by
  rintro before after rfl i s hs
  exact hall (call :: before) after rfl i s hs

/-- What is delivered during a run is delivered by its first call, and then by the others. -/
theorem DeliversListed.head {lang : String} {call : NoticeCall} {calls : List NoticeCall}
    (hkeeps : h.KeepsUp) (hall : DeliversListed N lang h (call :: calls)) :
    TellsAll N lang h call := by
  intro s hmem
  obtain ⟨i, hs⟩ := List.mem_iff_getElem?.mp hmem
  obtain ⟨s₁, hs₁, hgoes⟩ := stream_step hkeeps call hs
  obtain ⟨s', hs', hdelivers⟩ := hall [] (call :: calls) rfl i s hs
  obtain ⟨s'', hs'', hdelivers₁⟩ := hall.tail [] calls rfl i s₁ hs₁
  obtain rfl : s' = s'' := Option.some.inj (hs'.symm.trans hs'')
  rw [hdelivers, hgoes.delivers, hgoes.accountId, List.append_assoc] at hdelivers₁
  have hlater := List.append_cancel_left hdelivers₁
  rw [toldDuring, List.map_append] at hlater
  exact (List.append_cancel_right hlater).symm

/-- Calls that tell every stream what the lists tell make a run that does. -/
theorem deliversListed_cons {lang : String} {call : NoticeCall} {calls : List NoticeCall}
    (hkeeps : h.KeepsUp) (htells : TellsAll N lang h call)
    (hrest : DeliversListed N lang (call.step N h) calls) :
    DeliversListed N lang h (call :: calls) := by
  intro before after hsplit i s hs
  cases before with
  | cons call' before =>
    obtain ⟨rfl, rfl⟩ := List.cons.inj hsplit
    exact hrest before after rfl i s hs
  | nil =>
    obtain rfl : call :: calls = after := hsplit
    obtain ⟨s₁, hs₁, hgoes⟩ := stream_step hkeeps call hs
    obtain ⟨s', hs', hdelivers⟩ := hrest [] calls rfl i s₁ hs₁
    refine ⟨s', hs', ?_⟩
    rw [hdelivers, hgoes.delivers, hgoes.accountId, htells s (List.mem_of_getElem? hs),
      List.append_assoc, ← List.map_append]
    rfl

/-- **The run lemma.** -/
theorem deliversListed_iff_of_admitted (lang : String) {calls : List NoticeCall}
    (hadmitted : h.Admitted N.platform)
    (hroom : Runs.Each (NoticeCall.step N) (fun h _ => h.KeepsUp ∧ h.Few) h calls) :
    DeliversListed N lang h calls ↔ Runs.Each (NoticeCall.step N) UpToDate h calls := by
  induction calls generalizing h with
  | nil =>
    refine iff_of_true ?_ trivial
    rintro before after hsplit i s hs
    obtain ⟨rfl, rfl⟩ := List.append_eq_nil_iff.mp hsplit.symm
    exact ⟨s, hs, by simp [toldDuring]⟩
  | cons call calls ih =>
    obtain ⟨⟨hkeeps, hfew⟩, hrest⟩ := hroom
    have hstep := tellsAll_iff lang hfew hadmitted call
    have hcalls := ih (admitted_step hadmitted call) hrest
    constructor
    · exact fun hall => ⟨hstep.mp (hall.head hkeeps), hcalls.mp hall.tail⟩
    · rintro ⟨hcurrent, hlater⟩
      exact deliversListed_cons hkeeps (hstep.mpr hcurrent) (hcalls.mpr hlater)

end

/-- **Streams and lists agree** exactly when no announcement is for a team that the viewer of
an open stream has joined, or left, since they opened it. -/
theorem delivers_listed_iff (N : NoticeSite) (lang : String) {h : Hub} (hstart : h.streams = [])
    (calls : List NoticeCall)
    (hroom : Runs.Each (NoticeCall.step N) (fun h _ => h.KeepsUp ∧ h.Few) h calls) :
    DeliversListed N lang h calls ↔ Runs.Each (NoticeCall.step N) UpToDate h calls := by
  refine deliversListed_iff_of_admitted lang (fun s hs => ?_) hroom
  rw [hstart] at hs
  exact absurd hs List.not_mem_nil

/-! ## Viewers who stay on their team -/

section

variable {N : NoticeSite} {h : Hub}

/-- A join moves nobody else. -/
theorem teamOf_join (site : Site) (db : Pg.Database) (scripts : String → Option String)
    {req : JoinRequest} {a : AccountId} (ha : a ≠ req.accountId) :
    ((TeamCall.join scripts req).step site db).tables.teamOf a = db.tables.teamOf a := by
  have hjoin : Faults.Holds (Pg.Statement.result site.refusal) False db
      (joinTeam site.invites site.engines site.inviteSecret scripts req)
      fun _ db' => db'.tables.teamOf a = db.tables.teamOf a := by
    rw [joinTeam]
    cases verifyInviteToken site.invites req.token site.inviteSecret req.now with
    | none => exact Faults.Holds.done rfl
    | some claims =>
      refine (holds_joinVerified site.refusal site.engines scripts db ⟨claims.1⟩
        req.accountId).imp fun _ db' hdone => ?_
      split_ifs at hdone
      · rw [hdone.teamOf, if_neg ha]
      · rw [hdone]
  refine TeamCall.step_of_holds (fun db' => db'.tables.teamOf a = db.tables.teamOf a) ?_
  exact (Pg.holds_lift hjoin).bind fun _ _ hsame => Faults.Holds.done hsame

/-- Every stream has the team that its viewer is on. -/
def Hub.Settled (h : Hub) : Prop :=
  ∀ s ∈ h.streams, s.teamId = s.accountId.bind h.db.tables.teamOf

/-- The viewer of an open stream joins a team. -/
def NoticeCall.JoinsWatching (h : Hub) : NoticeCall → Prop
  | .join _ req => ∃ s ∈ h.streams, s.accountId = some req.accountId
  | _ => False

theorem upToDate_of_settled (hsettled : h.Settled) (call : NoticeCall) : UpToDate h call := by
  cases call with
  | announce lang id now payload =>
    intro ids _ _ s hs acc hacc
    rw [hsettled s hs, hacc]
    rfl
  | _ => trivial

theorem db_step_poll (N : NoticeSite) (h : Hub) (i : ℕ) :
    ((NoticeCall.poll i).step N h).db = h.db := rfl

theorem db_step_join (N : NoticeSite) (h : Hub) (scripts : String → Option String)
    (req : JoinRequest) : ((NoticeCall.join scripts req).step N h).db =
      (TeamCall.join scripts req).step N.site h.db := rfl

/-- Who has a stream stays on their team unless they join one. -/
theorem teamOf_step {call : NoticeCall} {s : NoticeStream} (hs : s ∈ h.streams)
    (hstays : ¬ call.JoinsWatching h) :
    s.accountId.bind (call.step N h).db.tables.teamOf =
      s.accountId.bind h.db.tables.teamOf := by
  cases call with
  | openStream lang viewer =>
    rw [step_openStream]
    split_ifs <;> rfl
  | poll j => rw [db_step_poll]
  | join scripts req =>
    rw [db_step_join]
    cases hacc : s.accountId with
    | none => rfl
    | some acc =>
      have hother : acc ≠ req.accountId := fun heq => hstays ⟨s, hs, by rw [hacc, heq]⟩
      exact teamOf_join N.site h.db scripts hother
  | announce lang id now payload =>
    rcases step_announce N h lang id now payload with
      ⟨-, -, notifications, -, hstep⟩ | ⟨-, -, hstep⟩
    · rw [hstep]
    · rw [hstep]

/-- Only a viewer who joins unsettles the streams. -/
theorem settled_step (hsettled : h.Settled) {call : NoticeCall} (hstays : ¬ call.JoinsWatching h) :
    (call.step N h).Settled := by
  intro s hs
  rcases of_mem_streams_step hs with ⟨s₀, hs₀, haccount, hteam⟩ | ⟨lang, viewer, rfl, hviewer, rfl⟩
  · rw [haccount, hteam, teamOf_step hs₀ hstays]
    exact hsettled s₀ hs₀
  · rw [step_openStream, if_neg (Bool.eq_false_iff.mp hviewer)]

/-- **If no viewer joins a team while they have a stream open**, streams and lists agree. -/
theorem deliversListed_of_stays (lang : String) {calls : List NoticeCall}
    (hadmitted : h.Admitted N.platform) (hsettled : h.Settled)
    (hroom : Runs.Each (NoticeCall.step N) (fun h _ => h.KeepsUp ∧ h.Few) h calls)
    (hstays : Runs.Each (NoticeCall.step N) (fun h call => ¬ call.JoinsWatching h) h calls) :
    DeliversListed N lang h calls := by
  refine (deliversListed_iff_of_admitted lang hadmitted hroom).mpr ?_
  exact Runs.each_of_each (P := Hub.Settled) (fun _ _ hsettled hstays =>
    settled_step hsettled hstays) (fun _ call hsettled _ => upToDate_of_settled hsettled call)
    hsettled hstays

end

/-! ## A viewer who joins -/

/-- A deployment that knows the invites for red. -/
def redNoticeSite : NoticeSite := ⟨redSite, .plain, fun _ _ _ _ => none⟩

/-- Red with its captain, and alice without a team. -/
def beforeAlice : Hub where
  db := {
    tables := beforeJoins
    distinct := by decide
    references := by decide }
  submissions := []
  notifications := .empty
  streams := []

/-- Alice opens a stream and joins red; then something is announced to red. -/
def aliceJoins : List NoticeCall := [
  .openStream "en-US" (some ⟨"alice"⟩),
  .join (fun _ => none) (joinRed "alice"),
  .announce "en-US" "n1" 0 ⟨"Hint", "Look again", .teams [⟨"red"⟩]⟩]

theorem room_aliceJoins :
    Runs.Each (NoticeCall.step redNoticeSite) (fun h _ => h.KeepsUp ∧ h.Few) beforeAlice
      aliceJoins := by
  refine ⟨?_, ?_, ?_, trivial⟩
  · decide +kernel
  · decide +kernel
  · decide +kernel

theorem delivers_listed_iff_aliceJoins :
    DeliversListed redNoticeSite "en-US" beforeAlice aliceJoins ↔
      Runs.Each (NoticeCall.step redNoticeSite) UpToDate beforeAlice aliceJoins :=
  delivers_listed_iff redNoticeSite "en-US" rfl aliceJoins room_aliceJoins

/-- What alice is told during the run after she has opened her stream. -/
theorem told_aliceJoins :
    toldDuring redNoticeSite "en-US" (some ⟨"alice"⟩)
        (Runs.run (NoticeCall.step redNoticeSite) beforeAlice (aliceJoins.take 1))
        (aliceJoins.drop 1) =
      [⟨"n1", .announcement, "Hint", "Look again", .teams [⟨"red"⟩], 0⟩] := by
  decide +kernel

/-- Her stream, at the beginning and at the end. -/
theorem streams_aliceJoins :
    (Runs.run (NoticeCall.step redNoticeSite) beforeAlice (aliceJoins.take 1)).streams =
        [⟨some ⟨"alice"⟩, none, [], []⟩] ∧
      (Runs.run (NoticeCall.step redNoticeSite) beforeAlice aliceJoins).streams =
        [⟨some ⟨"alice"⟩, none,
          [⟨"n1", .announcement, "Hint", "Look again", .teams [⟨"red"⟩], 0⟩], []⟩] := by
  decide +kernel

/-- **Her list has the announcement, her stream does not.** -/
theorem not_delivers_listed :
    Runs.Each (NoticeCall.step redNoticeSite) (fun h _ => h.KeepsUp ∧ h.Few) beforeAlice
        aliceJoins ∧
      ¬ DeliversListed redNoticeSite "en-US" beforeAlice aliceJoins := by
  refine ⟨room_aliceJoins, fun h => ?_⟩
  have hall := h (aliceJoins.take 1) (aliceJoins.drop 1) rfl 0
  rw [streams_aliceJoins.1, streams_aliceJoins.2] at hall
  obtain ⟨s', hs', hdelivers⟩ := hall _ rfl
  obtain rfl := Option.some.inj hs'
  rw [told_aliceJoins] at hdelivers
  exact absurd hdelivers (by decide)

end Cctf
