import Cctf.Notifications.Streams

/-!
# The latest announcements

The list shows a viewer at most a hundred announcements.  The repository cuts the table after
a hundred rows; only then does the handler drop what is not for the viewer.

* `Listing` — the order that the database gives the rows: by time, and ties as it likes.
* `announcements` — the announcements of a run.
* `ShowsLatest` — a viewer who asks gets the latest hundred announcements that are for them.
* `Listing.Clear` — the latest hundred are all for the viewer, or nothing older is.
* `showsLatest_iff` — **the list shows the latest exactly if that is so**.
* `shows_nothing` — a hundred announcements to somebody else hide the one before them.
-/

namespace Cctf

/-! ## The order of the rows -/

/-- The first of two notifications is not the older one. -/
def NotLater (n n' : Notification) : Prop := n'.createdAt ≤ n.createdAt

/-- `ORDER BY created_at DESC`, as the database carries it out. -/
structure Listing where
  order : List Notification → List Notification
  perm : ∀ rows, (order rows).Perm rows
  sorted : ∀ rows, (order rows).Pairwise NotLater

namespace Listing

/-- The notifications of one second stay in the order that they were stored in. -/
def stable : Listing where
  order := Ranking.sort NotificationTable.later
  perm := Ranking.perm_sort NotificationTable.later
  sorted rows := by
    have htrans : Std.TransCmp NotificationTable.later :=
      Ranking.transCmp_on (fun a b : ℤ => compare b a) Notification.createdAt
    refine (Ranking.pairwise_sort rows).imp ?_
    intro n n' hle
    exact compare_le_iff_le.mp hle

/-- The calls of the service and of its handlers, with the rows in this order. -/
def handler (L : Listing) (refusal : String) : Handler NoticeOp NoticeOp.Resp Hub where
  answer h
    | .notificationListRecent limit =>
      (.ok ((L.order h.notifications.rows).take limit) : Except RepoError (List Notification))
    | .accountFindById id => (Hub.handler refusal).answer h (.accountFindById id)
    | .accountFindAll => (Hub.handler refusal).answer h .accountFindAll
    | .submissionFindAll => (Hub.handler refusal).answer h .submissionFindAll
    | .notificationSave n => (Hub.handler refusal).answer h (.notificationSave n)
    | .send n => (Hub.handler refusal).answer h (.send n)
  next := (Hub.handler refusal).next

/-- **Nothing hides what the viewer should see**: the latest hundred are all for them, or
nothing older is. -/
def Clear (L : Listing) (visible : Notification → Bool) (rows : List Notification) : Prop :=
  (∀ n ∈ (L.order rows).take 100, visible n = true) ∨
    ∀ n ∈ (L.order rows).drop 100, visible n = false

instance (L : Listing) (visible : Notification → Bool) (rows : List Notification) :
    Decidable (L.Clear visible rows) := inferInstanceAs (Decidable (_ ∨ _))

/-- As long as there are few announcements, nothing is hidden. -/
theorem clear_of_length_le (L : Listing) (visible : Notification → Bool)
    {rows : List Notification} (hfew : rows.length ≤ 100) : L.Clear visible rows := by
  refine .inr fun n hn => ?_
  rw [List.drop_of_length_le ((L.perm rows).length_eq.trans_le hfew)] at hn
  exact absurd hn List.not_mem_nil

end Listing

/-! ## What a viewer is shown -/

/-- Is a notification for the viewer, on the team that they are on now? -/
def Hub.visibleTo (h : Hub) (viewer : Option AccountId) (n : Notification) : Bool :=
  targetVisible n.target viewer (viewer.bind h.db.tables.teamOf)

section

variable (N : NoticeSite)

/-- The announcements of a run, in the order that they are made. -/
def announcements : Hub → List NoticeCall → List Notification
  | _, [] => []
  | h, call :: calls => (announced N h call).toList ++ announcements (call.step N h) calls

/-- **A viewer who asks gets the latest hundred of the announcements that are for them**, the
newest first. -/
def ShowsLatest (L : Listing) (lang : String) (viewer : Option AccountId) (h : Hub)
    (made : List Notification) : Prop :=
  ∃ list, Program.run (L.handler N.site.refusal) h (listNotifications N.platform lang viewer) =
      (⟨200, .ok list⟩, h) ∧
    Ranking.Top NotLater 100 (made.filter (h.visibleTo viewer)) list

end

section

variable {N : NoticeSite}

/-- What is stored is what was announced. -/
theorem rows_step (h : Hub) (call : NoticeCall) :
    (call.step N h).notifications.rows =
      h.notifications.rows ++ (announced N h call).toList := by
  cases call with
  | openStream lang viewer =>
    rw [step_openStream]
    split_ifs <;> simp [announced]
  | poll i => simp [NoticeCall.step, announced]
  | join scripts req => simp [NoticeCall.step, announced]
  | announce lang id now payload =>
    rcases step_announce N h lang id now payload with
      ⟨-, hannounced, notifications, hrows, hstep⟩ | ⟨-, hannounced, hstep⟩
    · rw [hannounced, hstep, Option.toList_some]
      exact hrows
    · rw [hannounced, hstep, Option.toList_none, List.append_nil]

theorem rows_run (h : Hub) (calls : List NoticeCall) :
    (Runs.run (NoticeCall.step N) h calls).notifications.rows =
      h.notifications.rows ++ announcements N h calls := by
  induction calls generalizing h with
  | nil => simp [Runs.run, announcements]
  | cons call calls ih =>
    refine (ih (call.step N h)).trans ?_
    rw [rows_step, announcements, List.append_assoc]

/-- **The answer to a viewer**: the first hundred rows, of which those for the viewer. -/
theorem run_listNotifications (L : Listing) (lang : String) (h : Hub)
    {viewer : Option AccountId} (hviewer : refused N.platform viewer = false) :
    Program.run (L.handler N.site.refusal) h (listNotifications N.platform lang viewer) =
      (⟨200, .ok (((L.order h.notifications.rows).take 100).filter (h.visibleTo viewer))⟩, h) := by
  have hidentity : Program.run (L.handler N.site.refusal) h (viewerIdentity viewer) =
      ((viewer, viewer.bind h.db.tables.teamOf), h) := by
    rw [← run_viewerIdentity N.site.refusal viewer h]
    cases viewer with
    | none => rfl
    | some acc => rfl
  rw [listNotifications, hviewer, if_neg Bool.false_ne_true, Program.run_bind, hidentity]
  rfl

/-- In a state, what counts is what is stored. -/
theorem showsLatest_iff_clear (L : Listing) (lang : String) (h : Hub)
    {viewer : Option AccountId} (hviewer : refused N.platform viewer = false) :
    ShowsLatest N L lang viewer h h.notifications.rows ↔
      L.Clear (h.visibleTo viewer) h.notifications.rows := by
  have htop := Ranking.top_filter_take_iff (k := 100) (L.perm h.notifications.rows)
    (L.sorted h.notifications.rows) (h.visibleTo viewer)
  rw [Listing.Clear, ← htop, ShowsLatest, run_listNotifications L lang h hviewer]
  constructor
  · rintro ⟨list, heq, hlist⟩
    obtain rfl : _ = list := by simpa using heq
    exact hlist
  · exact fun hlist => ⟨_, rfl, hlist⟩

end

/-! ## The result -/

/-- **After any run, a viewer who may read is shown the latest hundred announcements that are
for them exactly if** the latest hundred of all are for them, or nothing older is. -/
theorem showsLatest_iff (N : NoticeSite) (L : Listing) (lang : String) (h : Hub)
    (calls : List NoticeCall) {viewer : Option AccountId}
    (hviewer : refused N.platform viewer = false) :
    ShowsLatest N L lang viewer (Runs.run (NoticeCall.step N) h calls)
        (h.notifications.rows ++ announcements N h calls) ↔
      L.Clear ((Runs.run (NoticeCall.step N) h calls).visibleTo viewer)
        (h.notifications.rows ++ announcements N h calls) := by
  rw [← rows_run]
  exact showsLatest_iff_clear L lang _ hviewer

/-! ## Announcements to somebody else -/

/-- Something is announced to alice, then a hundred things to bob. -/
def bobIsTold : List NoticeCall :=
  .announce "en-US" "a" 0 ⟨"Prize", "Come to the desk", .accounts [⟨"alice"⟩]⟩ ::
    (List.range 100).map fun (i : ℕ) =>
      .announce "en-US" (toString i) (i + 1)
        ⟨"Fee", "Due", .accounts [⟨"bob"⟩]⟩

theorem showsLatest_iff_bobIsTold :
    ShowsLatest redNoticeSite .stable "en-US" (some ⟨"bob"⟩)
        (Runs.run (NoticeCall.step redNoticeSite) beforeAlice (bobIsTold.take 1))
        (beforeAlice.notifications.rows ++
          announcements redNoticeSite beforeAlice (bobIsTold.take 1)) ↔
      Listing.stable.Clear
        ((Runs.run (NoticeCall.step redNoticeSite) beforeAlice (bobIsTold.take 1)).visibleTo
          (some ⟨"bob"⟩))
        (beforeAlice.notifications.rows ++
          announcements redNoticeSite beforeAlice (bobIsTold.take 1)) :=
  showsLatest_iff redNoticeSite .stable "en-US" beforeAlice (bobIsTold.take 1) rfl

/-- In the end alice's prize is the oldest of a hundred and one. -/
theorem not_clear_bobIsTold :
    ¬ Listing.stable.Clear
        ((Runs.run (NoticeCall.step redNoticeSite) beforeAlice bobIsTold).visibleTo
          (some ⟨"alice"⟩))
        (Runs.run (NoticeCall.step redNoticeSite) beforeAlice bobIsTold).notifications.rows := by
  decide +kernel

/-- **What was announced to bob pushes out what was announced to alice.** -/
theorem shows_nothing :
    ¬ ShowsLatest redNoticeSite .stable "en-US" (some ⟨"alice"⟩)
        (Runs.run (NoticeCall.step redNoticeSite) beforeAlice bobIsTold)
        (beforeAlice.notifications.rows ++
          announcements redNoticeSite beforeAlice bobIsTold) := by
  rw [← rows_run, showsLatest_iff_clear Listing.stable "en-US" _ rfl]
  exact not_clear_bobIsTold

end Cctf
