import Cctf.Api.App
import Cctf.Library.Ranking
import Cctf.Repos.Pg.Columns

/-!
# Notifications

`NotificationService`: an announcement is stored and sent to a channel that every open stream
reads.

* `NotificationTarget.matches` — whom a notification is for.
* `NoticeOp` — the calls of the service and its handlers.
* `NotificationTable` — the `notifications` table: `save` and `listRecent`.
* `announce`, `listRecent` — the methods.
-/

namespace Cctf

/-! ## Targets -/

/-- `NotificationTarget::matches`.  A filter matches nobody. -/
def NotificationTarget.matches (target : NotificationTarget) (accountId : AccountId)
    (teamId : Option TeamId) : Bool :=
  match target with
  | .everyone => true
  | .accounts ids => decide (accountId ∈ ids)
  | .teams ids => teamId.any fun t => decide (t ∈ ids)
  | .filter _ => false

/-! ## The table -/

/-- The texts of a target, which is stored as JSON. -/
def NotificationTarget.texts : NotificationTarget → List String
  | .everyone => []
  | .teams ids => ids.map TeamId.val
  | .accounts ids => ids.map AccountId.val
  | .filter script => [script]

/-- The texts of a notification. -/
def Notification.texts (n : Notification) : List String :=
  [n.id, n.title, n.message] ++ n.target.texts

/-- The `notifications` table.  Its `JSONB` columns are kept as what they encode. -/
abbrev NotificationTable : Type := Table Notification String Notification.id

namespace NotificationTable

/-- Do the columns take the notification? -/
def Fits (n : Notification) : Prop := n.id.length ≤ 64 ∧ n.texts.all Pg.storable = true

instance (n : Notification) : Decidable (Fits n) := inferInstanceAs (Decidable (_ ∧ _))

/-- Does the database take the notification? -/
def Accepts (t : NotificationTable) (n : Notification) : Prop :=
  n.id ∉ t.rows.map Notification.id ∧ Fits n

instance (t : NotificationTable) (n : Notification) : Decidable (t.Accepts n) :=
  inferInstanceAs (Decidable (_ ∧ _))

/-- `NotificationRepo::save`; `refusal` is what the database says when a column refuses its
value. -/
def save (refusal : String) (t : NotificationTable) (n : Notification) :
    Except RepoError NotificationTable :=
  if Fits n then
    match t.insert n with
    | some t' => .ok t'
    | none => .error (.conflict "auth-username-taken")
  else .error (.internal refusal)

/-- The later of two notifications comes first. -/
def later (n n' : Notification) : Ordering := compare n'.createdAt n.createdAt

/-- `NotificationRepo::list_recent`: `ORDER BY created_at DESC LIMIT $1`. -/
def listRecent (t : NotificationTable) (limit : ℕ) : List Notification :=
  (Ranking.sort later t.rows).take limit

/-- A notification that is accepted is added. -/
theorem save_of_accepts {t : NotificationTable} {n : Notification} (refusal : String)
    (h : t.Accepts n) : ∃ t', t.save refusal n = .ok t' ∧ t'.rows = t.rows ++ [n] := by
  obtain ⟨hnew, hfits⟩ := h
  obtain ⟨t', hinsert, hrows⟩ := t.exists_insert hnew
  refine ⟨t', ?_, hrows⟩
  rw [save, if_pos hfits, hinsert]

/-- One that is not accepted is an error: of the columns, or of the primary key. -/
theorem save_of_not_accepts {t : NotificationTable} {n : Notification} (refusal : String)
    (h : ¬ t.Accepts n) : ∃ e, t.save refusal n = .error e := by
  rw [save]
  by_cases hfits : Fits n
  · have htaken : n.id ∈ t.rows.map Notification.id := by
      by_contra hnew
      exact h ⟨hnew, hfits⟩
    have hnone : t.insert n = none := dif_pos htaken
    rw [if_pos hfits, hnone]
    exact ⟨_, rfl⟩
  · rw [if_neg hfits]
    exact ⟨_, rfl⟩

/-- **While the table is small, everything in it is listed.** -/
theorem mem_listRecent {t : NotificationTable} {limit : ℕ} (h : t.rows.length ≤ limit)
    {n : Notification} : n ∈ t.listRecent limit ↔ n ∈ t.rows := by
  have hperm := Ranking.perm_sort later t.rows
  rw [listRecent, List.take_of_length_le (hperm.length_eq.trans_le h), hperm.mem_iff]

end NotificationTable

/-! ## Calls -/

/-- The calls of the service and of its handlers. -/
inductive NoticeOp where
  | accountFindById (id : AccountId)
  | accountFindAll
  | submissionFindAll
  | notificationSave (notification : Notification)
  | notificationListRecent (limit : ℕ)
  | send (notification : Notification)

/-- What a call returns. -/
def NoticeOp.Resp : NoticeOp → Type
  | .accountFindById _ => Except RepoError (Option Account)
  | .accountFindAll => Except RepoError (List Account)
  | .submissionFindAll => Except RepoError (List Submission)
  | .notificationSave _ => Except RepoError Unit
  | .notificationListRecent _ => Except RepoError (List Notification)
  | .send _ => Unit

/-- The computations of the service and of its handlers. -/
abbrev Notices (α : Type) : Type := Program NoticeOp NoticeOp.Resp α

namespace Notices

/-- `AccountRepo::find_by_id`. -/
def findAccount (id : AccountId) : Notices (Except RepoError (Option Account)) :=
  .call (.accountFindById id) .done

/-- `AccountRepo::find_all`. -/
def allAccounts : Notices (Except RepoError (List Account)) := .call .accountFindAll .done

/-- `SubmissionRepo::find_all`. -/
def allSubmissions : Notices (Except RepoError (List Submission)) := .call .submissionFindAll .done

/-- `NotificationRepo::save`. -/
def save (notification : Notification) : Notices (Except RepoError Unit) :=
  .call (.notificationSave notification) .done

/-- `NotificationRepo::list_recent`. -/
def listRecent (limit : ℕ) : Notices (Except RepoError (List Notification)) :=
  .call (.notificationListRecent limit) .done

/-- `broadcast::Sender::send`. -/
def send (notification : Notification) : Notices Unit := .call (.send notification) .done

end Notices

namespace NotificationService

/-- `announce`, at a time and with a fresh id. -/
def announce (id title message : String) (target : NotificationTarget) (now : ℤ) :
    Notices (Except ServiceError Notification) := do
  let notification := ⟨id, .announcement, title, message, target, now⟩
  match ← Notices.save notification with
  | .error e => pure (.error (.repo e))
  | .ok () => do
    Notices.send notification
    pure (.ok notification)

/-- `list_recent`. -/
def listRecent (limit : ℕ) : Notices (Except ServiceError (List Notification)) := do
  let rows ← Notices.listRecent limit
  pure (rows.mapError .repo)

end NotificationService

end Cctf
