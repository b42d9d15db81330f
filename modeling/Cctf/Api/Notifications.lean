import Cctf.Library.Broadcast
import Cctf.Services.Notifications

/-!
# Announcements and streams

The handlers of `/api/v1/notifications`: an administrator announces, and a viewer reads what
is for them, as a list or as a stream that stays open.

* `targetVisible`, `viewerIdentity` — who a viewer is, and what they see.
* `resolveTarget` — a filter becomes the accounts that it picks.
* `NoticeStream` — an open stream: the identity that it was opened with, and its end of the
  channel.
* `notificationsStream`, `createNotification`, `listNotifications` — the handlers.
-/

namespace Cctf

/-! ## Viewers -/

/-- `target_visible`: without an account only what is for everyone. -/
def targetVisible (target : NotificationTarget) (accountId : Option AccountId)
    (teamId : Option TeamId) : Bool :=
  match accountId with
  | some acc => target.matches acc teamId
  | none => decide (target = .everyone)

/-- `viewer_identity`: the account with its team.  An account that cannot be read has none. -/
def viewerIdentity : Option AccountId → Notices (Option AccountId × Option TeamId)
  | some acc => do
    let found ← Notices.findAccount acc
    pure (some acc, found.toOption.join.bind Account.teamId)
  | none => pure (none, none)

/-! ## Targets -/

/-- The challenges that an account, or its team, has solved: a row for every solve. -/
def solvedOf (subs : List Submission) (account : Account) : List String :=
  (subs.filter fun s => s.isCorrect &&
    match account.teamId with
    | some t => decide (s.teamId = some t)
    | none => decide (s.accountId = account.id)).map Submission.challengeId

section

variable (evalFilter : (script : String) → (solved : List String) → (username email : String) →
  Option Bool)

/-- The accounts that a filter picks.  `evalFilter` is `eval_with_scope::<bool>` of a sandboxed
engine with `solved`, `username` and `email` in scope; `none` on an error. -/
def filterMatches (expr : String) (accounts : List Account) (subs : List Submission) :
    List AccountId :=
  (accounts.filter fun account =>
    (evalFilter expr (solvedOf subs account) account.username (account.email.getD "")).getD
      false).map Account.id

/-- `resolve_target`. -/
def resolveTarget : NotificationTarget → Notices NotificationTarget
  | .filter expr => do
    let accounts ← Notices.allAccounts
    let subs ← Notices.allSubmissions
    pure (.accounts (filterMatches evalFilter expr (accounts.toOption.getD [])
      (subs.toOption.getD [])))
  | target => pure target

end

/-! ## Streams -/

/-- `kind_event`. -/
def kindEvent : NotificationKind → String
  | .announcement => "announcement"
  | .solve => "solve"
  | .firstBlood => "first_blood"

/-- An event of a stream, with its JSON data. -/
structure Event where
  event : String
  data : Notification
  deriving DecidableEq, Repr

/-- The event of a notification. -/
def Event.ofNotification (n : Notification) : Event := ⟨kindEvent n.kind, n⟩

/-- The size of the channel that the streams read. -/
def channelCapacity : ℕ := 256

/-- An open stream. -/
structure NoticeStream where
  accountId : Option AccountId
  teamId : Option TeamId
  /-- What has been sent since the stream last took a message. -/
  unread : List Notification
  /-- What the viewer got. -/
  events : List Event
  deriving DecidableEq, Repr

namespace NoticeStream

/-- The event that the stream makes of a notification, if it is for the viewer. -/
def accept (s : NoticeStream) (n : Notification) : Option Event :=
  if targetVisible n.target s.accountId s.teamId then some (.ofNotification n) else none

/-- The channel gets a notification. -/
def send (s : NoticeStream) (n : Notification) : NoticeStream :=
  { s with unread := Broadcast.send s.unread n }

/-- The stream takes the next message of the channel; what it missed is skipped. -/
def poll (s : NoticeStream) : NoticeStream :=
  let (received, unread) := Broadcast.recv channelCapacity s.unread
  { s with unread := unread, events := s.events ++ received.toList.filterMap s.accept }

/-- What the viewer got and, if the stream is polled on, gets of what was sent so far. -/
def delivers (s : NoticeStream) : List Event :=
  s.events ++ (Broadcast.ahead channelCapacity s.unread).filterMap s.accept

/-- Polling does not change what is delivered. -/
@[simp] theorem delivers_poll (s : NoticeStream) : s.poll.delivers = s.delivers := by
  rw [delivers, delivers, Broadcast.ahead_recv s.unread, List.filterMap_append,
    ← List.append_assoc]
  rfl

/-- **What is sent is delivered to whom it is for**, if the stream keeps up. -/
theorem delivers_send {s : NoticeStream} (h : s.unread.length < channelCapacity)
    (n : Notification) : (s.send n).delivers = s.delivers ++ (s.accept n).toList := by
  have hahead : (Broadcast.ahead channelCapacity (s.send n).unread).filterMap s.accept =
      (Broadcast.ahead channelCapacity s.unread).filterMap s.accept ++ (s.accept n).toList := by
    rw [send, Broadcast.ahead_send h, List.filterMap_append]
    cases haccept : s.accept n with
    | none => simp [haccept]
    | some event => simp [haccept]
  rw [delivers, delivers, List.append_assoc]
  exact congrArg (s.events ++ ·) hahead

end NoticeStream

/-! ## Handlers -/

section

variable (P : Platform) (lang : String)

/-- May a viewer not read notifications? -/
def refused (viewer : Option AccountId) : Bool :=
  P.notifications.requireAuth && viewer.isNone

/-- `notifications_stream`. -/
def notificationsStream (viewer : Option AccountId) : Notices (Response NoticeStream) :=
  if refused P viewer then pure (ServiceError.unauthorized.response P.localization lang)
  else do
    let (accountId, teamId) ← viewerIdentity viewer
    pure ⟨200, .ok ⟨accountId, teamId, [], []⟩⟩

/-- What an administrator sends. -/
structure AnnouncePayload where
  title : String
  message : String
  target : NotificationTarget := .everyone
  deriving DecidableEq, Repr

/-- `create_notification`, with the id and the time that it makes up. -/
def createNotification (evalFilter : String → List String → String → String → Option Bool)
    (id : String) (now : ℤ) (payload : AnnouncePayload) : Notices (Response Notification) := do
  let target ← resolveTarget evalFilter payload.target
  match ← NotificationService.announce id payload.title payload.message target now with
  | .ok n => pure ⟨201, .ok n⟩
  | .error e => pure (e.response P.localization lang)

/-- `list_notifications`. -/
def listNotifications (viewer : Option AccountId) : Notices (Response (List Notification)) :=
  if refused P viewer then pure (ServiceError.unauthorized.response P.localization lang)
  else do
    let (accountId, teamId) ← viewerIdentity viewer
    match ← NotificationService.listRecent 100 with
    | .ok list => pure ⟨200, .ok (list.filter fun n => targetVisible n.target accountId teamId)⟩
    | .error e => pure (e.response P.localization lang)

end

end Cctf
