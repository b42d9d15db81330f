import Cctf.Api.Challenges

/-!
# What a view reveals

A player sees a challenge through its effective reveal, and nothing the reveal does not
expose.  Two versions of a challenge that agree on the exposed items cannot be told
apart.

* `playerReveal` — the effective reveal of a challenge for a player.
* `SameToViewer` — two versions of a challenge agree on what is exposed to a viewer.
* `SameButSecrets` — they differ in the flag, the author, the limits, the consensus rule
  or the content of locked hints only.
* `viewOf_eq` — what a viewer sees of two such versions is the same.
* `view_leaks_nothing` — **so are the responses of both handlers**.
-/

namespace Cctf

/-! ## What is exposed -/

/-- The effective reveal of a challenge for a player; `none` exposes everything. -/
def playerReveal (visibility : ChallengeVisibility) (met : Bool) : Option LockedReveal :=
  match visibility with
  | .locked r => some r
  | .visible => if met then none else some .initial
  | .hidden => none

/-- The address of a shared deployment. -/
def sharedUrl : ChallengeDeployment → Option String
  | .shared url => some url
  | _ => none

/-- Two lists of hints agree on their number and prices, and on the content of the
unlocked ones. -/
structure SameHints (E : Engines) (now : ℤ) (solves : UInt32) (unlocked : Finset UInt32)
    (hints hints' : List ChallengeHint) : Prop where
  number : hints'.length = hints.length
  cost : ∀ (i : ℕ) (h h' : ChallengeHint),
    hints[i]? = some h → hints'[i]? = some h' →
    h'.cost.evaluate E solves now = h.cost.evaluate E solves now
  content : ∀ (i : ℕ) (h h' : ChallengeHint),
    hints[i]? = some h → hints'[i]? = some h' →
    Rounding.wrapU32 i ∈ unlocked → h'.content = h.content

/-- Two versions of a challenge agree on every item that a reveal exposes. -/
structure SameExposed (E : Engines) (now : ℤ) (solves : UInt32) (unlocked : Finset UInt32)
    (reveal : Option LockedReveal) (c c' : Challenge) : Prop where
  description : reveal.all (·.description) = true → c'.description = c.description
  category : reveal.all (·.category) = true → c'.category = c.category
  points : reveal.all (·.points) = true → currentPoints c' solves = currentPoints c solves
  tags : reveal.all (·.tags) = true → c'.tags = c.tags
  files : reveal.all (·.files) = true → c'.files = c.files
  hints : reveal.all (·.hints) = true → SameHints E now solves unlocked c.hints c'.hints
  requirements : reveal.all (·.requirements) = true → c'.requirements = c.requirements
  connectionInfo : reveal.all (·.connectionInfo) = true →
    sharedUrl c'.deployment = sharedUrl c.deployment

/-- Two versions of a challenge agree on what is exposed to a viewer. -/
structure SameToViewer (P : Platform) (a : App) (user : AccountId) (now : ℤ) (c c' : Challenge) :
    Prop where
  id : c'.id = c.id
  title : c'.title = c.title
  visibility : c'.visibility = c.visibility
  met : requirementsMet c' (a.solvedIds user) = requirementsMet c (a.solvedIds user)
  exposed : SameExposed P.engines now (a.solveCount c.id) (a.unlockedHints user c.id)
    (playerReveal c.visibility (requirementsMet c (a.solvedIds user))) c c'

/-- Two versions of a challenge differ in the flag, the author, the attempt limit, the
consensus rule and the content of hints that the viewer has not unlocked only. -/
structure SameButSecrets (a : App) (user : AccountId) (c c' : Challenge) : Prop where
  rest : c' = { c with
    flag := c'.flag, author := c'.author, maxAttempts := c'.maxAttempts
    teamConsensus := c'.teamConsensus, hints := c'.hints }
  number : c'.hints.length = c.hints.length
  cost : ∀ (i : ℕ) (h h' : ChallengeHint),
    c.hints[i]? = some h → c'.hints[i]? = some h' → h'.cost = h.cost
  content : ∀ (i : ℕ) (h h' : ChallengeHint),
    c.hints[i]? = some h → c'.hints[i]? = some h' →
    Rounding.wrapU32 i ∈ a.unlockedHints user c.id → h'.content = h.content

/-- Two states that differ in their challenges only, which correspond. -/
structure SameRest (R : Challenge → Challenge → Prop) (a a' : App) : Prop where
  accounts : a'.accounts = a.accounts
  submissions : a'.tables.submissions = a.tables.submissions
  hintUnlocks : a'.tables.hintUnlocks = a.tables.hintUnlocks
  challenges : List.Forall₂ R a.tables.challenges.rows a'.tables.challenges.rows

/-! ## One challenge -/

section

variable {P : Platform} {a a' : App} {user : AccountId} {now : ℤ} {c c' : Challenge}

theorem publicHints_eq {E : Engines} {solves : UInt32} {unlocked : Finset UInt32}
    {hints hints' : List ChallengeHint} (h : SameHints E now solves unlocked hints hints') :
    publicHints E now solves unlocked hints' = publicHints E now solves unlocked hints := by
  refine List.ext_getElem (by simp [publicHints, h.number]) fun i hi' hi => ?_
  have hlt' : i < hints'.length := by simpa [publicHints] using hi'
  have hlt : i < hints.length := by simpa [publicHints] using hi
  have hcost := h.cost i _ _ (List.getElem?_eq_getElem hlt) (List.getElem?_eq_getElem hlt')
  have hcontent := h.content i _ _ (List.getElem?_eq_getElem hlt) (List.getElem?_eq_getElem hlt')
  simp only [publicHints, List.getElem_map, List.getElem_zipIdx, Nat.zero_add, hcost]
  by_cases hunlocked : Rounding.wrapU32 i ∈ unlocked
  · simp [hunlocked, hcontent hunlocked]
  · simp [hunlocked]

/-- **A view shows the exposed items only.** -/
theorem toPublicChallenge_eq {E : Engines} {solves : UInt32} {solved : Bool}
    {unlocked : Finset UInt32} {reveal : Option LockedReveal} (hid : c'.id = c.id)
    (htitle : c'.title = c.title) (h : SameExposed E now solves unlocked reveal c c') :
    toPublicChallenge E now c' solves solved unlocked reveal =
      toPublicChallenge E now c solves solved unlocked reveal := by
  have hshown : ∀ {α : Type} (b : Bool) (x x' y : α), (b = true → x' = x) →
      (if b then x' else y) = if b then x else y := by
    intro α b x x' y hx
    cases b with
    | true => simp [hx rfl]
    | false => rfl
  rw [toPublicChallenge, toPublicChallenge, PublicChallenge.mk.injEq]
  refine ⟨hid, htitle, hshown _ _ _ _ h.description, hshown _ _ _ _ h.category,
    hshown _ _ _ _ fun hpoints => congrArg some (h.points hpoints), hshown _ _ _ _ h.tags,
    hshown _ _ _ _ h.files, hshown _ _ _ _ fun hhints => publicHints_eq (h.hints hhints),
    hshown _ _ _ _ h.requirements, hshown _ _ _ _ h.connectionInfo, rfl, rfl⟩

/-- What decides about a player's view of a challenge that is not hidden. -/
theorem effectiveReveal_eq (hplayer : a.isAdmin user = false) (hshown : c.visibility ≠ .hidden) :
    a.effectiveReveal user c =
      playerReveal c.visibility (requirementsMet c (a.solvedIds user)) := by
  rw [App.effectiveReveal, lockedRevealOf, hplayer]
  cases hvisibility : c.visibility with
  | hidden => exact absurd hvisibility hshown
  | _ => rfl

/-- **What a viewer sees of two versions is the same.** -/
theorem viewOf_eq {R : Challenge → Challenge → Prop} (hrest : SameRest R a a')
    (hplayer : a.isAdmin user = false) (hshown : c.visibility ≠ .hidden)
    (h : SameToViewer P a user now c c') :
    a'.viewOf user P now c' = a.viewOf user P now c := by
  have hteam : a'.viewerTeam user = a.viewerTeam user := by
    rw [App.viewerTeam, App.viewerTeam, hrest.accounts]
  have hadmin : a'.isAdmin user = false := by
    rw [App.isAdmin, hrest.accounts]
    exact hplayer
  have hsolved : a'.solvedIds user = a.solvedIds user := by
    rw [App.solvedIds, App.solvedIds, hteam, hrest.submissions]
  have hunlocked : a'.unlockedHints user c.id = a.unlockedHints user c.id := by
    rw [App.unlockedHints, App.unlockedHints, hteam, hrest.hintUnlocks]
  have hcount : a'.solveCount c.id = a.solveCount c.id := by
    rw [App.solveCount, App.solveCount, hrest.submissions]
  have hreveal : a'.effectiveReveal user c' = a.effectiveReveal user c := by
    rw [effectiveReveal_eq hadmin (by rw [h.visibility]; exact hshown),
      effectiveReveal_eq hplayer hshown, h.visibility, hsolved, h.met]
  rw [App.viewOf, App.viewOf, hreveal, h.id, hcount, hunlocked, hteam, hrest.submissions]
  refine toPublicChallenge_eq h.id h.title ?_
  rw [effectiveReveal_eq hplayer hshown]
  exact h.exposed

/-- Versions that differ in the secrets only agree on what is exposed. -/
theorem SameButSecrets.sameToViewer (h : SameButSecrets a user c c') :
    SameToViewer P a user now c c' := by
  have hhints : SameHints P.engines now (a.solveCount c.id) (a.unlockedHints user c.id) c.hints
      c'.hints := by
    refine ⟨h.number, fun i x x' hx hx' => ?_, h.content⟩
    rw [h.cost i x x' hx hx']
  rw [h.rest]
  exact ⟨rfl, rfl, rfl, rfl, ⟨fun _ => rfl, fun _ => rfl, fun _ => rfl, fun _ => rfl,
    fun _ => rfl, fun _ => hhints, fun _ => rfl, fun _ => rfl⟩⟩

end

/-! ## The responses -/

section

variable {P : Platform} {a a' : App} {req : ViewRequest}

/-- The viewed challenges of two states, one after the other. -/
theorem map_viewOf_eq {R : Challenge → Challenge → Prop} (hrest : SameRest R a a')
    (hplayer : a.isAdmin req.user = false) {rows rows' : List Challenge}
    (h : List.Forall₂ (SameToViewer P a req.user req.now) rows rows') :
    (rows'.filter fun c => decide (c.visibility ≠ .hidden)).map (a'.viewOf req.user P req.now) =
      (rows.filter fun c => decide (c.visibility ≠ .hidden)).map
        (a.viewOf req.user P req.now) := by
  induction h with
  | nil => rfl
  | @cons c c' rows rows' hsame _ ih =>
    by_cases hshown : c.visibility ≠ .hidden
    · have hshown' : c'.visibility ≠ .hidden := by rw [hsame.visibility]; exact hshown
      rw [List.filter_cons_of_pos (by simpa using hshown'),
        List.filter_cons_of_pos (by simpa using hshown), List.map_cons, List.map_cons, ih,
        viewOf_eq hrest hplayer hshown hsame]
    · have hshown' : ¬ c'.visibility ≠ .hidden := by rw [hsame.visibility]; exact hshown
      rw [List.filter_cons_of_neg (by simpa using hshown'),
        List.filter_cons_of_neg (by simpa using hshown), ih]

theorem listChallenges_eq (hplayer : a.isAdmin req.user = false)
    (h : SameRest (SameToViewer P a req.user req.now) a a') :
    (runApi a' (listChallenges P req)).1 = (runApi a (listChallenges P req)).1 := by
  have hplayer' : a'.isAdmin req.user = false := by
    rw [App.isAdmin, h.accounts]
    exact hplayer
  rw [run_listChallenges, run_listChallenges, hplayer, hplayer']
  simp only [Bool.false_or]
  rw [map_viewOf_eq h hplayer h.challenges]

theorem getChallenge_eq (hplayer : a.isAdmin req.user = false)
    (h : SameRest (SameToViewer P a req.user req.now) a a') (challengeId : String) :
    (runApi a' (getChallenge P req challengeId)).1 =
      (runApi a (getChallenge P req challengeId)).1 := by
  have hplayer' : a'.isAdmin req.user = false := by
    rw [App.isAdmin, h.accounts]
    exact hplayer
  rw [run_getChallenge, run_getChallenge, hplayer, hplayer']
  have hfound := Table.find?_rel h.challenges (fun _ _ hsame => hsame.id) challengeId
  generalize a.tables.challenges.find? challengeId = found,
    a'.tables.challenges.find? challengeId = found' at hfound
  cases hfound with
  | none => rfl
  | @some c c' hsame =>
    simp only [Bool.not_false, Bool.true_and, decide_eq_true_eq, hsame.visibility]
    by_cases hshown : c.visibility = .hidden
    · rw [if_pos hshown, if_pos hshown]
    · rw [if_neg hshown, if_neg hshown, viewOf_eq h hplayer hshown hsame]

/-- **A view leaks what the reveal allows and nothing else.**  For a player, at a fixed
time and with fixed submissions and unlocks, versions of the challenges that agree on
what is exposed to the viewer give the same responses; in particular versions that
differ in their secrets only do. -/
theorem view_leaks_nothing (hplayer : a.isAdmin req.user = false)
    (h : SameRest (SameToViewer P a req.user req.now) a a' ∨
      SameRest (SameButSecrets a req.user) a a') :
    (runApi a' (listChallenges P req)).1 = (runApi a (listChallenges P req)).1 ∧
      ∀ challengeId, (runApi a' (getChallenge P req challengeId)).1 =
        (runApi a (getChallenge P req challengeId)).1 := by
  have hsame : SameRest (SameToViewer P a req.user req.now) a a' := by
    rcases h with hsame | hsecrets
    · exact hsame
    · exact ⟨hsecrets.accounts, hsecrets.submissions, hsecrets.hintUnlocks,
        hsecrets.challenges.imp fun _ _ hs => hs.sameToViewer⟩
  exact ⟨listChallenges_eq hplayer hsame, getChallenge_eq hplayer hsame⟩

end

/-! ## What alice cannot tell apart -/

/-- A challenge with a flag and a hint of one point. -/
def webWith (flag hint : String) : Challenge :=
  { Challenge.plain "web" "Web" ⟨.pointValue, "100"⟩ (.static flag) with
    hints := [⟨hint, .fixed 1⟩] }

/-- A locked challenge, which shows neither its description nor its address. -/
def vaultWith (description url : String) : Challenge :=
  { Challenge.plain "vault" "Vault" ⟨.pointValue, "100"⟩ (.static "flag") with
    description := description
    deployment := .shared url
    visibility := .locked .initial }

/-- Alice sees one challenge, and has unlocked nothing. -/
def aliceSees (c : Challenge) : App :=
  .fresh
    { teams := .empty
      challenges := .single c
      submissions := []
      hintUnlocks := []
      activeFlag := fun _ _ _ => none }
    (.single (.plain "alice" none))

/-- Both handlers answer alice the same about two versions of a challenge. -/
def SameToAlice (c c' : Challenge) : Prop :=
  (runApi (aliceSees c') (listChallenges .plain ⟨⟨"alice"⟩, "en", 0⟩)).1 =
      (runApi (aliceSees c) (listChallenges .plain ⟨⟨"alice"⟩, "en", 0⟩)).1 ∧
    ∀ challengeId,
      (runApi (aliceSees c') (getChallenge .plain ⟨⟨"alice"⟩, "en", 0⟩ challengeId)).1 =
        (runApi (aliceSees c) (getChallenge .plain ⟨⟨"alice"⟩, "en", 0⟩ challengeId)).1

/-- Versions with another flag and another text of a hint, and locked versions with another
description and another address. -/
theorem view_leaks_nothing_alice :
    SameToAlice (webWith "old" "above") (webWith "new" "below") ∧
      SameToAlice (vaultWith "old" "10.0.0.1") (vaultWith "new" "10.0.0.2") := by
  constructor
  · refine view_leaks_nothing rfl (.inr ⟨rfl, rfl, rfl, .cons ⟨rfl, rfl, ?_, ?_⟩ .nil⟩)
    · intro i h h' hi hi'
      cases i with
      | zero =>
        obtain rfl : (⟨"above", .fixed 1⟩ : ChallengeHint) = h := by simpa [webWith] using hi
        obtain rfl : (⟨"below", .fixed 1⟩ : ChallengeHint) = h' := by simpa [webWith] using hi'
        rfl
      | succ i => simp [webWith] at hi
    · intro i h h' _ _ hunlocked
      simp [App.unlockedHints, aliceSees, App.fresh, HintService.ownUnlocks] at hunlocked
  · refine view_leaks_nothing rfl (.inl ⟨rfl, rfl, rfl, .cons ⟨rfl, rfl, rfl, rfl, ?_⟩ .nil⟩)
    -- the description and the address are the only items that differ, and are not exposed
    refine ⟨fun h => ?_, fun _ => rfl, fun _ => rfl, fun _ => rfl, fun _ => rfl, fun h => ?_,
      fun _ => rfl, fun h => ?_⟩
    · cases h
    · cases h
    · cases h

end Cctf
