import Cctf.Services.Scoreboard

/-!
# The last solve of a team

The loop over challenges carries the time of the last solve along: whenever a challenge or a
part scores, the time moves on to the latest of the rows that it is credited with.

* `Latest` — the latest of some times, if there are any; it is unique.
* `CreditedAt` — a row that counts for a challenge was sent at that time.
* `latest_lastSolveTime` — **the last solve is the latest of the credited rows**.
-/

namespace Cctf

/-! ## The latest time -/

/-- The latest of the times with a property. -/
def Latest (P : ℤ → Prop) : Option ℤ → Prop
  | none => ∀ x, ¬ P x
  | some t => P t ∧ ∀ x, P x → x ≤ t

theorem Latest.unique {P : ℤ → Prop} {t t' : Option ℤ} (h : Latest P t) (h' : Latest P t') :
    t = t' := by
  cases t with
  | none =>
    cases t' with
    | none => rfl
    | some m => exact absurd h'.1 (h m)
  | some m =>
    cases t' with
    | none => exact absurd h.1 (h' m)
    | some m' => exact congrArg some (le_antisymm (h'.2 m h.1) (h.2 m' h'.1))

theorem Latest.congr {P Q : ℤ → Prop} {t : Option ℤ} (h : Latest P t) (hPQ : ∀ x, P x ↔ Q x) :
    Latest Q t := by
  obtain rfl : P = Q := funext fun x => propext (hPQ x)
  exact h

/-- The later of two latest times. -/
theorem Latest.max {P Q : ℤ → Prop} {t t' : ℤ} (h : Latest P (some t)) (h' : Latest Q (some t')) :
    Latest (fun x => P x ∨ Q x) (some (max t t')) := by
  constructor
  · rcases max_choice t t' with hmax | hmax
    · rw [hmax]
      exact .inl h.1
    · rw [hmax]
      exact .inr h'.1
  · rintro x (hx | hx)
    · exact (h.2 x hx).trans (le_max_left t t')
    · exact (h'.2 x hx).trans (le_max_right t t')

/-- One of the rows was sent at the time. -/
def SentAt (rows : List Submission) (x : ℤ) : Prop := ∃ sub ∈ rows, sub.submittedAt = x

theorem latest_max? (rows : List Submission) :
    Latest (SentAt rows) (rows.map (·.submittedAt)).max? := by
  cases hmax : (rows.map (·.submittedAt)).max? with
  | none =>
    rw [List.max?_eq_none_iff, List.map_eq_nil_iff] at hmax
    subst hmax
    rintro x ⟨sub, hsub, -⟩
    cases hsub
  | some t =>
    obtain ⟨hmem, hle⟩ := List.max?_eq_some_iff.mp hmax
    obtain ⟨sub, hsub, hat⟩ := List.mem_map.mp hmem
    refine ⟨⟨sub, hsub, hat⟩, ?_⟩
    rintro x ⟨sub', hsub', rfl⟩
    exact hle _ (List.mem_map_of_mem hsub')

/-- **Moving the time on** to the latest of some rows. -/
theorem latest_laterTime {P : ℤ → Prop} {last : Option ℤ} (h : Latest P last)
    (rows : List Submission) : Latest (fun x => P x ∨ SentAt rows x) (laterTime last rows) := by
  have hrows := latest_max? rows
  unfold laterTime
  cases hmax : (rows.map (·.submittedAt)).max? with
  | none =>
    rw [hmax] at hrows
    exact h.congr fun x => (or_iff_left (hrows x)).symm
  | some t =>
    rw [hmax] at hrows
    cases last with
    | none => exact hrows.congr fun x => (or_iff_right (h x)).symm
    | some m => exact h.max hrows

/-! ## The loop -/

/-- A row that scores for a challenge was sent at the time. -/
def CreditedAt (E : Engines) (team : Team) (subs : List Submission) (challenge : Challenge)
    (x : ℤ) : Prop :=
  match challenge.flag with
  | .multi partials =>
      ∃ pf ∈ partials, partScored E team challenge subs pf = true ∧
        SentAt (partSubs E challenge subs pf) x
  | _ => solvedBy challenge.teamConsensus team (correctOn challenge.id subs) = true ∧
      SentAt (correctOn challenge.id subs) x

section

variable {E : Engines} {team : Team} {subs : List Submission}

theorem latest_foldl_scorePart {challenge : Challenge} {decayed : UInt32}
    (partials : List PartialFlag) {P : ℤ → Prop} {acc : TeamSolveScore × Bool}
    (h : Latest P acc.1.lastSolveTime) :
    Latest (fun x => P x ∨ ∃ pf ∈ partials, partScored E team challenge subs pf = true ∧
        SentAt (partSubs E challenge subs pf) x)
      (partials.foldl (scorePart E team challenge subs decayed) acc).1.lastSolveTime := by
  induction partials generalizing P acc with
  | nil => exact h.congr fun x => by simp
  | cons pf rest ih =>
    rw [List.foldl_cons, scorePart]
    by_cases hscored : partScored E team challenge subs pf = true
    · rw [if_pos hscored]
      refine (ih (latest_laterTime h (partSubs E challenge subs pf))).congr fun x => ?_
      simp [hscored, or_assoc]
    · rw [if_neg hscored]
      refine (ih h).congr fun x => ?_
      simp [hscored]

theorem latest_scoreFlag {challenge : Challenge} {decayed : UInt32} {P : ℤ → Prop}
    {acc : TeamSolveScore} (h : Latest P acc.lastSolveTime) :
    Latest (fun x => P x ∨ CreditedAt E team subs challenge x)
      (scoreFlag E team challenge subs decayed acc).1.lastSolveTime := by
  unfold scoreFlag CreditedAt
  cases challenge.flag with
  | multi partials => exact latest_foldl_scorePart partials h
  | _ =>
    simp only
    split
    · rename_i hsolved
      exact (latest_laterTime h _).congr fun x => by simp [hsolved]
    · rename_i hsolved
      exact h.congr fun x => by simp [hsolved]

theorem latest_foldl_scoreChallenge {solvers : AList fun _ : String => Finset String}
    (challenges : List Challenge) {P : ℤ → Prop} {acc : TeamSolveScore}
    (h : Latest P acc.lastSolveTime) :
    Latest (fun x => P x ∨ ∃ c ∈ challenges, CreditedAt E team subs c x)
      (challenges.foldl (scoreChallenge E team subs solvers) acc).lastSolveTime := by
  induction challenges generalizing P acc with
  | nil => exact h.congr fun x => by simp
  | cons c rest ih =>
    have hstep : Latest (fun x => P x ∨ CreditedAt E team subs c x)
        (scoreChallenge E team subs solvers acc c).lastSolveTime := by
      rw [scoreChallenge]
      simp only
      split <;> exact latest_scoreFlag h
    rw [List.foldl_cons]
    refine (ih hstep).congr fun x => ?_
    simp [or_assoc]

/-- **The last solve of a team** is the latest of the rows it is credited with. -/
theorem latest_lastSolveTime (challenges : List Challenge) (submissions : List Submission)
    (solvers : AList fun _ : String => Finset String) :
    Latest (fun x => ∃ c ∈ challenges, CreditedAt E team (teamSubs team submissions) c x)
      (computeTeamSolveScore E team challenges submissions solvers).lastSolveTime := by
  have hstart : Latest (fun _ => False) none := fun x hx => hx
  exact (latest_foldl_scoreChallenge challenges hstart).congr fun x => by simp

end

end Cctf
