/-
Module: CachePilot.Core.Survival
Layer: Core
Purpose: The empirical survival estimator: hits are censored observations, misses are deaths. The pairs of age and
  outcome are sorted; an inner loop counts the deaths and the hits of one age, and the outer loop lowers the survival
  by the deaths' share of those at risk and removes the group. Ages are exact rationals; the survival is rounded where
  a step records it. Dividing by zero raises.
Trusted boundary: the reading of survival.py, with ages as exact rationals
Main exports: SurvivalObservation, SurvivalStep, SurvivalCurve, countGroup, survivalSteps, estimateSurvival,
  SurvivalCurve.survivalAt, SurvivalCurve.medianSurvivalS, curveFromObservations
-/
import Mathlib.Data.List.Sort
import Mathlib.Data.Rat.Floor
import Mathlib.Data.String.Basic
import CachePilot.Core.Ttl
import CachePilot.Lib.Rounding

namespace CachePilot

/-- One survival input. -/
structure SurvivalObservation where
  idleAgeS : Option ℚ
  outcome : Outcome

/-- One step: the survival after the deaths at an age, and the number at risk just before them. -/
structure SurvivalStep where
  ageS : ℚ
  survival : ℚ
  atRisk : ℤ
  events : ℤ
deriving DecidableEq

/-- The empirical survival curve of one profile. -/
structure SurvivalCurve where
  profileKey : Option String := none
  steps : List SurvivalStep := []
  sampleCount : ℕ := 0
  horizonS : Option ℚ := none
deriving DecidableEq

namespace SurvivalCurve

def empty (curve : SurvivalCurve) : Bool := curve.sampleCount = 0

/-- The survival of the last step at or below the age, from the one that holds so far. -/
def lastSurvival (ageS estimate : ℚ) : List SurvivalStep → ℚ
  | [] => estimate
  | step :: rest => if ageS < step.ageS then estimate else lastSurvival ageS step.survival rest

/-- The estimate at an age: nothing without observations and beyond the horizon, and one before the first death. -/
def survivalAt (curve : SurvivalCurve) (ageS : ℚ) : Option ℚ :=
  if curve.empty then none
  else
    match curve.horizonS with
    | none => none
    | some horizonS =>
        if horizonS < ageS then none
        else
          match curve.steps with
          | [] => some 1
          | first :: rest =>
              if ageS < first.ageS then some 1
              else some (lastSurvival ageS first.survival (first :: rest))

/-- The age of the first step whose survival is at most a half. -/
def medianSurvivalS (curve : SurvivalCurve) : Option ℚ :=
  (curve.steps.find? fun step => step.survival ≤ 1 / 2).map SurvivalStep.ageS

end SurvivalCurve

/-! ### The estimator -/

/-- The outcomes that carry survival evidence. -/
def survivalOutcomes : List Outcome := [.confirmedHit, .missRebuilt]

/-- The age and the outcome of an observation that is evidence. -/
def SurvivalObservation.pair (obs : SurvivalObservation) : Option (ℚ × Outcome) :=
  match obs.idleAgeS with
  | none => none
  | some age => if 0 ≤ age ∧ obs.outcome ∈ survivalOutcomes then some (age, obs.outcome) else none

/-- The text of an outcome, by which outcomes compare. -/
def Outcome.value : Outcome → String
  | .confirmedHit => "confirmed_hit"
  | .missRebuilt => "miss_rebuilt"
  | .successUnverified => "success_unverified"
  | .failed => "failed"

/-- Pairs compare by age, then by outcome. -/
def PairLe (p q : ℚ × Outcome) : Prop := p.1 < q.1 ∨ p.1 = q.1 ∧ p.2.value ≤ q.2.value

instance : DecidableRel PairLe := fun p q =>
  inferInstanceAs (Decidable (p.1 < q.1 ∨ p.1 = q.1 ∧ p.2.value ≤ q.2.value))

/-- Count the deaths and the hits at an age, up to the first pair of another age. -/
def countGroup (age : ℚ) (deaths censored : ℕ) :
    List (ℚ × Outcome) → ℕ × ℕ × List (ℚ × Outcome)
  | [] => (deaths, censored, [])
  | (age', outcome) :: rest =>
      if age' = age then
        if outcome = .missRebuilt then countGroup age (deaths + 1) censored rest
        else countGroup age deaths (censored + 1) rest
      else (deaths, censored, (age', outcome) :: rest)

theorem length_countGroup_le (age : ℚ) (deaths censored : ℕ) (pairs : List (ℚ × Outcome)) :
    (countGroup age deaths censored pairs).2.2.length ≤ pairs.length := by
  induction pairs generalizing deaths censored with
  | nil => exact le_rfl
  | cons pair rest ih =>
      obtain ⟨age', outcome⟩ := pair
      unfold countGroup
      split
      · split
        · exact (ih _ _).trans (Nat.le_succ _)
        · exact (ih _ _).trans (Nat.le_succ _)
      · exact le_rfl

/-- The group of the first pair has at least that pair. -/
theorem length_countGroup_lt (age : ℚ) (outcome : Outcome) (rest : List (ℚ × Outcome)) :
    (countGroup age 0 0 ((age, outcome) :: rest)).2.2.length < ((age, outcome) :: rest).length := by
  rw [countGroup, if_pos rfl, List.length_cons, Nat.lt_succ_iff]
  split
  · exact length_countGroup_le age _ _ rest
  · exact length_countGroup_le age _ _ rest

/-- A share of a number; none of zero. -/
def share (part whole : ℤ) : Option ℚ := if whole = 0 then none else some (part / whole)

/-- The steps from the sorted pairs that are left, with how many are at risk and how much survived so far. What a
    step records of the survival is a parameter. -/
def survivalSteps (record : ℚ → ℚ) (atRisk : ℤ) (survival : ℚ) : List (ℚ × Outcome) → Option (List SurvivalStep)
  | [] => some []
  | (age, outcome) :: rest =>
      let group := countGroup age 0 0 ((age, outcome) :: rest)
      let deaths := group.1
      let censored := group.2.1
      let left := atRisk - (deaths + censored)
      if deaths ≠ 0 then
        match share deaths atRisk with
        | none => none
        | some died =>
            let survived := survival * (1 - died)
            let step : SurvivalStep := { ageS := age, survival := record survived, atRisk, events := deaths }
            (survivalSteps record left survived group.2.2).map (step :: ·)
      else survivalSteps record left survival group.2.2
  termination_by pairs => pairs.length
  decreasing_by
    · exact length_countGroup_lt age outcome rest
    · exact length_countGroup_lt age outcome rest

/-- The survival curve of a list of observations, with what is recorded of the survival as a parameter. -/
def estimateSurvivalWith (record : ℚ → ℚ) (observations : List SurvivalObservation)
    (profileKey : Option String) : Option SurvivalCurve :=
  let pairs := (observations.filterMap SurvivalObservation.pair).insertionSort PairLe
  match pairs.getLast? with
  | none => some { profileKey }
  | some last =>
      (survivalSteps record pairs.length 1 pairs).map fun steps =>
        { profileKey, steps, sampleCount := pairs.length, horizonS := some last.1 }

/-- The survival curve of a list of observations; the survival is recorded to six places. -/
def estimateSurvival (observations : List SurvivalObservation) (profileKey : Option String := none) :
    Option SurvivalCurve :=
  estimateSurvivalWith (roundPlaces 6) observations profileKey

/-- The curve of the clean stored observations with an idle age. -/
def curveFromObservations (profileKey : Option String) (observations : List StoredTTLObservation) :
    Option SurvivalCurve :=
  estimateSurvival
    ((observations.filter fun obs => obs.clean ∧ obs.idleAgeS.isSome).map fun obs =>
      { idleAgeS := obs.idleAgeS, outcome := obs.outcome })
    profileKey

end CachePilot
