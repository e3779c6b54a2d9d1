/-
Module: CachePilot.Proofs.SurvivalCurves
Layer: Proofs
Purpose: The survival estimator computes the product-limit estimate. The pairs that are left are those at risk, so the
  inner loop splits off a group of equal ages, and the steps of the outer loop are those of the group and of the older
  pairs. From the steps follow the step function, its horizon and the median.
Trusted boundary: none
Main exports: evidence, countGroup_spec, StepsOf, survivalSteps_spec, KaplanMeierCurve, kaplan_meier_correct
-/
import CachePilot.Core.Survival
import CachePilot.Lib.ProductLimit

namespace CachePilot

open ProductLimit

/-- A miss is an event at its age, a hit is only seen there. -/
def asEvent (pair : ℚ × Outcome) : ℚ × Bool := (pair.1, pair.2 = .missRebuilt)

/-- The evidence among some observations. -/
def evidence (observations : List SurvivalObservation) : List (ℚ × Bool) :=
  (observations.filterMap SurvivalObservation.pair).map asEvent

/-! ### Sorting -/

theorem outcome_value_injective {o o' : Outcome} (same : o.value = o'.value) : o = o' := by
  cases o <;> cases o' <;> first | rfl | exact absurd same (by decide)

instance : Std.Total PairLe where
  total p q := by
    rcases lt_trichotomy p.1 q.1 with less | same | more
    · exact Or.inl (Or.inl less)
    · rcases le_total p.2.value q.2.value with le | ge
      · exact Or.inl (Or.inr ⟨same, le⟩)
      · exact Or.inr (Or.inr ⟨same.symm, ge⟩)
    · exact Or.inr (Or.inl more)

instance : IsTrans (ℚ × Outcome) PairLe where
  trans p q r := by
    rintro (less | ⟨same, le⟩) (less' | ⟨same', le'⟩)
    · exact Or.inl (less.trans less')
    · exact Or.inl (less.trans_eq same')
    · exact Or.inl (same.trans_lt less')
    · exact Or.inr ⟨same.trans same', le.trans le'⟩

instance : Std.Antisymm PairLe where
  antisymm p q := by
    rintro (less | ⟨same, le⟩) (less' | ⟨same', le'⟩)
    · exact absurd less' less.asymm
    · exact absurd same' less.ne'
    · exact absurd same less'.ne'
    · exact Prod.ext same (outcome_value_injective (le_antisymm le le'))

/-- The sorted pairs are the same for every order of the observations. -/
theorem insertionSort_perm {pairs pairs' : List (ℚ × Outcome)} (same : pairs.Perm pairs') :
    pairs.insertionSort PairLe = pairs'.insertionSort PairLe := by
  apply List.Perm.eq_of_pairwise' (r := PairLe)
  · exact List.pairwise_insertionSort PairLe pairs
  · exact List.pairwise_insertionSort PairLe pairs'
  · exact (List.perm_insertionSort PairLe pairs).trans
      (same.trans (List.perm_insertionSort PairLe pairs').symm)

theorem PairLe.fst_le {p q : ℚ × Outcome} (le : PairLe p q) : p.1 ≤ q.1 := by
  rcases le with less | ⟨same, -⟩
  · exact less.le
  · exact same.le

/-! ### The inner loop -/

/-- Pairs in the order of their ages. -/
def AgesSorted (pairs : List (ℚ × Outcome)) : Prop := pairs.Pairwise fun p q => p.1 ≤ q.1

/-- The inner loop splits off the pairs of one age, and counts them. -/
theorem countGroup_spec {age : ℚ} {pairs : List (ℚ × Outcome)} (sorted : AgesSorted pairs)
    (start : ∀ p ∈ pairs, age ≤ p.1) (deaths censored : ℕ) :
    ∃ group rest, pairs = group ++ rest ∧ (∀ p ∈ group, p.1 = age) ∧ (∀ p ∈ rest, age < p.1) ∧
      (countGroup age deaths censored pairs).2.2 = rest ∧
      (countGroup age deaths censored pairs).1 = deaths + (group.map asEvent).countP (fun o => o.2) ∧
      (countGroup age deaths censored pairs).1 + (countGroup age deaths censored pairs).2.1 =
        deaths + censored + group.length := by
  induction pairs generalizing deaths censored with
  | nil => exact ⟨[], [], rfl, by simp, by simp, rfl, rfl, rfl⟩
  | cons pair rest ih =>
      obtain ⟨age', outcome⟩ := pair
      obtain ⟨first, sorted⟩ := List.pairwise_cons.1 sorted
      have later : ∀ p ∈ rest, age ≤ p.1 := fun p member => start p (List.mem_cons_of_mem _ member)
      by_cases here : age' = age
      · subst here
        have young (group : List (ℚ × Outcome)) (same : ∀ p ∈ group, p.1 = age') :
            ∀ p ∈ (age', outcome) :: group, p.1 = age' := by
          intro p member
          rcases List.mem_cons.1 member with rfl | member
          · rfl
          · exact same p member
        by_cases died : outcome = .missRebuilt
        · obtain ⟨group, left, split, same, old, remains, counted, total⟩ := ih sorted later (deaths + 1) censored
          refine ⟨(age', outcome) :: group, left, by rw [split, List.cons_append], young group same, old, ?_, ?_, ?_⟩
          · rwa [countGroup, if_pos rfl, if_pos died]
          · rw [countGroup, if_pos rfl, if_pos died, counted, List.map_cons,
              List.countP_cons_of_pos (by simp [asEvent, died])]
            omega
          · rw [countGroup, if_pos rfl, if_pos died, total, List.length_cons]
            omega
        · obtain ⟨group, left, split, same, old, remains, counted, total⟩ := ih sorted later deaths (censored + 1)
          refine ⟨(age', outcome) :: group, left, by rw [split, List.cons_append], young group same, old, ?_, ?_, ?_⟩
          · rwa [countGroup, if_pos rfl, if_neg died]
          · rw [countGroup, if_pos rfl, if_neg died, counted, List.map_cons,
              List.countP_cons_of_neg (by simp [asEvent, died])]
          · rw [countGroup, if_pos rfl, if_neg died, total, List.length_cons]
            omega
      · have older : age < age' := (start _ List.mem_cons_self).lt_of_ne' here
        refine ⟨[], (age', outcome) :: rest, rfl, by simp, ?_, ?_, ?_, ?_⟩
        · intro p member
          rcases List.mem_cons.1 member with rfl | member
          · exact older
          · exact older.trans_le (first p member)
        · rw [countGroup, if_neg here]
        · rw [countGroup, if_neg here]
          rfl
        · rw [countGroup, if_neg here]
          rfl

/-! ### The outer loop -/

/-- The steps are those of the product-limit estimate, scaled by what survived before. -/
structure StepsOf (record : ℚ → ℚ) (survived : ℚ) (obs : List (ℚ × Bool)) (steps : List SurvivalStep) : Prop where
  increasing : (steps.map SurvivalStep.ageS).Pairwise (· < ·)
  ages : ∀ a, a ∈ steps.map SurvivalStep.ageS ↔ a ∈ eventAges obs
  atRisk : ∀ s ∈ steps, s.atRisk = atRiskAt obs s.ageS
  events : ∀ s ∈ steps, s.events = eventsAt obs s.ageS
  survival : ∀ s ∈ steps, s.survival = record (survived * ProductLimit.survival ℚ obs s.ageS)

variable {record : ℚ → ℚ} {survived : ℚ} {steps : List SurvivalStep}

theorem StepsOf.perm {obs obs' : List (ℚ × Bool)} (stepsOf : StepsOf record survived obs steps)
    (same : obs.Perm obs') : StepsOf record survived obs' steps where
  increasing := stepsOf.increasing
  ages := by
    rw [← eventAges_perm same]
    exact stepsOf.ages
  atRisk := by
    intro s listed
    rw [← atRiskAt_perm same]
    exact stepsOf.atRisk s listed
  events := by
    intro s listed
    rw [← eventsAt_perm same]
    exact stepsOf.events s listed
  survival := by
    intro s listed
    rw [← survival_perm ℚ same]
    exact stepsOf.survival s listed

section Group

variable {group later : List (ℚ × Bool)} {a : ℚ} (young : ∀ o ∈ group, o.1 = a) (old : ∀ o ∈ later, a < o.1)

include old in
theorem StepsOf.older (stepsOf : StepsOf record survived later steps) : ∀ s ∈ steps, a < s.ageS := by
  intro s listed
  have event := (stepsOf.ages s.ageS).1 (List.mem_map_of_mem listed)
  exact old _ (mem_eventAges_iff.1 event)

include young old

/-- What holds of the steps of the older observations holds of them among all. -/
theorem StepsOf.group_append (stepsOf : StepsOf record (survived * factor ℚ (group ++ later) a) later steps) :
    (∀ s ∈ steps, s.atRisk = atRiskAt (group ++ later) s.ageS) ∧
      (∀ s ∈ steps, s.events = eventsAt (group ++ later) s.ageS) ∧
      ∀ s ∈ steps, s.survival = record (survived * ProductLimit.survival ℚ (group ++ later) s.ageS) := by
  refine ⟨?_, ?_, ?_⟩
  · intro s listed
    rw [atRiskAt_group_append young (stepsOf.older old s listed)]
    exact stepsOf.atRisk s listed
  · intro s listed
    rw [eventsAt_group_append young (stepsOf.older old s listed)]
    exact stepsOf.events s listed
  · intro s listed
    rw [survival_group_append young old (stepsOf.older old s listed).le, ← mul_assoc]
    exact stepsOf.survival s listed

/-- A group without deaths adds no step. -/
theorem StepsOf.of_no_deaths (none : eventsAt (group ++ later) a = 0)
    (stepsOf : StepsOf record (survived * factor ℚ (group ++ later) a) later steps) :
    StepsOf record survived (group ++ later) steps := by
  obtain ⟨atRisk, events, survival⟩ := stepsOf.group_append young old
  refine ⟨stepsOf.increasing, ?_, atRisk, events, survival⟩
  intro d
  rw [stepsOf.ages, mem_eventAges_group_append young old, none]
  simp

/-- A group with deaths adds the step of its age. -/
theorem StepsOf.of_deaths (step : SurvivalStep) (some : 0 < eventsAt (group ++ later) a) (age : step.ageS = a)
    (atRisk : step.atRisk = atRiskAt (group ++ later) a) (events : step.events = eventsAt (group ++ later) a)
    (recorded : step.survival = record (survived * factor ℚ (group ++ later) a))
    (stepsOf : StepsOf record (survived * factor ℚ (group ++ later) a) later steps) :
    StepsOf record survived (group ++ later) (step :: steps) := by
  obtain ⟨atRisks, eventss, survivals⟩ := stepsOf.group_append young old
  subst age
  have here : ProductLimit.survival ℚ (group ++ later) step.ageS = factor ℚ (group ++ later) step.ageS := by
    rw [survival_group_append young old le_rfl, survival_of_forall_lt, mul_one]
    intro d event
    exact old _ (mem_eventAges_iff.1 event)
  refine ⟨?_, ?_, ?_, ?_, ?_⟩
  · rw [List.map_cons, List.pairwise_cons]
    refine ⟨?_, stepsOf.increasing⟩
    intro d listed
    obtain ⟨s, member, rfl⟩ := List.mem_map.1 listed
    exact stepsOf.older old s member
  · intro d
    rw [List.map_cons, List.mem_cons, stepsOf.ages, mem_eventAges_group_append young old]
    simp [some]
  · exact List.forall_mem_cons.2 ⟨atRisk, atRisks⟩
  · exact List.forall_mem_cons.2 ⟨events, eventss⟩
  · rw [here.symm] at recorded
    exact List.forall_mem_cons.2 ⟨recorded, survivals⟩

end Group

/-- The inner loop on sorted pairs: it takes the events of the first age from all that are at risk, counts the
    deaths among them, and leaves those that are older. -/
theorem first_group {age : ℚ} {outcome : Outcome} {tail : List (ℚ × Outcome)}
    (sorted : AgesSorted ((age, outcome) :: tail)) :
    ∃ group rest, ((age, outcome) :: tail).map asEvent = group ++ rest.map asEvent ∧
      (∀ o ∈ group, o.1 = age) ∧ (∀ o ∈ rest.map asEvent, age < o.1) ∧ AgesSorted rest ∧
      (countGroup age 0 0 ((age, outcome) :: tail)).2.2 = rest ∧
      (countGroup age 0 0 ((age, outcome) :: tail)).1 = eventsAt (group ++ rest.map asEvent) age ∧
      atRiskAt (group ++ rest.map asEvent) age = ((age, outcome) :: tail).length ∧
      (((age, outcome) :: tail).length : ℤ) - ((countGroup age 0 0 ((age, outcome) :: tail)).1 +
        (countGroup age 0 0 ((age, outcome) :: tail)).2.1 : ℕ) = rest.length := by
  have start : ∀ p ∈ (age, outcome) :: tail, age ≤ p.1 :=
    List.forall_mem_cons.2 ⟨le_rfl, (List.pairwise_cons.1 sorted).1⟩
  obtain ⟨group, rest, split, same, older, remains, counted, total⟩ := countGroup_spec sorted start 0 0
  have young : ∀ o ∈ group.map asEvent, o.1 = age := by
    intro o member
    obtain ⟨p, listed, rfl⟩ := List.mem_map.1 member
    exact same p listed
  have old : ∀ o ∈ rest.map asEvent, age < o.1 := by
    intro o member
    obtain ⟨p, listed, rfl⟩ := List.mem_map.1 member
    exact older p listed
  have obs : ((age, outcome) :: tail).map asEvent = group.map asEvent ++ rest.map asEvent := by
    rw [split, List.map_append]
  refine ⟨group.map asEvent, rest, obs, young, old, ?_, remains, ?_, ?_, ?_⟩
  · rw [AgesSorted, split] at sorted
    exact (List.pairwise_append.1 sorted).2.1
  · rw [counted, zero_add, eventsAt_group young old]
  · rw [atRiskAt_group young old, ← obs, List.length_map]
  · have lengths := congrArg List.length split
    rw [List.length_append] at lengths
    omega

/-- From sorted pairs, all of them at risk, the loop never divides by zero and makes the steps of the estimate. -/
theorem survivalSteps_spec (record : ℚ → ℚ) (survived : ℚ) (pairs : List (ℚ × Outcome))
    (sorted : AgesSorted pairs) :
    ∃ steps, survivalSteps record pairs.length survived pairs = some steps ∧
      StepsOf record survived (pairs.map asEvent) steps := by
  match pairs with
  | [] =>
      refine ⟨[], by rw [survivalSteps], ⟨List.Pairwise.nil, ?_, by simp, by simp, by simp⟩⟩
      intro a
      simp [eventAges]
  | (age, outcome) :: tail =>
      obtain ⟨group, rest, obs, young, old, restSorted, remains, deaths, atRisk, left⟩ := first_group sorted
      have shorter : rest.length < ((age, outcome) :: tail).length := by
        rw [← remains]
        exact length_countGroup_lt age outcome tail
      obtain ⟨steps, run, stepsOf⟩ := survivalSteps_spec record
        (survived * factor ℚ (group ++ rest.map asEvent) age) rest restSorted
      rw [obs, survivalSteps]
      dsimp only
      rw [← Nat.cast_add, left, remains, deaths]
      by_cases none : eventsAt (group ++ rest.map asEvent) age = 0
      · have whole : factor ℚ (group ++ rest.map asEvent) age = 1 := by simp [factor, none]
        have run' : survivalSteps record rest.length survived rest = some steps := by
          rwa [whole, mul_one] at run
        refine ⟨steps, ?_, stepsOf.of_no_deaths young old none⟩
        rw [if_neg (not_not.2 none), run']
      · have some : 0 < eventsAt (group ++ rest.map asEvent) age := Nat.pos_of_ne_zero none
        have nonzero : (((age, outcome) :: tail).length : ℤ) ≠ 0 := by
          rw [List.length_cons]
          omega
        refine ⟨_, ?_, stepsOf.of_deaths young old
          { ageS := age
            survival := record (survived * factor ℚ (group ++ rest.map asEvent) age)
            atRisk := ((age, outcome) :: tail).length
            events := eventsAt (group ++ rest.map asEvent) age } some rfl ?_ rfl rfl⟩
        · have factored : survived * (1 - ((eventsAt (group ++ rest.map asEvent) age : ℤ) : ℚ) /
              ((((age, outcome) :: tail).length : ℤ) : ℚ)) =
                survived * factor ℚ (group ++ rest.map asEvent) age := by
            rw [factor, atRisk, Int.cast_natCast, Int.cast_natCast]
          rw [if_pos none, share, if_neg nonzero]
          dsimp only
          rw [factored, run, Option.map_some]
        · rw [atRisk]
termination_by pairs.length
decreasing_by exact shorter

/-! ### The curve of the observations -/

/-- The horizon is the oldest age of the evidence. -/
def HorizonOf (obs : List (ℚ × Bool)) (curve : SurvivalCurve) : Prop :=
  obs = [] ∧ curve.horizonS = none ∨
    ∃ last, curve.horizonS = some last ∧ (∃ o ∈ obs, o.1 = last) ∧ ∀ o ∈ obs, o.1 ≤ last

theorem evidence_perm (observations : List SurvivalObservation) :
    (((observations.filterMap SurvivalObservation.pair).insertionSort PairLe).map asEvent).Perm
      (evidence observations) :=
  (List.perm_insertionSort PairLe _).map asEvent

/-- The estimator never divides by zero, and its curve has the steps, the sample count and the horizon of the
    evidence. -/
theorem estimateSurvivalWith_spec (record : ℚ → ℚ) (observations : List SurvivalObservation)
    (profileKey : Option String) :
    ∃ curve, estimateSurvivalWith record observations profileKey = some curve ∧
      StepsOf record 1 (evidence observations) curve.steps ∧
      curve.sampleCount = (evidence observations).length ∧ HorizonOf (evidence observations) curve := by
  have same := evidence_perm observations
  have sorted := List.pairwise_insertionSort PairLe (observations.filterMap SurvivalObservation.pair)
  rw [estimateSurvivalWith]
  generalize (observations.filterMap SurvivalObservation.pair).insertionSort PairLe = pairs at same sorted
  have ages : AgesSorted pairs := sorted.imp PairLe.fst_le
  obtain ⟨steps, run, stepsOf⟩ := survivalSteps_spec record 1 pairs ages
  have count : pairs.length = (evidence observations).length := by
    rw [← same.length_eq, List.length_map]
  cases found : pairs.getLast? with
  | none =>
      rw [List.getLast?_eq_none_iff] at found
      subst found
      have none : evidence observations = [] := same.nil_eq.symm
      rw [survivalSteps, Option.some.injEq] at run
      subst run
      exact ⟨_, rfl, stepsOf.perm same, count, Or.inl ⟨none, rfl⟩⟩
  | some last =>
      obtain ⟨front, split⟩ := List.getLast?_eq_some_iff.1 found
      have greatest : ∀ p ∈ pairs, p.1 ≤ last.1 := by
        intro p member
        rw [split] at member ages
        rcases List.mem_append.1 member with earlier | here
        · exact (List.pairwise_append.1 ages).2.2 p earlier last List.mem_cons_self
        · rw [List.mem_singleton.1 here]
      refine ⟨_, by rw [run]; rfl, stepsOf.perm same, count, Or.inr ⟨last.1, rfl, ?_, ?_⟩⟩
      · have listed : last ∈ pairs := by simp [split]
        exact ⟨asEvent last, same.mem_iff.1 (List.mem_map_of_mem listed), rfl⟩
      · intro o member
        obtain ⟨p, listed, rfl⟩ := List.mem_map.1 (same.mem_iff.2 member)
        exact greatest p listed

/-- The estimator reads no more of its observations than the pairs of the evidence. -/
theorem estimateSurvivalWith_congr {record : ℚ → ℚ} {observations observations' : List SurvivalObservation}
    (same : (observations.filterMap SurvivalObservation.pair).Perm (observations'.filterMap SurvivalObservation.pair))
    (profileKey : Option String) :
    estimateSurvivalWith record observations profileKey = estimateSurvivalWith record observations' profileKey := by
  rw [estimateSurvivalWith, estimateSurvivalWith, insertionSort_perm same]

/-! ### The step function and the median -/

/-- The survival that is read at an age is that of the last step at or below it, if there is one. -/
theorem lastSurvival_cases (increasing : (steps.map SurvivalStep.ageS).Pairwise (· < ·)) (t estimate : ℚ) :
    ((∀ s ∈ steps, t < s.ageS) ∧ SurvivalCurve.lastSurvival t estimate steps = estimate) ∨
      ∃ s ∈ steps, s.ageS ≤ t ∧ (∀ s' ∈ steps, s'.ageS ≤ t → s'.ageS ≤ s.ageS) ∧
        SurvivalCurve.lastSurvival t estimate steps = s.survival := by
  induction steps generalizing estimate with
  | nil => exact Or.inl ⟨by simp, rfl⟩
  | cons step rest ih =>
      rw [List.map_cons, List.pairwise_cons] at increasing
      have first : ∀ s ∈ rest, step.ageS < s.ageS := fun s member => increasing.1 _ (List.mem_map_of_mem member)
      rw [SurvivalCurve.lastSurvival]
      by_cases early : t < step.ageS
      · rw [if_pos early]
        exact Or.inl ⟨List.forall_mem_cons.2 ⟨early, fun s member => early.trans (first s member)⟩, rfl⟩
      · rw [if_neg early]
        right
        rcases ih increasing.2 step.survival with ⟨later, here⟩ | ⟨s, member, reached, greatest, here⟩
        · refine ⟨step, List.mem_cons_self, not_lt.1 early, List.forall_mem_cons.2 ⟨fun _ => le_rfl, ?_⟩, here⟩
          intro s member reached
          exact absurd (later s member) reached.not_gt
        · exact ⟨s, List.mem_cons_of_mem _ member, reached,
            List.forall_mem_cons.2 ⟨fun _ => (first s member).le, greatest⟩, here⟩

/-- The estimate of the survival at an age is read off the steps. -/
theorem StepsOf.lastSurvival_eq {obs : List (ℚ × Bool)} (stepsOf : StepsOf record 1 obs steps) (t : ℚ) :
    SurvivalCurve.lastSurvival t (record 1) steps = record (ProductLimit.survival ℚ obs t) := by
  rcases lastSurvival_cases stepsOf.increasing t (record 1) with ⟨early, here⟩ | ⟨s, listed, reached, greatest, here⟩
  · rw [here, survival_of_forall_lt]
    intro d event
    obtain ⟨s, member, rfl⟩ := List.mem_map.1 ((stepsOf.ages d).2 event)
    exact early s member
  · rw [here, stepsOf.survival s listed, one_mul, survival_eq_of_passed ℚ reached]
    intro d event passed
    obtain ⟨s', member, rfl⟩ := List.mem_map.1 ((stepsOf.ages d).2 event)
    exact greatest s' member passed

theorem SurvivalCurve.survivalAt_of_le {curve : SurvivalCurve} {last t : ℚ} (samples : curve.sampleCount ≠ 0)
    (horizon : curve.horizonS = some last) (within : t ≤ last) :
    curve.survivalAt t = some (lastSurvival t 1 curve.steps) := by
  unfold survivalAt empty
  rw [if_neg (by simpa using samples), horizon]
  dsimp only
  rw [if_neg within.not_gt]
  cases curve.steps with
  | nil => rfl
  | cons first rest =>
      rw [lastSurvival]
      dsimp only
      by_cases early : t < first.ageS
      · rw [if_pos early, if_pos early]
      · rw [if_neg early, if_neg early, lastSurvival, if_neg early]

/-- Nothing is read exactly beyond all ages. -/
theorem survivalAt_eq_none_iff {obs : List (ℚ × Bool)} {curve : SurvivalCurve}
    (samples : curve.sampleCount = obs.length) (horizon : HorizonOf obs curve) (t : ℚ) :
    curve.survivalAt t = none ↔ ∀ o ∈ obs, o.1 < t := by
  rcases horizon with ⟨rfl, unknown⟩ | ⟨last, known, ⟨o, member, here⟩, greatest⟩
  · simp [SurvivalCurve.survivalAt, SurvivalCurve.empty, samples]
  · have some : curve.sampleCount ≠ 0 := by
      rw [samples]
      exact (List.length_pos_of_mem member).ne'
    by_cases within : t ≤ last
    · rw [SurvivalCurve.survivalAt_of_le some known within]
      refine iff_of_false (Option.some_ne_none _) ?_
      intro beyond
      exact (beyond o member).not_ge (within.trans_eq here.symm)
    · have beyond : last < t := not_le.1 within
      refine iff_of_true ?_ fun o member => (greatest o member).trans_lt beyond
      simp [SurvivalCurve.survivalAt, known, beyond]

/-- Up to the oldest age the estimate is read. -/
theorem survivalAt_eq_some {obs : List (ℚ × Bool)} {curve : SurvivalCurve} (stepsOf : StepsOf record 1 obs curve.steps)
    (whole : record 1 = 1) (samples : curve.sampleCount = obs.length) (horizon : HorizonOf obs curve) {t : ℚ}
    (within : ∃ o ∈ obs, t ≤ o.1) : curve.survivalAt t = some (record (ProductLimit.survival ℚ obs t)) := by
  obtain ⟨o, member, le⟩ := within
  rcases horizon with ⟨rfl, -⟩ | ⟨last, known, -, greatest⟩
  · exact absurd member List.not_mem_nil
  · have some : curve.sampleCount ≠ 0 := by
      rw [samples]
      exact (List.length_pos_of_mem member).ne'
    have read := stepsOf.lastSurvival_eq t
    rw [whole] at read
    rw [SurvivalCurve.survivalAt_of_le some known (le.trans (greatest o member)), read]

/-- The first step of the increasing ages with a property has the least age of them. -/
theorem find?_map_eq_some_iff {p : SurvivalStep → Bool} (increasing : (steps.map SurvivalStep.ageS).Pairwise (· < ·))
    (a : ℚ) :
    (steps.find? p).map SurvivalStep.ageS = some a ↔
      IsLeast {b | ∃ s ∈ steps, s.ageS = b ∧ p s = true} a := by
  induction steps with
  | nil => simp [IsLeast]
  | cons step rest ih =>
      rw [List.map_cons, List.pairwise_cons] at increasing
      by_cases here : p step = true
      · have least : IsLeast {b | ∃ s ∈ step :: rest, s.ageS = b ∧ p s = true} step.ageS := by
          refine ⟨⟨step, List.mem_cons_self, rfl, here⟩, ?_⟩
          rintro b ⟨s, member, rfl, -⟩
          rcases List.mem_cons.1 member with rfl | later
          · exact le_rfl
          · exact (increasing.1 _ (List.mem_map_of_mem later)).le
        rw [List.find?_cons_of_pos here, Option.map_some, Option.some.injEq]
        constructor
        · rintro rfl
          exact least
        · exact fun also => least.unique also
      · have same : {b | ∃ s ∈ step :: rest, s.ageS = b ∧ p s = true} =
            {b | ∃ s ∈ rest, s.ageS = b ∧ p s = true} := by
          ext b
          simp [here]
        rw [List.find?_cons_of_neg here, same]
        exact ih increasing.2

/-! ### The product-limit curve -/

/-- The curve of some observations, as the product-limit estimate defines it, with what is recorded of the
    survival. -/
structure KaplanMeierCurve (record : ℚ → ℚ) (obs : List (ℚ × Bool)) (curve : SurvivalCurve) : Prop where
  increasing : (curve.steps.map SurvivalStep.ageS).Pairwise (· < ·)
  ages : ∀ a, a ∈ curve.steps.map SurvivalStep.ageS ↔ a ∈ eventAges obs
  counts : ∀ s ∈ curve.steps, s.atRisk = atRiskAt obs s.ageS ∧ s.events = eventsAt obs s.ageS ∧
    1 ≤ s.events ∧ s.events ≤ s.atRisk
  survival : ∀ s ∈ curve.steps, s.survival = record (ProductLimit.survival ℚ obs s.ageS)
  bounds : ∀ s ∈ curve.steps, 0 ≤ s.survival ∧ s.survival ≤ 1
  falling : (curve.steps.map SurvivalStep.survival).Pairwise (· ≥ ·)
  beyond : ∀ t, curve.survivalAt t = none ↔ ∀ o ∈ obs, o.1 < t
  before : ∀ t, (∃ o ∈ obs, t ≤ o.1) → (∀ s ∈ curve.steps, t < s.ageS) → curve.survivalAt t = some 1
  between : ∀ t, (∃ o ∈ obs, t ≤ o.1) → ∀ s ∈ curve.steps, s.ageS ≤ t →
    (∀ s' ∈ curve.steps, s'.ageS ≤ t → s'.ageS ≤ s.ageS) → curve.survivalAt t = some s.survival
  median : ∀ a, curve.medianSurvivalS = some a ↔
    IsLeast {d | ∃ s ∈ curve.steps, s.ageS = d ∧ s.survival ≤ 1 / 2} a

theorem kaplanMeierCurve_of_stepsOf {obs : List (ℚ × Bool)} {curve : SurvivalCurve}
    (stepsOf : StepsOf record 1 obs curve.steps) (monotone : Monotone record) (nothing : record 0 = 0)
    (whole : record 1 = 1) (samples : curve.sampleCount = obs.length) (horizon : HorizonOf obs curve) :
    KaplanMeierCurve record obs curve where
  increasing := stepsOf.increasing
  ages := stepsOf.ages
  counts := by
    intro s listed
    have some := eventsAt_pos_iff.2 ((stepsOf.ages s.ageS).1 (List.mem_map_of_mem listed))
    have atRisk := eventsAt_le_atRiskAt obs s.ageS
    have total := stepsOf.atRisk s listed
    have events := stepsOf.events s listed
    refine ⟨total, events, ?_, ?_⟩
    · omega
    · omega
  survival := by
    intro s listed
    rw [stepsOf.survival s listed, one_mul]
  bounds := by
    intro s listed
    obtain ⟨nonneg, le_one⟩ := @survival_mem_Icc _ _ ℚ _ obs _ _ s.ageS
    rw [stepsOf.survival s listed, one_mul]
    exact ⟨nothing.symm.trans_le (monotone nonneg), (monotone le_one).trans_eq whole⟩
  falling := by
    have increasing := stepsOf.increasing
    rw [List.pairwise_map] at increasing ⊢
    refine increasing.imp_of_mem ?_
    intro s s' listed listed' less
    rw [stepsOf.survival s listed, stepsOf.survival s' listed', one_mul, one_mul]
    exact monotone (survival_antitone less.le)
  beyond := survivalAt_eq_none_iff samples horizon
  before := by
    intro t within early
    rw [survivalAt_eq_some stepsOf whole samples horizon within, survival_of_forall_lt, whole]
    intro d event
    obtain ⟨s, member, rfl⟩ := List.mem_map.1 ((stepsOf.ages d).2 event)
    exact early s member
  between := by
    intro t within s listed reached greatest
    rw [survivalAt_eq_some stepsOf whole samples horizon within, stepsOf.survival s listed, one_mul,
      survival_eq_of_passed ℚ reached]
    intro d event passed
    obtain ⟨s', member, rfl⟩ := List.mem_map.1 ((stepsOf.ages d).2 event)
    exact greatest s' member passed
  median := by
    intro a
    rw [SurvivalCurve.medianSurvivalS, find?_map_eq_some_iff stepsOf.increasing]
    simp

/-- The estimator computes the product-limit estimate of its observations: it never divides by zero, records the
    estimate to six places and would without rounding record the estimate itself; the order of the observations
    makes no difference, nor do those that are no evidence. -/
theorem kaplan_meier_correct (observations : List SurvivalObservation) (profileKey : Option String) :
    (∃ curve, estimateSurvival observations profileKey = some curve ∧
      KaplanMeierCurve (roundPlaces 6) (evidence observations) curve) ∧
    (∃ curve, estimateSurvivalWith id observations profileKey = some curve ∧
      KaplanMeierCurve id (evidence observations) curve) ∧
    (∀ observations', observations.Perm observations' →
      estimateSurvival observations' profileKey = estimateSurvival observations profileKey) ∧
    ∀ obs : SurvivalObservation, (obs.idleAgeS = none ∨ (∃ age, obs.idleAgeS = some age ∧ age < 0) ∨
        obs.outcome ∉ survivalOutcomes) →
      estimateSurvival (obs :: observations) profileKey = estimateSurvival observations profileKey := by
  refine ⟨?_, ?_, ?_, ?_⟩
  · obtain ⟨curve, run, stepsOf, samples, horizon⟩ :=
      estimateSurvivalWith_spec (roundPlaces 6) observations profileKey
    exact ⟨curve, run, kaplanMeierCurve_of_stepsOf stepsOf (roundPlaces_mono 6) (roundPlaces_zero 6)
      (roundPlaces_one 6) samples horizon⟩
  · obtain ⟨curve, run, stepsOf, samples, horizon⟩ := estimateSurvivalWith_spec id observations profileKey
    exact ⟨curve, run, kaplanMeierCurve_of_stepsOf stepsOf monotone_id rfl rfl samples horizon⟩
  · intro observations' same
    exact (estimateSurvivalWith_congr (same.filterMap _) profileKey).symm
  · intro obs ignored
    have none : obs.pair = none := by
      unfold SurvivalObservation.pair
      rcases ignored with unknown | ⟨age, known, negative⟩ | other
      · rw [unknown]
      · rw [known]
        exact if_neg fun evident => negative.not_ge evident.1
      · cases obs.idleAgeS with
        | none => rfl
        | some age => exact if_neg fun evident => other evident.2
    apply estimateSurvivalWith_congr
    rw [List.filterMap_cons_none none]

end CachePilot
