/-
Module: CachePilot.Proofs.RefoldedProfiles
Layer: Proofs
Purpose: A profile is a view of the observations. The clean rows that the store returns for a route, folded again from
  nothing, give the bounds and the sample count that are kept in the profile of the route; and the survival curve that
  is drawn from the same rows counts the same samples, starts to fall at the upper bound and nowhere before it.
Trusted boundary: none
Main exports: NamedRoute, NamedRoute.profileKey_eq_iff, StoredTTLObservation.cleanOn, TtlStore.evidenceOf, Refolds,
  refolds_learn, Mirrors.cleanObservationsForProfile, profiles_refold
-/
import CachePilot.Proofs.LearnedTables
import CachePilot.Proofs.ProfileSeparation
import CachePilot.Proofs.SurvivalCurves

namespace CachePilot

open SqlTable ProductLimit

/-! ### Routes -/

/-- A route as the relay names it, with no empty name in it. -/
structure NamedRoute extends RouteKey where
  provider_ne : provider ≠ ""
  model_ne : model ≠ ""
  endpointHash_ne : endpointHash ≠ ""
  routeHash_ne : routeHash ≠ some ""

namespace NamedRoute

theorem apiMode_ne (r : NamedRoute) : r.apiMode ≠ "" := by
  obtain ⟨mode, known⟩ := r.apiMode_known
  rw [known]
  exact mode.value_ne_empty

/-- Without empty route hashes the same route is an equal one. -/
theorem sameRoute_iff (r q : NamedRoute) :
    r.toRouteContext.SameRoute q.toRouteContext ↔ r.toRouteContext = q.toRouteContext := by
  obtain ⟨⟨⟨provider, model, apiMode, endpointHash, route⟩, -⟩, -, -, -, plain⟩ := r
  obtain ⟨⟨⟨provider', model', apiMode', endpointHash', route'⟩, -⟩, -, -, -, plain'⟩ := q
  have routes : route.getD "" = route'.getD "" ↔ route = route' := by
    cases route with
    | none =>
        cases route' with
        | none => exact iff_of_true rfl rfl
        | some hash => exact iff_of_false (fun same => plain' (congrArg some same.symm)) (Option.some_ne_none hash).symm
    | some hash =>
        cases route' with
        | none => exact iff_of_false (fun same => plain (congrArg some same)) (Option.some_ne_none hash)
        | some hash' => exact (Option.some.injEq hash hash').symm.to_iff
  rw [RouteContext.SameRoute, RouteContext.mk.injEq, routes]

/-- Two routes have one key when they are equal. -/
theorem profileKey_eq_iff (r q : NamedRoute) :
    r.toRouteContext.profileKey = q.toRouteContext.profileKey ↔ r.toRouteContext = q.toRouteContext :=
  (RouteKey.profileKey_eq_iff r.toRouteKey q.toRouteKey).trans (r.sameRoute_iff q)

end NamedRoute

/-- The columns that identify the route of an observation. -/
def TTLObservation.context (endpointHash : String → String) (obs : TTLObservation) : RouteContext where
  provider := obs.provider
  model := obs.model
  apiMode := obs.apiMode
  endpointHash := endpointHash obs.endpoint
  routeHash := obs.routeHash

/-- The observation was made on a route that the relay names. -/
def TTLObservation.Routed (endpointHash : String → String) (obs : TTLObservation) : Prop :=
  ∃ r : NamedRoute, r.toRouteContext = obs.context endpointHash

theorem TTLObservation.Routed.named {endpointHash : String → String} {obs : TTLObservation}
    (routed : obs.Routed endpointHash) : obs.Named := by
  obtain ⟨r, same⟩ := routed
  have provider : r.provider = obs.provider := congrArg RouteContext.provider same
  have model : r.model = obs.model := congrArg RouteContext.model same
  have apiMode : r.apiMode = obs.apiMode := congrArg RouteContext.apiMode same
  exact ⟨provider ▸ r.provider_ne, model ▸ r.model_ne, apiMode ▸ r.apiMode_ne⟩

/-! ### Evidence of a route -/

/-- The row is a clean one of the route. -/
def StoredTTLObservation.cleanOn (row : StoredTTLObservation) (context : RouteContext) : Bool :=
  row.clean && decide (row.provider = context.provider ∧ row.model = context.model ∧ row.apiMode = context.apiMode ∧
    row.endpointHash = context.endpointHash ∧ row.routeHash = context.routeHash)

/-- The evidence in the clean rows of a route, in their order. -/
def TtlStore.evidenceOf (s : TtlStore) (context : RouteContext) : List (ThresholdBounds.Evidence ℚ) :=
  (s.observations.filter fun row => row.cleanOn context).filterMap fun row =>
    TTLProfile.evidence row.outcome row.idleAgeS

/-- What a list of evidence teaches: the bounds, and how many samples there were. -/
def taughtBy (evidence : List (ThresholdBounds.Evidence ℚ)) : ThresholdBounds ℚ × ℕ :=
  (evidence.foldl ThresholdBounds.narrow {}, evidence.length)

/-- More evidence narrows the bounds and is counted. -/
theorem taughtBy_append (evidence : List (ThresholdBounds.Evidence ℚ)) (more : Option (ThresholdBounds.Evidence ℚ)) :
    taughtBy (evidence ++ more.toList) =
      more.elim (taughtBy evidence) fun e => ((taughtBy evidence).1.narrow e, (taughtBy evidence).2 + 1) := by
  cases more with
  | none => rw [Option.toList_none, List.append_nil, Option.elim_none]
  | some e =>
      rw [Option.toList_some, Option.elim_some, taughtBy, List.foldl_append, List.length_append]
      rfl

variable {endpointHash : String → String} {s : TtlStore} {obs : TTLObservation}

theorem cleanOn_learnedRow_iff (context : RouteContext) :
    (s.learnedRow endpointHash obs).cleanOn context = true ↔
      (s.cleanAge obs).isSome = true ∧ obs.context endpointHash = context := by
  rw [StoredTTLObservation.cleanOn, Bool.and_eq_true, decide_eq_true_iff]
  refine and_congr Iff.rfl ?_
  rw [TTLObservation.context, RouteContext.mk.injEq]
  rfl

/-- One observation adds the evidence of its clean age to that of its own route. -/
theorem evidenceOf_learn (context : RouteContext) :
    (s.learn endpointHash obs).1.evidenceOf context =
      s.evidenceOf context ++
        (if obs.context endpointHash = context then TTLProfile.evidence obs.outcome (s.cleanAge obs)
          else none).toList := by
  rw [TtlStore.evidenceOf, TtlStore.observations_learn, List.filter_append, List.filterMap_append,
    TtlStore.evidenceOf]
  refine congrArg _ ?_
  by_cases clean : (s.learnedRow endpointHash obs).cleanOn context = true
  · obtain ⟨aged, own⟩ := (cleanOn_learnedRow_iff context).mp clean
    obtain ⟨age, known⟩ := Option.isSome_iff_exists.mp aged
    have row : (s.learnedRow endpointHash obs).idleAgeS = s.cleanAge obs := by
      rw [known]
      exact TtlStore.idleAge_of_cleanAge known
    have outcome : (s.learnedRow endpointHash obs).outcome = obs.outcome := rfl
    rw [List.filter_singleton, clean, cond_true, if_pos own, List.filterMap_cons, row, outcome]
    cases TTLProfile.evidence obs.outcome (s.cleanAge obs) <;> rfl
  · rw [List.filter_singleton, eq_false_of_ne_true clean, cond_false]
    by_cases own : obs.context endpointHash = context
    · have unclean : s.cleanAge obs = none := by
        rw [← Option.not_isSome_iff_eq_none]
        exact fun aged => clean ((cleanOn_learnedRow_iff context).mpr ⟨aged, own⟩)
      rw [if_pos own, unclean, TtlStore.evidence_none]
      rfl
    · rw [if_neg own]
      rfl

/-! ### The view -/

/-- What is kept of every route is what its clean rows teach, and every profile is that of such a route. -/
structure Refolds (s : TtlStore) : Prop where
  keyed : s.WellKeyed
  routes : ∀ key, ∀ p ∈ s.profileFor key, ∃ r : NamedRoute, r.toRouteContext = p.toRouteContext
  taught : ∀ r : NamedRoute, s.learned r.toRouteContext.profileKey = taughtBy (s.evidenceOf r.toRouteContext)

theorem refolds_empty : Refolds {} where
  keyed _ _ found := (Option.not_mem_none _ found).elim
  routes _ _ found := (Option.not_mem_none _ found).elim
  taught _ := rfl

/-- What the learner writes is a profile of the route of the observation, or the kept one moved on. -/
theorem context_rewritten {q : TTLProfile} (writes : s.rewritten endpointHash obs = some q) :
    q.toRouteContext = obs.context endpointHash ∨
      ∃ old ∈ s.profileFor (obs.profileKey endpointHash), old.toRouteContext = q.toRouteContext := by
  unfold TtlStore.rewritten at writes
  cases clean : s.cleanAge obs with
  | some age =>
      rw [clean] at writes
      obtain ⟨p, refines, rfl⟩ := Option.map_eq_some_iff.mp writes
      have same : (p.observe obs.outcome (some age)).toRouteContext = p.toRouteContext :=
        p.toRouteContext_observe obs.outcome (some age)
      unfold TtlStore.refinable TTLObservation.freshProfile at refines
      cases known : s.profileFor (obs.profileKey endpointHash) with
      | some old =>
          rw [known] at refines
          cases refines
          exact Or.inr ⟨p, rfl, same.symm⟩
      | none =>
          rw [known] at refines
          split at refines
          · cases refines
          · cases refines
            exact Or.inl same
  | none =>
      rw [clean] at writes
      dsimp only at writes
      split at writes
      · obtain ⟨p, known, rfl⟩ := Option.map_eq_some_iff.mp writes
        exact Or.inr ⟨p, known, rfl⟩
      · cases writes

/-- An observation on a named route keeps the view. -/
theorem refolds_learn (refolds : Refolds s) (routed : obs.Routed endpointHash) :
    Refolds (s.learn endpointHash obs).1 where
  keyed := TtlStore.wellKeyed_learn refolds.keyed
  routes := by
    intro key p found
    rw [TtlStore.profileFor_learn refolds.keyed] at found
    split at found
    · cases writes : s.rewritten endpointHash obs with
      | none =>
          rw [writes, Option.none_or] at found
          exact refolds.routes _ p found
      | some q =>
          rw [writes] at found
          cases found
          rcases context_rewritten writes with own | ⟨old, known, moved⟩
          · obtain ⟨r, same⟩ := routed
            exact ⟨r, same.trans own.symm⟩
          · obtain ⟨r, same⟩ := refolds.routes _ old known
            exact ⟨r, same.trans moved⟩
    · exact refolds.routes key p found
  taught := by
    intro r
    obtain ⟨q, same⟩ := routed
    have key : r.toRouteContext.profileKey = obs.profileKey endpointHash ↔
        obs.context endpointHash = r.toRouteContext := by
      have own : obs.profileKey endpointHash = q.toRouteContext.profileKey := by
        rw [same]
        rfl
      rw [own, NamedRoute.profileKey_eq_iff, eq_comm, same]
    rw [TtlStore.learned_learn refolds.keyed, evidenceOf_learn, taughtBy_append, refolds.taught]
    by_cases own : obs.context endpointHash = r.toRouteContext
    · obtain ⟨p, refines⟩ := s.refinable_of_named endpointHash (TTLObservation.Routed.named ⟨q, same⟩)
      have fed : s.cleanEvidence endpointHash obs = TTLProfile.evidence obs.outcome (s.cleanAge obs) := by
        rw [TtlStore.cleanEvidence, refines, Option.bind_some]
      rw [if_pos (key.mpr own), if_pos own, fed]
    · rw [if_neg fun here => own (key.mp here), if_neg own, Option.elim_none]

/-- After a history of observations on named routes, with any churn in between, the profiles are a view of the rows. -/
theorem refolds_ofHistory {events : List TtlEvent}
    (routed : ∀ obs ∈ observationsOf events, obs.Routed endpointHash) : Refolds (.ofHistory endpointHash events) := by
  induction events using List.reverseRecOn with
  | nil => exact refolds_empty
  | append_singleton events event ih =>
      rw [observationsOf, List.filterMap_append] at routed
      have refolds := ih fun obs seen => routed obs (List.mem_append_left _ seen)
      rw [TtlStore.ofHistory, List.foldl_append]
      cases event with
      | observed obs => exact refolds_learn refolds (routed obs (List.mem_append_right _ List.mem_cons_self))
      | churned churn => exact ⟨refolds.keyed, refolds.routes, refolds.taught⟩

/-! ### The rows of the tables -/

/-- The record is a clean one that is attributed to the route. -/
def TtlObservationRecord.cleanOn (obs : TtlObservationRecord) (context : RouteContext) : Bool :=
  obs.clean && decide (obs.provider = some context.provider) && decide (obs.model = some context.model) &&
    decide (obs.apiMode = some context.apiMode) && decide (obs.endpointHash = some context.endpointHash) &&
    decide (obs.routeHash = context.routeHash)

theorem ofText_eq_ofText_iff (a b : Option String) : SqlValue.ofText a = .ofText b ↔ a = b := by
  cases a <;> cases b <;> simp [SqlValue.ofText]

/-- The condition of the query says of a row what is asked of its record. -/
theorem rowOfProfile_row (context : RouteContext) (id : ℕ) (obs : TtlObservationRecord) :
    TelemetryStore.rowOfProfile context (insertedRow id ttlObservationInsertColumns (ttlObservationValues obs)) =
      obs.cleanOn context := by
  have flag : ∀ value : Bool, decide (SqlValue.ofFlag value = .integer 1) = value := by decide
  simp [TelemetryStore.rowOfProfile, TtlObservationRecord.cleanOn, insertedRow, ttlObservationInsertColumns,
    ttlObservationValues, SqlRow.column, List.lookup_cons, ofText_eq_text_iff, ofText_eq_ofText_iff, flag]

/-- With no empty name in the route, a record is attributed to it exactly when it is on the lists. -/
theorem cleanOn_asObservation (r : NamedRoute) (obs : TtlObservationRecord) :
    obs.asObservation.cleanOn r.toRouteContext = obs.cleanOn r.toRouteContext := by
  have named : ∀ (text : Option String) {name : String}, name ≠ "" → (text.getD "" = name ↔ text = some name) := by
    intro text name plain
    cases text with
    | none => exact iff_of_false (fun same => plain same.symm) (Option.some_ne_none name).symm
    | some text => exact (Option.some.injEq text name).symm.to_iff
  rw [StoredTTLObservation.cleanOn, TtlObservationRecord.cleanOn, Bool.eq_iff_iff]
  simp only [TtlObservationRecord.asObservation, Bool.and_eq_true, decide_eq_true_iff, named _ r.provider_ne,
    named _ r.model_ne, named _ r.apiMode_ne, named _ r.endpointHash_ne, and_assoc]

section Tables

variable {texts : StorageTexts} {writes : List StoreWrite} {store : TelemetryStore}

/-- The clean rows of a route are those of the lists. -/
theorem Mirrors.cleanObservationsForProfile (mirrors : Mirrors texts writes store s) (r : NamedRoute) :
    ∃ rows, store.cleanObservationsForProfile r.toRouteContext = some rows ∧
      (rows.map fun row => row.toTtlObservationRecord.asObservation) =
        s.observations.filter fun row => row.cleanOn r.toRouteContext := by
  have read := mirrors.holding.ttlObservations.read_filter
    (fun row => rowToTtlObservation (row.select ttlObservationColumns))
    (fun row => row.toTtlObservationRecord.asObservation) TtlObservationRecord.asObservation
    (fun id obs => ⟨obs, id⟩) (fun id obs => rowToTtlObservation_inserted id obs) (fun _ _ => rfl)
    (rowOfProfile_row r.toRouteContext)
  obtain ⟨rows, found, same⟩ := Option.map_eq_some_iff.mp read
  refine ⟨rows, found, same.trans ?_⟩
  rw [mirrors.observations, List.filter_map]
  refine congrArg _ (List.filter_congr fun obs _ => ?_)
  exact (cleanOn_asObservation r obs).symm

end Tables

/-! ### The curve -/

/-- A hit is seen alive at its age, a miss is a death there. -/
def asSeen : ThresholdBounds.Evidence ℚ → ℚ × Bool
  | .above age => (age, false)
  | .upTo age => (age, true)

/-- The estimator and the learner take the same evidence from an observation. -/
theorem pair_asEvent (outcome : Outcome) (idleAgeS : Option ℚ) :
    (SurvivalObservation.pair { idleAgeS, outcome }).map asEvent =
      (TTLProfile.evidence outcome idleAgeS).map asSeen := by
  cases idleAgeS with
  | none => cases outcome <;> rfl
  | some age =>
      by_cases usable : 0 ≤ age
      · cases outcome <;>
          simp [SurvivalObservation.pair, TTLProfile.evidence, survivalOutcomes, usable, asEvent, asSeen]
      · cases outcome <;> simp [SurvivalObservation.pair, TTLProfile.evidence, usable]

/-- The evidence that the curve of clean rows is drawn from. -/
theorem evidence_of_clean {rows : List StoredTTLObservation} (clean : ∀ row ∈ rows, row.clean = true) :
    evidence ((rows.filter fun obs => obs.clean ∧ obs.idleAgeS.isSome).map fun obs =>
        { idleAgeS := obs.idleAgeS, outcome := obs.outcome }) =
      (rows.filterMap fun row => TTLProfile.evidence row.outcome row.idleAgeS).map asSeen := by
  rw [evidence, List.filterMap_map]
  induction rows with
  | nil => rfl
  | cons row rest ih =>
      obtain ⟨cleanRow, cleanRest⟩ := List.forall_mem_cons.mp clean
      have later := ih cleanRest
      have each := pair_asEvent row.outcome row.idleAgeS
      cases aged : row.idleAgeS with
      | none =>
          have nothing : TTLProfile.evidence row.outcome row.idleAgeS = none := by rw [aged, TtlStore.evidence_none]
          rw [List.filter_cons_of_neg (by simp [aged]), List.filterMap_cons, nothing]
          exact later
      | some age =>
          rw [List.filter_cons_of_pos (by simp [aged, cleanRow]), List.filterMap_cons, List.filterMap_cons]
          dsimp only [Function.comp_apply]
          cases fed : TTLProfile.evidence row.outcome row.idleAgeS with
          | none =>
              rw [fed, Option.map_none, Option.map_eq_none_iff] at each
              rw [each]
              exact later
          | some e =>
              rw [fed, Option.map_some] at each
              obtain ⟨pair, known, same⟩ := Option.map_eq_some_iff.mp each
              rw [known]
              dsimp only
              rw [List.map_cons, List.map_cons, later, same]

theorem mem_map_asSeen_iff {evidence : List (ThresholdBounds.Evidence ℚ)} {age : ℚ} :
    (age, true) ∈ evidence.map asSeen ↔ .upTo age ∈ evidence := by
  rw [List.mem_map]
  constructor
  · rintro ⟨e, listed, same⟩
    cases e with
    | above value => cases same
    | upTo value =>
        cases same
        exact listed
  · exact fun listed => ⟨_, listed, rfl⟩

/-- The curve of some evidence counts all of it, first falls where the least cap lies, and is whole before. -/
theorem curve_of_evidence {seen : List (ThresholdBounds.Evidence ℚ)} {curve : SurvivalCurve} {record : ℚ → ℚ}
    (whole : record 1 = 1) (stepsOf : StepsOf record 1 (seen.map asSeen) curve.steps)
    (samples : curve.sampleCount = (seen.map asSeen).length) (horizon : HorizonOf (seen.map asSeen) curve) :
    curve.sampleCount = (taughtBy seen).2 ∧ curve.steps.head?.map SurvivalStep.ageS = (taughtBy seen).1.upper ∧
      ∀ last ∈ curve.horizonS, ∀ age ≤ last, (∀ upper ∈ (taughtBy seen).1.upper, age < upper) →
        curve.survivalAt age = some 1 := by
  have ages : ∀ age, age ∈ curve.steps.map SurvivalStep.ageS ↔ .upTo age ∈ seen := fun age =>
    (stepsOf.ages age).trans (mem_eventAges_iff.trans mem_map_asSeen_iff)
  refine ⟨samples.trans (List.length_map _), ?_, fun last known age within early => ?_⟩
  · have increasing := stepsOf.increasing
    cases shape : curve.steps with
    | nil =>
        rw [shape] at ages
        have uncapped : (taughtBy seen).1.upper = none := by
          refine (ThresholdBounds.upper_foldl_narrow_eq_none_iff seen {}).mpr ⟨rfl, fun value listed => ?_⟩
          exact List.not_mem_nil ((ages value).mpr listed)
        rw [uncapped]
        rfl
    | cons first rest =>
        rw [shape] at ages increasing
        rw [List.map_cons, List.pairwise_cons] at increasing
        refine ((ThresholdBounds.upper_foldl_narrow_eq_some_iff seen).mpr ⟨?_, fun value listed => ?_⟩).symm
        · exact (ages first.ageS).mp List.mem_cons_self
        · rcases List.mem_cons.mp ((ages value).mpr listed) with same | later
          · exact same.ge
          · exact (increasing.1 value later).le
  · have reached : ∃ o ∈ seen.map asSeen, age ≤ o.1 := by
      rcases horizon with ⟨-, unknown⟩ | ⟨oldest, here, ⟨o, listed, same⟩, -⟩
      · exact absurd (unknown.symm.trans known) (Option.some_ne_none last).symm
      · cases here.symm.trans known
        exact ⟨o, listed, within.trans_eq same.symm⟩
    rw [survivalAt_eq_some stepsOf whole samples horizon reached, ProductLimit.survival_of_forall_lt, whole]
    intro death event
    have capped : .upTo death ∈ seen := mem_map_asSeen_iff.mp (mem_eventAges_iff.mp event)
    cases known : (taughtBy seen).1.upper with
    | none => exact absurd capped (((ThresholdBounds.upper_foldl_narrow_eq_none_iff seen {}).mp known).2 death)
    | some upper =>
        have least := (ThresholdBounds.upper_foldl_narrow_eq_some_iff seen).mp known
        exact (early upper known).trans_le (least.2 capped)

/-- A profile is a view of the observations. After anything that a relay does on routes that it names, the clean rows of
    a route, folded from nothing, give the bounds and the sample count that are kept of it. The curve that is drawn
    from the rows of a kept profile counts the same samples, has its first step at the upper bound, and is whole at
    every age before it. -/
theorem profiles_refold (texts : StorageTexts) (endpointHash : String → String) (actions : List TableAction)
    (routed : ∀ obs, .learned obs ∈ actions → ∃ r : NamedRoute, r.toRouteContext = obs.context endpointHash) :
    ∃ store, Execution.exec (tableStep texts endpointHash) {} actions = some store ∧
      ∀ r : NamedRoute, ∃ rows kept,
        store.cleanObservationsForProfile r.toRouteContext = some rows ∧
        store.profileFor r.toRouteContext.profileKey = some kept ∧
        (kept.map fun p => (p.asProfile.bounds, p.sampleCount)).getD ({}, 0) =
          taughtBy (rows.filterMap fun row => TTLProfile.evidence row.outcome row.idleAgeS) ∧
        ∀ p ∈ kept, p.toRouteContext = r.toRouteContext ∧
          ∃ curve, curveFromProfile store p = some curve ∧ curve.sampleCount = p.sampleCount ∧
            curve.steps.head?.map SurvivalStep.ageS = p.upperBoundS ∧
            ∀ last ∈ curve.horizonS, ∀ age ≤ last, (∀ upper ∈ p.upperBoundS, age < upper) →
              curve.survivalAt age = some 1 := by
  obtain ⟨store, writes, run, mirrors⟩ := actions_mirror texts endpointHash actions
  have refolds : Refolds (TtlStore.ofActions endpointHash actions) := by
    refine refolds_ofHistory fun obs seen => ?_
    obtain ⟨event, member, observed⟩ := List.mem_filterMap.mp seen
    obtain ⟨action, acted, shape⟩ := List.mem_filterMap.mp member
    cases action with
    | learned outcome =>
        cases shape
        cases observed
        exact routed outcome acted
    | churned churn =>
        cases shape
        cases observed
    | request event => cases shape
    | lease lease now => cases shape
    | routed event => cases shape
  refine ⟨store, run, fun r => ?_⟩
  obtain ⟨rows, clean, onLists⟩ := mirrors.cleanObservationsForProfile r
  obtain ⟨kept, read, above⟩ := mirrors.profileFor r.toRouteContext.profileKey
  have seen : (rows.filterMap fun row => TTLProfile.evidence row.outcome row.idleAgeS) =
      (TtlStore.ofActions endpointHash actions).evidenceOf r.toRouteContext := by
    rw [TtlStore.evidenceOf, ← onLists, List.filterMap_map]
    rfl
  have taught := refolds.taught r
  rw [TtlStore.learned, above, Option.map_map, ← seen] at taught
  refine ⟨rows, kept, clean, read, taught, fun p known => ?_⟩
  have found : p.asProfile ∈ (TtlStore.ofActions endpointHash actions).profileFor r.toRouteContext.profileKey := by
    rw [above]
    exact Option.mem_map_of_mem _ known
  obtain ⟨q, same⟩ := refolds.routes _ p.asProfile found
  have own : p.toRouteContext = r.toRouteContext := by
    have key : q.toRouteContext.profileKey = r.toRouteContext.profileKey := by
      rw [same]
      exact refolds.keyed _ p.asProfile found
    exact same.symm.trans ((q.profileKey_eq_iff r).mp key)
  refine ⟨own, ?_⟩
  have allClean : ∀ row ∈ rows.map fun row => row.toTtlObservationRecord.asObservation, row.clean = true := by
    intro row listed
    rw [onLists] at listed
    exact (Bool.and_eq_true_iff.mp (List.mem_filter.mp listed).2).1
  obtain ⟨curve, drawn, stepsOf, samples, horizon⟩ := estimateSurvivalWith_spec (roundPlaces 6) _ (some p.profileKey)
  have fed : evidence (((rows.map fun row => row.toTtlObservationRecord.asObservation).filter fun obs =>
      obs.clean ∧ obs.idleAgeS.isSome).map fun obs => { idleAgeS := obs.idleAgeS, outcome := obs.outcome }) =
        (rows.filterMap fun row => TTLProfile.evidence row.outcome row.idleAgeS).map asSeen := by
    rw [evidence_of_clean allClean, List.filterMap_map]
    rfl
  rw [fed] at stepsOf samples horizon
  have counts := curve_of_evidence (roundPlaces_one 6) stepsOf samples horizon
  rw [← taught, known] at counts
  refine ⟨curve, ?_, counts⟩
  rw [curveFromProfile, own, clean]
  exact drawn

/-- Five minutes later. -/
def sampleLaterParts : TimeParts := { sampleParts with minute := sampleParts.minute + 5 }

theorem sampleLaterParts_valid : sampleLaterParts.Valid := by decide

/-- A request on a route with a bar in its model. -/
def sampleRouted (outcome : Outcome) (timestamp : UtcTime) : ObservedOutcome where
  outcome
  cacheFingerprint := "c"
  routeHash := some "ef"
  provider := "openrouter"
  model := "a|b"
  apiMode := "chat"
  endpoint := "https://openrouter.ai"
  timestamp

theorem sampleRouted_named (outcome : Outcome) (timestamp : UtcTime) :
    ∃ r : NamedRoute, r.toRouteContext = (sampleRouted outcome timestamp).context fun _ => "ab" := by
  have plain : '|' ∉ "openrouter".toList := by decide
  have endpoint : hexText "ab" = true := by decide
  have route : ∀ hash ∈ some "ef", hexText hash = true := by decide
  have named : "openrouter" ≠ "" ∧ "a|b" ≠ "" ∧ "ab" ≠ "" ∧ some "ef" ≠ some "" := by decide
  exact ⟨⟨⟨_, plain, ⟨.chat, rfl⟩, endpoint, route⟩, named.1, named.2.1, named.2.2.1, named.2.2.2⟩, rfl⟩

theorem profiles_refold_sample :
    ∃ store, Execution.exec (tableStep sampleStorageTexts fun _ => "ab") {}
        [.learned (sampleRouted .missRebuilt sampleTime),
          .learned (sampleRouted .confirmedHit ⟨sampleLaterParts, sampleLaterParts_valid⟩)] = some store ∧
      ∀ r : NamedRoute, ∃ rows kept,
        store.cleanObservationsForProfile r.toRouteContext = some rows ∧
        store.profileFor r.toRouteContext.profileKey = some kept ∧
        (kept.map fun p => (p.asProfile.bounds, p.sampleCount)).getD ({}, 0) =
          taughtBy (rows.filterMap fun row => TTLProfile.evidence row.outcome row.idleAgeS) ∧
        ∀ p ∈ kept, p.toRouteContext = r.toRouteContext ∧
          ∃ curve, curveFromProfile store p = some curve ∧ curve.sampleCount = p.sampleCount ∧
            curve.steps.head?.map SurvivalStep.ageS = p.upperBoundS ∧
            ∀ last ∈ curve.horizonS, ∀ age ≤ last, (∀ upper ∈ p.upperBoundS, age < upper) →
              curve.survivalAt age = some 1 := by
  refine profiles_refold sampleStorageTexts (fun _ => "ab") _ fun obs listed => ?_
  simp only [List.mem_cons, List.not_mem_nil, or_false, TableAction.learned.injEq] at listed
  rcases listed with rfl | rfl
  · exact sampleRouted_named _ _
  · exact sampleRouted_named _ _

end CachePilot
