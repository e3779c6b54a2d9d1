/-
Module: CachePilot.Proofs.LearnedTables
Layer: Proofs
Purpose: The learner over the tables is the learner over lists. The tables mirror a store of lists when their rows are
  those of the lists and the profile that is read under a key is the one that is kept there; every call of the
  learner and every other write keeps the mirror, and the learner answers alike on both sides. So whatever is known
  of histories of the learner is known of the tables, which never make it raise but for a nameless route.
Trusted boundary: none
Main exports: ObservedOutcome.toObservation, Mirrors, Mirrors.write, learn_mirrors, TableAction, tableStep,
  actions_mirror, learner_over_tables
-/
import CachePilot.Core.StoredLearner
import CachePilot.Proofs.StoredTimes
import CachePilot.Proofs.TtlHistory

namespace CachePilot

open SqlTable KeyedLog

/-! ### What the lists see -/

/-- An observed outcome with its time as a number. -/
def ObservedOutcome.toObservation (obs : ObservedOutcome) : TTLObservation where
  outcome := obs.outcome
  cacheFingerprint := obs.cacheFingerprint
  routeHash := obs.routeHash
  provider := obs.provider
  model := obs.model
  apiMode := obs.apiMode
  endpoint := obs.endpoint
  timestamp := obs.timestamp.seconds

/-- The columns of a churn event that the learner's query reads. -/
def ChurnEventRecord.toChurnRecord (churn : ChurnEventRecord) : ChurnRecord where
  timestamp := churn.timestamp.seconds
  previousCacheFingerprint := churn.previousCacheFingerprint
  newCacheFingerprint := churn.newCacheFingerprint

/-- An answer with the learned columns only. -/
def StoredAnswer.toAnswer : StoredAnswer → LearnAnswer
  | .returned profile => .returned (profile.map ProfileRecord.asProfile)
  | .raised => .raised

theorem seconds_le_iff (t u : UtcTime) : t.seconds ≤ u.seconds ↔ t.instant ≤ u.instant := by
  rw [UtcTime.seconds, UtcTime.seconds, div_le_div_iff_of_pos_right (by norm_num), Nat.cast_le]

/-- The point of time of a time of UTC is its own. -/
def StoredTime.ofUtc (t : UtcTime) : StoredTime where
  toAwareTime := .ofUtc t
  text := t.isoText
  stored := by
    have converted : (AwareTime.ofUtc t).toUtc = some t := by
      rw [AwareTime.toUtc_eq_some_iff]
      exact (sub_zero _).symm
    rw [AwareTime.iso, converted]
    rfl

theorem StoredTime.instant_ofUtc (t : UtcTime) : (StoredTime.ofUtc t).instant = t.instant := sub_zero _

/-! ### Profiles -/

theorem asProfile_observe (p : ProfileRecord) (outcome : Outcome) (age : Option ℚ) :
    (p.observe outcome age).asProfile = p.asProfile.observe outcome age := by
  have context := p.asProfile.toRouteContext_observe outcome age
  have updated : (p.asProfile.observe outcome age).updatedAt = p.asProfile.updatedAt := by
    cases outcome with
    | failed => cases age <;> rfl
    | successUnverified => cases age <;> rfl
    | confirmedHit =>
        cases age with
        | none => rfl
        | some age =>
            rw [TTLProfile.observe]
            split <;> rfl
    | missRebuilt =>
        cases age with
        | none => rfl
        | some age =>
            rw [TTLProfile.observe]
            split <;> rfl
  cases shape : p.asProfile.observe outcome age with
  | mk route lower upper estimated confidence count at_ =>
      rw [shape] at context updated
      rw [ProfileRecord.observe, ProfileRecord.asProfile, shape, TTLProfile.mk.injEq]
      exact ⟨context.symm, rfl, rfl, rfl, rfl, rfl, updated.symm⟩

theorem asProfile_freshProfile (endpointHash : String → String) (obs : ObservedOutcome) :
    (obs.freshProfile endpointHash).map ProfileRecord.asProfile =
      obs.toObservation.freshProfile endpointHash := by
  rw [ObservedOutcome.freshProfile, TTLObservation.freshProfile]
  change (if _ then _ else _ : Option ProfileRecord).map _ =
    if obs.provider = "" ∨ obs.model = "" ∨ obs.apiMode = "" then none else _
  split
  · rfl
  · rfl

/-! ### The mirror -/

/-- The tables mirror the lists: the rows are those of the lists in their order, and the profile under a key is the
    one that is kept there. -/
structure Mirrors (texts : StorageTexts) (writes : List StoreWrite) (store : TelemetryStore) (s : TtlStore) :
    Prop where
  holding : Holding texts writes store
  observations : s.observations =
    (writes.filterMap StoreWrite.ttlObservation?).map TtlObservationRecord.asObservation
  churn : s.churnEvents = (writes.filterMap StoreWrite.churn?).map ChurnEventRecord.toChurnRecord
  profiles : ∀ key, s.profileFor key =
    (keptProfile (writes.filterMap StoreWrite.profile?) key).map fun entry =>
      (entry.1.storedAt entry.2).asProfile

/-- What a write does to the lists. -/
def TtlStore.mirrored (s : TtlStore) : StoreWrite → TtlStore
  | .churn churn => s.recordChurn churn.toChurnRecord
  | .ttlObservation obs => s.recordTtlObservation obs.asObservation
  | .profile profile now => s.upsertProfile (profile.storedAt now).asProfile
  | _ => s

variable {texts : StorageTexts} {writes : List StoreWrite} {store : TelemetryStore} {s : TtlStore}

theorem mirrors_empty (texts : StorageTexts) : Mirrors texts [] {} {} where
  holding := holding_empty
  observations := rfl
  churn := rfl
  profiles _ := rfl

/-- A profile that is written under its key takes the identity of the one that was kept there. -/
theorem profileFor_upsertProfile_kept (mirrors : Mirrors texts writes store s) (profile : ProfileRecord)
    (now : UtcTime) (key : String) :
    (s.upsertProfile (profile.storedAt now).asProfile).profileFor key =
      (keptProfile (writes.filterMap StoreWrite.profile? ++ [(profile, now)]) key).map fun entry =>
        (entry.1.storedAt entry.2).asProfile := by
  have own : (profile.storedAt now).asProfile.profileKey = profile.profileKey := rfl
  rw [TtlStore.upsertProfile, keptProfile_append, own]
  dsimp only [TtlStore.profileFor]
  rw [Dict.get?_set]
  by_cases here : key = profile.profileKey
  · subst here
    have kept := mirrors.profiles profile.profileKey
    rw [TtlStore.profileFor] at kept
    have same : profileKeyOf (profile, now) = profile.profileKey := rfl
    rw [if_pos rfl, if_pos same, kept]
    cases keptProfile (writes.filterMap StoreWrite.profile?) profile.profileKey with
    | none => rfl
    | some old => rfl
  · have other : ¬profileKeyOf (profile, now) = key := fun same => here same.symm
    rw [if_neg here, if_neg other]
    exact mirrors.profiles key

/-- Every write keeps the mirror. -/
theorem Mirrors.write (mirrors : Mirrors texts writes store s) (write : StoreWrite) {after : TelemetryStore}
    (stepped : storeWrite texts store write = some after) :
    Mirrors texts (writes ++ [write]) after (s.mirrored write) := by
  have holding := holding_step mirrors.holding stepped
  have before := mirrors
  obtain ⟨-, observations, churn, profiles⟩ := mirrors
  cases write with
  | churn event =>
      refine ⟨holding, ?_, ?_, ?_⟩
      · rw [filterMap_untouched (by rfl)]
        exact observations
      · rw [filterMap_added StoreWrite.churn? rfl, List.map_append, ← churn]
        rfl
      · rw [filterMap_untouched (by rfl)]
        exact profiles
  | ttlObservation obs =>
      refine ⟨holding, ?_, ?_, ?_⟩
      · rw [filterMap_added StoreWrite.ttlObservation? rfl, List.map_append, ← observations]
        rfl
      · rw [filterMap_untouched (by rfl)]
        exact churn
      · rw [filterMap_untouched (by rfl)]
        exact profiles
  | profile profile now =>
      refine ⟨holding, ?_, ?_, fun key => ?_⟩
      · rw [filterMap_untouched (by rfl)]
        exact observations
      · rw [filterMap_untouched (by rfl)]
        exact churn
      · rw [filterMap_added StoreWrite.profile? rfl]
        exact profileFor_upsertProfile_kept before profile now key
  | _ =>
      refine ⟨holding, ?_, ?_, ?_⟩
      all_goals rw [filterMap_untouched (by rfl)]; assumption

/-! ### Queries -/

/-- The query finds the last row that was written of a fingerprint. -/
theorem Holding.lastTtlObservation (holding : Holding texts writes store) (cacheFingerprint : String) :
    ∃ found, store.lastTtlObservation cacheFingerprint = some found ∧
      found.map StoredTtlObservation.toTtlObservationRecord =
        lastFor TtlObservationRecord.cacheFingerprint (writes.filterMap StoreWrite.ttlObservation?)
          cacheFingerprint := by
  have agree : ∀ id (obs : TtlObservationRecord),
      TelemetryStore.rowOfFingerprint cacheFingerprint
          (insertedRow id ttlObservationInsertColumns (ttlObservationValues obs)) =
        decide (obs.cacheFingerprint = cacheFingerprint) := by
    intro id obs
    simp only [TelemetryStore.rowOfFingerprint, ttlObservationRow_key, SqlValue.text.injEq]
  obtain ⟨entry, row, record⟩ := holding.ttlObservations.find_newest agree
  rw [TelemetryStore.lastTtlObservation, row, lastFor, record]
  cases entry with
  | none => exact ⟨none, rfl, rfl⟩
  | some entry =>
      refine ⟨some ⟨entry.2, entry.1⟩, ?_, rfl⟩
      exact congrArg (Option.map some) (rowToTtlObservation_inserted entry.1 entry.2)

section Queries

variable (mirrors : Mirrors texts writes store s)
include mirrors

/-- The last row of a fingerprint is that of the lists. -/
theorem Mirrors.lastTtlObservation (cacheFingerprint : String) :
    ∃ found, store.lastTtlObservation cacheFingerprint = some found ∧
      s.lastTtlObservation cacheFingerprint =
        found.map fun row => row.toTtlObservationRecord.asObservation := by
  obtain ⟨found, read, last⟩ := mirrors.holding.lastTtlObservation cacheFingerprint
  refine ⟨found, read, ?_⟩
  rw [TtlStore.lastTtlObservation, mirrors.observations,
    lastFor_map TtlObservationRecord.asObservation (fun _ => rfl) _ cacheFingerprint]
  exact (congrArg (Option.map TtlObservationRecord.asObservation) last.symm).trans (Option.map_map ..)

/-- The query by time finds what the lists find. -/
theorem Mirrors.churnBetween (cacheFingerprint : String) (start stop : UtcTime) :
    store.churnBetween cacheFingerprint (.ofUtc start) (.ofUtc stop) =
      some (s.churnBetween cacheFingerprint start.seconds stop.seconds) := by
  have found := mirrors.holding.churnBetween cacheFingerprint (StoredTime.ofUtc start) (StoredTime.ofUtc stop)
  refine found.trans (congrArg some ?_)
  rw [TtlStore.churnBetween, mirrors.churn, Bool.eq_iff_iff, decide_eq_true_iff, List.any_map, List.any_eq_true]
  refine exists_congr fun churn => and_congr_right fun _ => ?_
  rw [ChurnEventRecord.TouchesWithin, StoredTime.instant_ofUtc, StoredTime.instant_ofUtc, Int.ofNat_le, Int.ofNat_le]
  simp only [Function.comp_apply, ChurnRecord.touches, ChurnEventRecord.toChurnRecord, Bool.and_eq_true,
    decide_eq_true_eq, seconds_le_iff, and_assoc]
  exact and_congr_left fun _ => decide_eq_true_iff.symm

/-- The profile of a key is that of the lists. -/
theorem Mirrors.profileFor (key : String) :
    ∃ found, store.profileFor key = some found ∧ s.profileFor key = found.map ProfileRecord.asProfile := by
  refine ⟨_, mirrors.holding.profiles.profileFor key, ?_⟩
  rw [mirrors.profiles, Option.map_map]
  rfl

end Queries

/-! ### The learner -/

theorem idleAgeSince_toObservation (obs : ObservedOutcome) (previous : TtlObservationRecord) :
    obs.toObservation.idleAgeSince previous.asObservation = obs.idleAgeSince previous := rfl

/-- What is found to be clean is clean on the lists. -/
theorem Mirrors.cleanPair (mirrors : Mirrors texts writes store s) (obs : ObservedOutcome)
    (found : Option StoredTtlObservation) :
    store.cleanPair obs found =
      some ((found.map fun row => row.toTtlObservationRecord.asObservation).any fun previous =>
        (obs.toObservation.idleAgeSince previous).isSome && s.stablePair obs.toObservation previous) := by
  cases found with
  | none => rfl
  | some previous =>
      have routes : (previous.toTtlObservationRecord.asObservation.routeHash = obs.toObservation.routeHash) =
          (previous.routeHash = obs.routeHash) := rfl
      have stable : s.stablePair obs.toObservation previous.toTtlObservationRecord.asObservation =
          (decide (previous.routeHash = obs.routeHash) &&
            !s.churnBetween obs.cacheFingerprint previous.timestamp.seconds obs.timestamp.seconds) := rfl
      rw [TelemetryStore.cleanPair, Option.map_some, Option.any_some, idleAgeSince_toObservation, stable,
        mirrors.churnBetween]
      cases aged : (obs.idleAgeSince previous.toTtlObservationRecord).isSome with
      | false => rw [if_neg fun both => Bool.noConfusion both.1, Bool.false_and]
      | true =>
          by_cases route : previous.routeHash = obs.routeHash
          · rw [if_pos ⟨rfl, route⟩, decide_eq_true route, Bool.true_and, Bool.true_and, Option.map_some]
          · rw [if_neg fun both => route both.2, decide_eq_false route, Bool.false_and, Bool.and_false]

/-- A call of the learner writes what the learner over lists writes, and answers alike. -/
theorem learn_mirrors (endpointHash : String → String) (mirrors : Mirrors texts writes store s)
    (obs : ObservedOutcome) :
    ∃ more, Mirrors texts (writes ++ more) (store.learn endpointHash obs).1
        (s.learn endpointHash obs.toObservation).1 ∧
      (store.learn endpointHash obs).2.toAnswer = (s.learn endpointHash obs.toObservation).2 := by
  obtain ⟨previous, last, lastAbove⟩ := mirrors.lastTtlObservation obs.cacheFingerprint
  have above : s.lastTtlObservation obs.toObservation.cacheFingerprint = _ := lastAbove
  have clean := mirrors.cleanPair obs previous
  rw [TelemetryStore.learn, last]
  dsimp only
  rw [clean]
  dsimp only
  rw [TtlStore.learn, above]
  generalize ((previous.map fun row => row.toTtlObservationRecord.asObservation).any fun previous =>
    (obs.toObservation.idleAgeSince previous).isSome && s.stablePair obs.toObservation previous) = clean
  have ages : (previous.map fun row => row.toTtlObservationRecord.asObservation).bind obs.toObservation.idleAgeSince =
      previous.bind fun previous => obs.idleAgeSince previous.toTtlObservationRecord := by
    cases previous <;> rfl
  rw [ages]
  generalize aged : (previous.bind fun previous => obs.idleAgeSince previous.toTtlObservationRecord) = idleAgeS
  -- the row goes in on both sides
  have recorded := mirrors.write (.ttlObservation (obs.row endpointHash idleAgeS clean)) rfl
  have row : (obs.row endpointHash idleAgeS clean).asObservation =
      TtlStore.rowOf endpointHash obs.toObservation idleAgeS clean := rfl
  rw [TtlStore.mirrored, row] at recorded
  generalize store.recordTtlObservation (obs.row endpointHash idleAgeS clean) = store' at recorded ⊢
  generalize s.recordTtlObservation (TtlStore.rowOf endpointHash obs.toObservation idleAgeS clean) = s' at recorded ⊢
  obtain ⟨profile, known, knownAbove⟩ := recorded.profileFor (obs.profileKey endpointHash)
  have key : obs.toObservation.profileKey endpointHash = obs.profileKey endpointHash := rfl
  rw [TelemetryStore.refineProfile, aged, known, key, knownAbove]
  dsimp only
  have written : ∀ p : ProfileRecord, p.updatedAt = some obs.timestamp →
      ∃ more, Mirrors texts (writes ++ more) (store'.upsertProfile p obs.timestamp) (s'.upsertProfile p.asProfile) := by
    intro p stamped
    have upserted := recorded.write (.profile p obs.timestamp) rfl
    have stored : p.storedAt obs.timestamp = p := by
      rw [ProfileRecord.storedAt, stamped, Option.getD_some, ← stamped]
    rw [TtlStore.mirrored, stored, List.append_assoc] at upserted
    exact ⟨_, upserted⟩
  by_cases refines : clean = true ∧ idleAgeS.isSome = true
  · rw [if_pos refines, if_pos refines]
    have fresh := asProfile_freshProfile endpointHash obs
    have refined : (profile.map ProfileRecord.asProfile <|> obs.toObservation.freshProfile endpointHash) =
        (profile <|> obs.freshProfile endpointHash).map ProfileRecord.asProfile := by
      rw [← fresh]
      cases profile <;> rfl
    rw [refined]
    cases (profile <|> obs.freshProfile endpointHash) with
    | none => exact ⟨_, recorded, rfl⟩
    | some p =>
        have same :
            ({ p.observe obs.outcome idleAgeS with updatedAt := some obs.timestamp } : ProfileRecord).asProfile =
            { p.asProfile.observe obs.outcome idleAgeS with updatedAt := some obs.timestamp.seconds } := by
          rw [← asProfile_observe]
          rfl
        obtain ⟨more, upserted⟩ := written { p.observe obs.outcome idleAgeS with updatedAt := some obs.timestamp } rfl
        rw [same] at upserted
        exact ⟨more, upserted, congrArg (LearnAnswer.returned ∘ some) same⟩
  · rw [if_neg refines, if_neg refines]
    cases previous with
    | none => exact ⟨_, recorded, rfl⟩
    | some previous =>
        cases profile with
        | none => exact ⟨_, recorded, rfl⟩
        | some profile =>
            dsimp only [Option.map_some]
            by_cases moved : previous.routeHash ≠ obs.routeHash
            · have above : previous.toTtlObservationRecord.asObservation.routeHash ≠ obs.toObservation.routeHash :=
                moved
              rw [if_pos moved, if_pos above]
              obtain ⟨more, upserted⟩ :=
                written { profile with confidence := Confidence.fresh, updatedAt := some obs.timestamp } rfl
              exact ⟨more, upserted, rfl⟩
            · have above : ¬previous.toTtlObservationRecord.asObservation.routeHash ≠ obs.toObservation.routeHash :=
                moved
              rw [if_neg moved, if_neg above]
              exact ⟨_, recorded, rfl⟩


/-- The learner over lists raises when it has a clean age and no profile to refine. -/
theorem learn_raises_iff (endpointHash : String → String) (s : TtlStore) (obs : TTLObservation) :
    (s.learn endpointHash obs).2 = .raised ↔
      (s.cleanAge obs).isSome = true ∧ s.refinable endpointHash obs = none := by
  unfold TtlStore.learn TtlStore.refinable
  simp only [TtlStore.profileFor_recordTtlObservation, TtlStore.clean_eq]
  cases clean : s.cleanAge obs with
  | some age =>
      rw [TtlStore.idleAge_of_cleanAge clean]
      simp only [Option.isSome_some, and_self, if_true, true_and]
      cases (s.profileFor (obs.profileKey endpointHash) <|> obs.freshProfile endpointHash) with
      | none => exact iff_of_true rfl rfl
      | some p => exact iff_of_false LearnAnswer.noConfusion (Option.some_ne_none p)
  | none =>
      simp only [Option.isSome_none, Bool.false_eq_true, false_and, if_false, iff_false]
      cases s.lastTtlObservation obs.cacheFingerprint with
      | none => exact LearnAnswer.noConfusion
      | some previous =>
          cases s.profileFor (obs.profileKey endpointHash) with
          | none => exact LearnAnswer.noConfusion
          | some p =>
              dsimp only
              split
              · exact LearnAnswer.noConfusion
              · exact LearnAnswer.noConfusion

/-! ### Histories -/

/-- What a relay does to its store, in the order in which it does it: observed outcomes go through the learner, and
    other records are written. -/
inductive TableAction where
  | learned (obs : ObservedOutcome)
  | request (event : RequestEventRecord)
  | churned (churn : ChurnEventRecord)
  | lease (lease : LeaseSnapshot) (now : UtcTime)
  | routed (event : RouteEventRecord)

/-- What the learner over lists sees of an action. -/
def TableAction.event? : TableAction → Option TtlEvent
  | .learned obs => some (.observed obs.toObservation)
  | .churned churn => some (.churned churn.toChurnRecord)
  | _ => none

/-- One action. -/
def tableStep (texts : StorageTexts) (endpointHash : String → String) (store : TelemetryStore) :
    TableAction → Option TelemetryStore
  | .learned obs => some (store.learn endpointHash obs).1
  | .request event => storeWrite texts store (.request event)
  | .churned churn => storeWrite texts store (.churn churn)
  | .lease lease now => storeWrite texts store (.lease lease now)
  | .routed event => storeWrite texts store (.routeEvent event)

/-- The lists that an action leads to. -/
def TtlStore.after (endpointHash : String → String) (s : TtlStore) (action : TableAction) : TtlStore :=
  action.event?.elim s (s.apply endpointHash)

/-- Every action keeps the mirror, and none is refused. -/
theorem Mirrors.act (endpointHash : String → String) (mirrors : Mirrors texts writes store s) (action : TableAction) :
    ∃ after more, tableStep texts endpointHash store action = some after ∧
      Mirrors texts (writes ++ more) after (s.after endpointHash action) := by
  cases action with
  | learned obs =>
      obtain ⟨more, mirrored, -⟩ := learn_mirrors endpointHash mirrors obs
      exact ⟨_, more, rfl, mirrored⟩
  | request event => exact ⟨_, _, rfl, mirrors.write (.request event) rfl⟩
  | churned churn => exact ⟨_, _, rfl, mirrors.write (.churn churn) rfl⟩
  | lease lease now =>
      obtain ⟨after, written⟩ := Option.isSome_iff_exists.mp (updateLease_isSome store lease now)
      exact ⟨after, _, written, mirrors.write (.lease lease now) written⟩
  | routed event => exact ⟨_, _, rfl, mirrors.write (.routeEvent event) rfl⟩

/-- The lists after a history of actions. -/
def TtlStore.ofActions (endpointHash : String → String) (actions : List TableAction) : TtlStore :=
  .ofHistory endpointHash (actions.filterMap TableAction.event?)

theorem ofActions_append (endpointHash : String → String) (actions : List TableAction) (action : TableAction) :
    TtlStore.ofActions endpointHash (actions ++ [action]) =
      (TtlStore.ofActions endpointHash actions).after endpointHash action := by
  rw [TtlStore.ofActions, TtlStore.ofHistory, List.filterMap_append, List.foldl_append, TtlStore.after]
  cases seen : action.event? with
  | none =>
      rw [List.filterMap_cons_none seen]
      rfl
  | some event =>
      rw [List.filterMap_cons_some seen]
      rfl

/-- Every history of actions runs to its end, and the tables mirror the lists there. -/
theorem actions_mirror (texts : StorageTexts) (endpointHash : String → String) (actions : List TableAction) :
    ∃ store writes, Execution.exec (tableStep texts endpointHash) {} actions = some store ∧
      Mirrors texts writes store (TtlStore.ofActions endpointHash actions) := by
  induction actions using List.reverseRecOn with
  | nil => exact ⟨{}, [], rfl, mirrors_empty texts⟩
  | append_singleton actions action ih =>
      obtain ⟨store, writes, run, mirrors⟩ := ih
      obtain ⟨after, more, step, mirrored⟩ := mirrors.act endpointHash action
      refine ⟨after, writes ++ more, Execution.exec_snoc_eq_some.mpr ⟨store, run, step⟩, ?_⟩
      rwa [ofActions_append]

/-- A call of the learner raises when its route is nameless, nothing is kept of it, and the pair is clean. -/
theorem learn_raises_on_nameless {events : List TtlEvent} (holds : s.Holds events) (endpointHash : String → String)
    (obs : TTLObservation) :
    (s.learn endpointHash obs).2 = .raised ↔
      (∃ previous ∈ lastObservation events obs.cacheFingerprint, CleanPair (churnOf events) previous obs) ∧
        s.profileFor (obs.profileKey endpointHash) = none ∧ ¬obs.Named := by
  rw [learn_raises_iff]
  refine and_congr ?_ ?_
  · rw [Option.isSome_iff_exists]
    constructor
    · rintro ⟨age, aged⟩
      obtain ⟨previous, last, clean, -⟩ := (cleanAge_eq_some_iff holds).mp aged
      exact ⟨previous, last, clean⟩
    · rintro ⟨previous, last, clean⟩
      exact ⟨_, (cleanAge_eq_some_iff holds).mpr ⟨previous, last, clean, rfl⟩⟩
  · rw [TtlStore.refinable, TTLObservation.freshProfile]
    cases s.profileFor (obs.profileKey endpointHash) with
    | some p => exact iff_of_false (Option.some_ne_none p) fun both => Option.some_ne_none p both.1
    | none =>
        by_cases nameless : obs.provider = "" ∨ obs.model = "" ∨ obs.apiMode = ""
        · rw [if_pos nameless]
          refine iff_of_true rfl ⟨rfl, fun named => ?_⟩
          rcases nameless with provider | model | apiMode
          · exact named.1 provider
          · exact named.2.1 model
          · exact named.2.2 apiMode
        · rw [if_neg nameless]
          obtain ⟨provider, others⟩ := not_or.mp nameless
          exact iff_of_false (Option.some_ne_none _) fun both => both.2 ⟨provider, not_or.mp others⟩

/-- The tables keep what the lists keep. Whatever a relay does, nothing refuses it, the profile under a key, the last
    row of a fingerprint and the churn in a window are those of the lists, and so is the answer to the next outcome;
    the learner raises for nothing but a clean pair on a nameless route of which nothing is kept. -/
theorem learner_over_tables (texts : StorageTexts) (endpointHash : String → String) (actions : List TableAction) :
    let events := actions.filterMap TableAction.event?
    let s := TtlStore.ofHistory endpointHash events
    ∃ store, Execution.exec (tableStep texts endpointHash) {} actions = some store ∧
      (∀ key, (store.profileFor key).map (Option.map ProfileRecord.asProfile) = some (s.profileFor key)) ∧
      (∀ cacheFingerprint, (store.lastTtlObservation cacheFingerprint).map
          (Option.map fun row => row.toTtlObservationRecord.asObservation) =
        some (s.lastTtlObservation cacheFingerprint)) ∧
      (∀ cacheFingerprint (start stop : UtcTime),
        store.churnBetween cacheFingerprint (.ofUtc start) (.ofUtc stop) =
          some (s.churnBetween cacheFingerprint start.seconds stop.seconds)) ∧
      ∀ obs : ObservedOutcome,
        (store.learn endpointHash obs).2.toAnswer = (s.learn endpointHash obs.toObservation).2 ∧
        ((store.learn endpointHash obs).2 = .raised ↔
          (∃ previous ∈ lastObservation events obs.cacheFingerprint,
            CleanPair (churnOf events) previous obs.toObservation) ∧
          store.profileFor (obs.profileKey endpointHash) = some none ∧ ¬obs.toObservation.Named) := by
  intro events s
  obtain ⟨store, writes, run, mirrors⟩ := actions_mirror texts endpointHash actions
  refine ⟨store, run, fun key => ?_, fun cacheFingerprint => ?_, mirrors.churnBetween, fun obs => ?_⟩
  · obtain ⟨found, read, known⟩ := mirrors.profileFor key
    rw [read]
    exact congrArg some known.symm
  · obtain ⟨found, read, known⟩ := mirrors.lastTtlObservation cacheFingerprint
    rw [read]
    exact congrArg some known.symm
  · obtain ⟨-, -, answer⟩ := learn_mirrors endpointHash mirrors obs
    refine ⟨answer, ?_⟩
    have raises :
        (store.learn endpointHash obs).2 = .raised ↔ (s.learn endpointHash obs.toObservation).2 = .raised := by
      change _ ↔ (TtlStore.learn endpointHash (TtlStore.ofActions endpointHash actions) obs.toObservation).2 = _
      rw [← answer]
      cases (store.learn endpointHash obs).2 with
      | returned profile => exact iff_of_false StoredAnswer.noConfusion LearnAnswer.noConfusion
      | raised => exact iff_of_true rfl rfl
    have kept : store.profileFor (obs.profileKey endpointHash) = some none ↔
        s.profileFor (obs.toObservation.profileKey endpointHash) = none := by
      obtain ⟨found, read, known⟩ := mirrors.profileFor (obs.profileKey endpointHash)
      have above : s.profileFor (obs.toObservation.profileKey endpointHash) = found.map ProfileRecord.asProfile := known
      rw [read, above, Option.some.injEq, Option.map_eq_none_iff]
    rw [raises, kept]
    exact learn_raises_on_nameless (holds_ofHistory endpointHash events) endpointHash obs.toObservation

end CachePilot
