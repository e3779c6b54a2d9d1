/-
Module: CachePilot.Proofs.FailedObservations
Layer: Proofs
Purpose: Failed observations and what is learned around them. A failed observation refines nothing, but its
  row becomes the one that the next observation of the fingerprint is paired with, so it can shorten that
  observation's idle age or make or break a clean pair. Two runs over one history, with and without the
  failed observations inserted into it, have learned the same after every prefix exactly when every hit and
  miss says the same about the TTL in both.
Trusted boundary: none
Main exports: HistoryItem, withFailures, withoutFailures, pairAge, SameLesson, HarmlessAt,
  failures_harmless_iff
-/
import CachePilot.Lib.Execution
import CachePilot.Lib.Sha256
import CachePilot.Proofs.TtlHistory

namespace CachePilot

/-- An event of a history, or a failed observation inserted into it. -/
inductive HistoryItem where
  | given (e : TtlEvent)
  | inserted (obs : TTLObservation)

/-- What the store sees of an item; an inserted observation failed, whatever it says. -/
def HistoryItem.event : HistoryItem → TtlEvent
  | .given e => e
  | .inserted obs => .observed { obs with outcome := .failed }

/-- The item as part of the history without the insertions. -/
def HistoryItem.given? : HistoryItem → Option TtlEvent
  | .given e => some e
  | .inserted _ => none

/-- The history with the insertions. -/
def withFailures (items : List HistoryItem) : List TtlEvent := items.map HistoryItem.event

/-- The history without them. -/
def withoutFailures (items : List HistoryItem) : List TtlEvent := items.filterMap HistoryItem.given?

/-- The time since the last observation of the fingerprint, if the two make a clean pair. -/
def pairAge (events : List TtlEvent) (obs : TTLObservation) : Option ℚ :=
  (lastObservation events obs.cacheFingerprint).bind fun previous =>
    if CleanPair (churnOf events) previous obs then some (obs.timestamp - previous.timestamp) else none

/-- Two idle ages say the same to a profile with these bounds: neither is known, or they are equal, or the
    bound that they would move is already as tight. -/
def SameLesson (bounds : ThresholdBounds ℚ) (outcome : Outcome) : Option ℚ → Option ℚ → Prop
  | none, none => True
  | some x, some y =>
      x = y ∨ (outcome = .confirmedHit ∧ ∃ l ∈ bounds.lower, x ≤ l ∧ y ≤ l) ∨
        (outcome = .missRebuilt ∧ ∃ u ∈ bounds.upper, u ≤ x ∧ u ≤ y)
  | _, _ => False

instance SameLesson.decidable (bounds : ThresholdBounds ℚ) (outcome : Outcome) :
    ∀ x y, Decidable (SameLesson bounds outcome x y)
  | none, none => inferInstanceAs (Decidable True)
  | some _, some _ => inferInstanceAs (Decidable (_ ∨ _))
  | none, some _ => inferInstanceAs (Decidable False)
  | some _, none => inferInstanceAs (Decidable False)

/-- The insertions before this item do not change what it teaches: a hit or a miss says the same after the
    history with them and after the history without them. -/
def HarmlessAt (endpointHash : String → String) (before : List HistoryItem) : HistoryItem → Prop
  | .given (.observed obs) =>
      obs.outcome.isVerified = true →
        SameLesson
          ((TtlStore.ofHistory endpointHash (withoutFailures before)).learned
            (obs.profileKey endpointHash)).1
          obs.outcome (pairAge (withFailures before) obs) (pairAge (withoutFailures before) obs)
  | _ => True

instance HarmlessAt.decidable (endpointHash : String → String) (before : List HistoryItem) :
    ∀ item, Decidable (HarmlessAt endpointHash before item)
  | .given (.observed _) => inferInstanceAs (Decidable (_ → _))
  | .given (.churned _) => inferInstanceAs (Decidable True)
  | .inserted _ => inferInstanceAs (Decidable True)

/-- The two histories have taught the same about every route. -/
def SameLearned (endpointHash : String → String) (items : List HistoryItem) : Prop :=
  ∀ key, (TtlStore.ofHistory endpointHash (withFailures items)).learned key =
    (TtlStore.ofHistory endpointHash (withoutFailures items)).learned key

/-! ### The lesson of an observation -/

theorem cleanAge_eq_pairAge {s : TtlStore} {events : List TtlEvent} (holds : s.Holds events)
    (obs : TTLObservation) : s.cleanAge obs = pairAge events obs := by
  apply Option.ext
  intro age
  rw [cleanAge_eq_some_iff holds, pairAge, Option.bind_eq_some_iff]
  constructor
  · rintro ⟨previous, last, clean, rfl⟩
    exact ⟨previous, last, if_pos clean⟩
  · rintro ⟨previous, last, fed⟩
    split at fed
    · rename_i clean
      cases fed
      exact ⟨previous, last, clean, rfl⟩
    · cases fed

theorem pairAge_pos {events : List TtlEvent} {obs : TTLObservation} {age : ℚ}
    (fed : pairAge events obs = some age) : 0 < age := by
  obtain ⟨previous, last, aged⟩ := Option.bind_eq_some_iff.1 fed
  split at aged
  · rename_i clean
    cases aged
    exact sub_pos.2 clean.later
  · cases aged

/-- The observation of a named route brings the evidence of its clean pair. -/
theorem cleanEvidence_eq (endpointHash : String → String) {s : TtlStore} {events : List TtlEvent}
    (holds : s.Holds events) {obs : TTLObservation} (named : obs.Named) :
    s.cleanEvidence endpointHash obs = TTLProfile.evidence obs.outcome (pairAge events obs) := by
  obtain ⟨p, refines⟩ := TtlStore.refinable_of_named endpointHash s named
  rw [TtlStore.cleanEvidence, refines, Option.bind_some, cleanAge_eq_pairAge holds]

/-- What a piece of evidence, if there is any, does to bounds and sample count. -/
def teach (lesson : ThresholdBounds ℚ × ℕ) (e : Option (ThresholdBounds.Evidence ℚ)) :
    ThresholdBounds ℚ × ℕ :=
  e.elim lesson fun e => (lesson.1.narrow e, lesson.2 + 1)

/-- Evidence is counted, so it never teaches the same as none. -/
theorem teach_ne (lesson : ThresholdBounds ℚ × ℕ) (e : ThresholdBounds.Evidence ℚ) :
    teach lesson (some e) ≠ lesson := by
  intro same
  have counted : lesson.2 + 1 = lesson.2 := congrArg Prod.snd same
  exact absurd counted (Nat.succ_ne_self _)

/-- Evidence of one kind from two ages teaches the same when both are missing, or both are there and narrow
    the bounds alike. -/
theorem teach_map_iff {lesson : ThresholdBounds ℚ × ℕ} {kind : ℚ → ThresholdBounds.Evidence ℚ}
    (x y : Option ℚ) :
    teach lesson (x.map kind) = teach lesson (y.map kind) ↔
      match x, y with
      | none, none => True
      | some a, some b => lesson.1.narrow (kind a) = lesson.1.narrow (kind b)
      | _, _ => False := by
  cases x with
  | none =>
      cases y with
      | none => simp
      | some b =>
          rw [iff_false]
          exact (teach_ne lesson (kind b)).symm
  | some a =>
      cases y with
      | none =>
          rw [iff_false]
          exact teach_ne lesson (kind a)
      | some b => simp [teach]

/-- The evidence of ages that are positive. -/
theorem evidence_hit {x : Option ℚ} (positive : ∀ age ∈ x, 0 < age) :
    TTLProfile.evidence .confirmedHit x = x.map .above := by
  cases x with
  | none => rfl
  | some age => exact if_pos (positive age rfl).le

theorem evidence_miss {x : Option ℚ} (positive : ∀ age ∈ x, 0 < age) :
    TTLProfile.evidence .missRebuilt x = x.map .upTo := by
  cases x with
  | none => rfl
  | some age => exact if_pos (positive age rfl).le

/-- Two idle ages teach the same exactly when they are the same lesson. -/
theorem teach_eq_teach_iff {lesson : ThresholdBounds ℚ × ℕ} {outcome : Outcome} {x y : Option ℚ}
    (positive : (∀ age ∈ x, 0 < age) ∧ ∀ age ∈ y, 0 < age) :
    teach lesson (TTLProfile.evidence outcome x) = teach lesson (TTLProfile.evidence outcome y) ↔
      (outcome.isVerified = true → SameLesson lesson.1 outcome x y) := by
  cases outcome with
  | failed => simp [TTLProfile.evidence, Outcome.isVerified]
  | successUnverified => simp [TTLProfile.evidence, Outcome.isVerified]
  | confirmedHit =>
      rw [evidence_hit positive.1, evidence_hit positive.2, teach_map_iff]
      cases x <;> cases y <;>
        simp [SameLesson, Outcome.isVerified, ThresholdBounds.narrow,
          ThresholdBounds.raise_eq_raise_iff]
  | missRebuilt =>
      rw [evidence_miss positive.1, evidence_miss positive.2, teach_map_iff]
      cases x <;> cases y <;>
        simp [SameLesson, Outcome.isVerified, ThresholdBounds.narrow,
          ThresholdBounds.cap_eq_cap_iff]

/-! ### Two runs -/

section TwoRuns

variable {endpointHash : String → String} {before : List HistoryItem}

theorem withFailures_snoc (item : HistoryItem) :
    withFailures (before ++ [item]) = withFailures before ++ [item.event] := by
  rw [withFailures, List.map_append]
  rfl

theorem withoutFailures_snoc (item : HistoryItem) :
    withoutFailures (before ++ [item]) = withoutFailures before ++ item.given?.toList := by
  rw [withoutFailures, List.filterMap_append]
  cases item with
  | given e => rfl
  | inserted obs => rfl

theorem ofHistory_snoc (events : List TtlEvent) (e : TtlEvent) :
    TtlStore.ofHistory endpointHash (events ++ [e]) =
      (TtlStore.ofHistory endpointHash events).apply endpointHash e := by
  rw [TtlStore.ofHistory, List.foldl_append]
  rfl

/-- What one more observation of a named route teaches. -/
theorem learned_snoc_observed (events : List TtlEvent) {obs : TTLObservation} (named : obs.Named)
    (key : String) :
    (TtlStore.ofHistory endpointHash (events ++ [.observed obs])).learned key =
      if key = obs.profileKey endpointHash then
        teach ((TtlStore.ofHistory endpointHash events).learned key)
          (TTLProfile.evidence obs.outcome (pairAge events obs))
      else (TtlStore.ofHistory endpointHash events).learned key := by
  have holds := holds_ofHistory endpointHash events
  rw [ofHistory_snoc, ← cleanEvidence_eq endpointHash holds named]
  exact TtlStore.learned_learn holds.keyed key

/-- A failed observation teaches nothing, and neither does churn. -/
theorem learned_snoc_failed (events : List TtlEvent) (obs : TTLObservation) (key : String) :
    (TtlStore.ofHistory endpointHash
        (events ++ [.observed { obs with outcome := .failed }])).learned key =
      (TtlStore.ofHistory endpointHash events).learned key := by
  have holds := holds_ofHistory endpointHash events
  have moved : ((TtlStore.ofHistory endpointHash events).learn endpointHash
      { obs with outcome := .failed }).1.learned key = _ := TtlStore.learned_learn holds.keyed key
  have nothing : (TtlStore.ofHistory endpointHash events).cleanEvidence endpointHash
      { obs with outcome := .failed } = none := by
    simp [TtlStore.cleanEvidence, TTLProfile.evidence]
  rw [nothing, Option.elim_none, ite_self] at moved
  rw [ofHistory_snoc]
  exact moved

theorem learned_snoc_churned (events : List TtlEvent) (event : ChurnRecord) (key : String) :
    (TtlStore.ofHistory endpointHash (events ++ [.churned event])).learned key =
      (TtlStore.ofHistory endpointHash events).learned key := by
  rw [ofHistory_snoc]
  rfl

/-- One more item: the histories keep teaching the same exactly when the item is harmless. -/
theorem sameLearned_snoc {item : HistoryItem}
    (named : ∀ obs, item = .given (.observed obs) → obs.Named)
    (same : SameLearned endpointHash before) :
    SameLearned endpointHash (before ++ [item]) ↔ HarmlessAt endpointHash before item := by
  unfold SameLearned
  rw [withFailures_snoc, withoutFailures_snoc]
  cases item with
  | inserted obs =>
      simp only [HistoryItem.event, HistoryItem.given?, Option.toList_none, List.append_nil,
        learned_snoc_failed, HarmlessAt, iff_true]
      exact same
  | given e =>
      cases e with
      | churned event =>
          simp only [HistoryItem.event, HistoryItem.given?, Option.toList_some,
            learned_snoc_churned, HarmlessAt, iff_true]
          exact same
      | observed obs =>
          have names := named obs rfl
          have ages : (∀ age ∈ pairAge (withFailures before) obs, 0 < age) ∧
              ∀ age ∈ pairAge (withoutFailures before) obs, 0 < age :=
            ⟨fun _ fed => pairAge_pos fed, fun _ fed => pairAge_pos fed⟩
          simp only [HistoryItem.event, HistoryItem.given?, Option.toList_some,
            learned_snoc_observed _ names, HarmlessAt, same _]
          rw [← teach_eq_teach_iff ages]
          constructor
          · intro every
            simpa using every (obs.profileKey endpointHash)
          · intro own key
            split
            · rename_i mine
              rw [mine]
              exact own
            · rfl

/-- Failed observations do not interfere exactly when each hit and miss says the same with and without the
    failed observations before it: after every prefix of a history the two runs have learned the same bounds
    and sample counts if and only if every item is harmless. -/
theorem failures_harmless_iff (endpointHash : String → String) (items : List HistoryItem)
    (named : ∀ obs, .given (.observed obs) ∈ items → obs.Named) :
    (∀ before, before <+: items → SameLearned endpointHash before) ↔
      Execution.AtEach (HarmlessAt endpointHash) [] items := by
  apply Execution.forall_prefix_iff_atEach
  · intro key
    rfl
  · intro before item within same
    apply sameLearned_snoc _ same
    rintro obs rfl
    apply named obs
    exact within.subset (List.mem_append_right before (List.mem_singleton_self _))

end TwoRuns

/-! ### Samples -/

/-- An observation of one route. -/
def sampleObservation (outcome : Outcome) (timestamp : ℚ) : TTLObservation where
  outcome := outcome
  cacheFingerprint := "fp"
  routeHash := none
  provider := "provider"
  model := "model"
  apiMode := "chat_completions"
  endpoint := "https://upstream"
  timestamp := timestamp

/-- Two hits 100 s apart, and a failed request between them. -/
def sampleInterference : List HistoryItem :=
  [.given (.observed (sampleObservation .confirmedHit 0)), .inserted (sampleObservation .failed 60),
    .given (.observed (sampleObservation .confirmedHit 100))]

/-- The same hits, with the failed request after them. -/
def sampleNoInterference : List HistoryItem :=
  [.given (.observed (sampleObservation .confirmedHit 0)),
    .given (.observed (sampleObservation .confirmedHit 100)),
    .inserted (sampleObservation .failed 160)]

theorem failures_harmless_iff_sample : SameLearned Sha256.hexdigest sampleNoInterference := by
  apply (failures_harmless_iff Sha256.hexdigest sampleNoInterference _).2
  · decide +kernel
  · exact List.prefix_rfl
  · simp [sampleNoInterference]
    decide

/-- A failed observation interferes: in order of time and all on one fingerprint, the one between two hits
    makes the learner believe in 40 s where 100 s were seen. -/
theorem failures_interfere :
    ¬ ∀ (cacheFingerprint : String) (items : List HistoryItem),
      (∀ obs ∈ observationsOf (withFailures items), obs.cacheFingerprint = cacheFingerprint) →
      ((observationsOf (withFailures items)).map TTLObservation.timestamp).Pairwise (· ≤ ·) →
      SameLearned Sha256.hexdigest items := by
  intro claim
  have same := claim "fp" sampleInterference (by decide +kernel) (by decide +kernel)
    ((sampleObservation .confirmedHit 0).profileKey Sha256.hexdigest)
  revert same
  decide +kernel

end CachePilot
