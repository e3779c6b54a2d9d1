/-
Module: CachePilot.Proofs.CacheTelemetry
Layer: Proofs
Purpose: When the outcome of a successful response says what its cache counters say. The detector of telemetry knows
  every recognised counter by its key; the normaliser reads some of them, which ones depends on the dialect, turns
  them into integers, and fails on some payloads. The outcome is right but for five kinds of usage objects, which are
  told by their keys and values: a positive counter in a usage that makes the normaliser fail, one under a key that
  the dialect does not read, one below one, a counter that is no number and reads as one, and cache keys without a
  number.
Trusted boundary: none
Main exports: readCounters, cacheCounters, TelemetryAgrees, consultedCounters, unreadCounters, Misread,
  boundedOutcome_eq, telemetry_agrees_iff
-/
import CachePilot.Proofs.UsageTotality
import CachePilot.Relay.Proxy

namespace CachePilot

/-! ### The recognised counters -/

/-- A number; NaN is none. -/
def Json.isNumber : Json → Bool
  | .int _ => true
  | .float .nan => false
  | .float _ => true
  | _ => false

/-- A positive number. -/
def Json.isPositive : Json → Bool
  | .int value => 0 < value
  | .float (.finite value) => 0 < value
  | .float .infinity => true
  | _ => false

/-- The recognised cache-read counters of a usage object, under each of their names. -/
def readCounters : Json → List Json
  | .obj usage =>
      (match getOrNull usage "prompt_tokens_details" with
        | .obj details => (getMember details "cached_tokens").toList
        | _ => []) ++
      (getMember usage "cache_read_input_tokens").toList ++ (getMember usage "cache_read_tokens").toList
  | _ => []

/-- The recognised cache counters of a usage object. -/
def cacheCounters : Json → List Json
  | .obj usage => readCounters (.obj usage) ++ (getMember usage "cache_creation_input_tokens").toList
  | _ => []

/-- The outcome says what the counters say: a hit exactly when some read counter is positive, and a miss only when
    some cache counter is a number and no read counter is positive. -/
structure TelemetryAgrees (outcome : Option Outcome) (usage : Json) : Prop where
  hit : outcome = some .confirmedHit ↔ ∃ c ∈ readCounters usage, c.isPositive = true
  miss : outcome = some .missRebuilt →
    (∃ c ∈ cacheCounters usage, c.isNumber = true) ∧ ¬ ∃ c ∈ readCounters usage, c.isPositive = true

/-! ### The counters that are read -/

/-- A number of at least one. -/
def Json.isWhole : Json → Bool
  | .int value => 0 < value
  | .float (.finite value) => 1 ≤ value
  | _ => false

/-- A positive number below one. -/
def Json.isFraction : Json → Bool
  | .float (.finite value) => 0 < value ∧ value < 1
  | _ => false

/-- No number, but it counts at least one: true, or a text that reads as a positive integer. -/
def Json.poses (text : NumberText) : Json → Bool
  | .bool value => value
  | .str value => 0 < (text.parseInt value).getD 0
  | _ => false

/-- The cached tokens of the prompt details, when they are there. -/
def detailsCounters (usage : List (String × Json)) : List Json :=
  match getOrNull usage "prompt_tokens_details" with
  | .obj details => (getMember details "cached_tokens").toList
  | _ => []

/-- The read counters under the names that the dialect of the provider reads. -/
def consultedCounters (provider : Option String) (usage : List (String × Json)) : List Json :=
  if UsageNormalizer.isAnthropic provider then (getMember usage "cache_read_input_tokens").toList
  else detailsCounters usage ++ (getMember usage "cache_read_input_tokens").toList

/-- The read counters under the other names. -/
def unreadCounters (provider : Option String) (usage : List (String × Json)) : List Json :=
  if UsageNormalizer.isAnthropic provider then
    detailsCounters usage ++ (getMember usage "cache_read_tokens").toList
  else (getMember usage "cache_read_tokens").toList

/-- No counter that the dialect reads is a number of at least one or passes for one. -/
def Silent (text : NumberText) (provider : Option String) (usage : List (String × Json)) : Prop :=
  ∀ c ∈ consultedCounters provider usage, c.isWhole = false ∧ c.poses text = false

instance (text : NumberText) (provider : Option String) (usage : List (String × Json)) :
    Decidable (Silent text provider usage) :=
  List.decidableBAll _ _

/-- The usage objects whose counters are misread. -/
inductive Misread (text : NumberText) (provider : Option String) (usage : List (String × Json)) : Prop where
  /-- A field makes the normaliser fail on a positive counter. -/
  | raised (unreadable : ¬ Readable text provider (consultedFields text provider usage))
      (positive : ∃ c ∈ readCounters (.obj usage), c.isPositive = true)
  /-- A positive counter stands only under a name that the dialect does not read. -/
  | unread (silent : Silent text provider usage) (positive : ∃ c ∈ unreadCounters provider usage, c.isPositive = true)
  /-- A counter below one is cut to zero. -/
  | fraction (silent : Silent text provider usage) (below : ∃ c ∈ consultedCounters provider usage, c.isFraction = true)
  /-- What passes for a number is counted, and no read counter is positive. -/
  | posing (readable : Readable text provider (consultedFields text provider usage))
      (posed : ∃ c ∈ consultedCounters provider usage, c.poses text = true)
      (none : ∀ c ∈ readCounters (.obj usage), c.isPositive = false)
  /-- There are cache keys, and under none of them is a number. -/
  | unnumbered (readable : Readable text provider (consultedFields text provider usage))
      (silent : Silent text provider usage) (present : cacheCounters (.obj usage) ≠ [])
      (none : ∀ c ∈ cacheCounters (.obj usage), c.isNumber = false)

variable {text : NumberText} {usage : List (String × Json)}

theorem truncate_pos_iff (q : ℚ) : 0 < truncate q ↔ 1 ≤ q := by
  unfold truncate
  by_cases nonneg : 0 ≤ q
  · rw [if_pos nonneg, Int.floor_pos]
  · rw [if_neg nonneg, Int.ceil_pos]
    constructor
    · intro pos
      exact absurd pos.le nonneg
    · intro whole
      exact absurd (zero_le_one.trans whole) nonneg

/-- What counts is a number of at least one or passes for one. -/
theorem count_pos_iff (c : Json) : 0 < c.count text ↔ c.isWhole = true ∨ c.poses text = true := by
  cases c with
  | bool value => cases value <;> simp [Json.count, Json.isWhole, Json.poses]
  | int value => simp [Json.count, Json.isWhole, Json.poses]
  | float value =>
      cases value with
      | finite q => simp [Json.count, Json.isWhole, Json.poses, truncate_pos_iff]
      | _ => simp [Json.count, Json.isWhole, Json.poses]
  | str value => simp [Json.count, Json.isWhole, Json.poses]
  | _ => simp [Json.count, Json.isWhole, Json.poses]

/-- A positive number counts, or is below one, or is infinite. -/
theorem isPositive_iff (c : Json) :
    c.isPositive = true ↔ c.isWhole = true ∨ c.isFraction = true ∨ c = .float .infinity := by
  cases c with
  | float value =>
      cases value with
      | finite q =>
          simp only [Json.isPositive, Json.isWhole, Json.isFraction, decide_eq_true_eq, Json.float.injEq,
            reduceCtorEq, or_false]
          constructor
          · intro pos
            exact (le_or_gt 1 q).imp_right fun below => ⟨pos, below⟩
          · rintro (whole | ⟨pos, -⟩)
            · exact zero_lt_one.trans_le whole
            · exact pos
      | _ => simp [Json.isPositive, Json.isWhole, Json.isFraction]
  | _ => simp [Json.isPositive, Json.isWhole, Json.isFraction]

/-- The dialect reads some of the read counters. -/
theorem mem_readCounters_iff (provider : Option String) {c : Json} :
    c ∈ readCounters (.obj usage) ↔
      c ∈ consultedCounters provider usage ∨ c ∈ unreadCounters provider usage := by
  have all : readCounters (.obj usage) = detailsCounters usage ++
      (getMember usage "cache_read_input_tokens").toList ++ (getMember usage "cache_read_tokens").toList := rfl
  rw [all, consultedCounters, unreadCounters]
  split
  · simp only [List.mem_append]
    tauto
  · simp only [List.mem_append]

/-- A counter that is there is what is read under its name. -/
theorem getOrNull_of_mem {members : List (String × Json)} {key : String} {c : Json}
    (there : c ∈ (getMember members key).toList) : getOrNull members key = c := by
  rw [Option.mem_toList] at there
  rw [getOrNull, Option.mem_def.1 there]
  rfl

/-- The cached tokens of the prompt details are looked up in an object, or there are none. -/
theorem details_cases (usage : List (String × Json)) :
    (∃ details, detailsCachedTokens usage = getOrNull details "cached_tokens" ∧
        detailsCounters usage = (getMember details "cached_tokens").toList) ∨
      detailsCachedTokens usage = .null ∧ detailsCounters usage = [] := by
  unfold detailsCachedTokens detailsCounters
  cases getOrNull usage "prompt_tokens_details" with
  | obj details => exact Or.inl ⟨details, rfl, rfl⟩
  | _ => exact Or.inr ⟨rfl, rfl⟩

theorem detailsCachedTokens_of_mem {c : Json} (there : c ∈ detailsCounters usage) : detailsCachedTokens usage = c := by
  obtain ⟨details, read, present⟩ | ⟨-, absent⟩ := details_cases usage
  · rw [present] at there
    rw [read, getOrNull_of_mem there]
  · rw [absent] at there
    cases there

/-- What counts under a name is there. -/
theorem mem_of_count {members : List (String × Json)} {key : String}
    (counts : 0 < (getOrNull members key).count text) : getOrNull members key ∈ (getMember members key).toList := by
  rw [Option.mem_toList]
  unfold getOrNull at counts ⊢
  cases found : getMember members key with
  | none => simp [found, Json.count] at counts
  | some c => rfl

theorem mem_detailsCounters_of_count (counts : 0 < (detailsCachedTokens usage).count text) :
    detailsCachedTokens usage ∈ detailsCounters usage := by
  obtain ⟨details, read, present⟩ | ⟨read, -⟩ := details_cases usage
  · rw [read] at counts ⊢
    rw [present]
    exact mem_of_count counts
  · rw [read] at counts
    cases counts

variable {provider : Option String}

/-- The first dialect reads its one name; the generic one reads the second name when the first counts zero. -/
theorem consultedFields_read :
    (consultedFields text provider usage).read =
      if UsageNormalizer.isAnthropic provider then getOrNull usage "cache_read_input_tokens"
      else if (detailsCachedTokens usage).isInfinite = false ∧ (detailsCachedTokens usage).count text = 0 then
        getOrNull usage "cache_read_input_tokens"
      else detailsCachedTokens usage := by
  unfold consultedFields
  split <;> rfl

/-- A counter that the dialect reads is the one whose count is taken, or a first one that counts zero, or it stands
    behind a first one that counts. -/
theorem consulted_cases (readable : Readable text provider (consultedFields text provider usage)) {c : Json}
    (there : c ∈ consultedCounters provider usage) :
    c = (consultedFields text provider usage).read ∨ c.isInfinite = false ∧ c.count text = 0 ∨
      0 < (consultedFields text provider usage).read.count text := by
  have finite := readable.finite.2.2.1
  have nonneg := readable.read
  rw [consultedFields_read] at finite nonneg ⊢
  unfold consultedCounters at there
  split at there
  · rename_i anthropic
    rw [if_pos anthropic]
    exact Or.inl (getOrNull_of_mem there).symm
  · rename_i generic
    rw [if_neg generic] at finite nonneg ⊢
    split
    · rename_i zero
      rcases List.mem_append.1 there with there | there
      · rw [detailsCachedTokens_of_mem there] at zero
        exact Or.inr (Or.inl zero)
      · exact Or.inl (getOrNull_of_mem there).symm
    · rename_i counted
      rw [if_neg counted] at finite nonneg
      rcases List.mem_append.1 there with there | there
      · exact Or.inl (detailsCachedTokens_of_mem there).symm
      · exact Or.inr (Or.inr (lt_of_le_of_ne nonneg fun zero => counted ⟨finite, zero.symm⟩))

/-- A count that is taken comes from a counter that the dialect reads. -/
theorem read_mem_of_count (counts : 0 < (consultedFields text provider usage).read.count text) :
    (consultedFields text provider usage).read ∈ consultedCounters provider usage := by
  rw [consultedFields_read] at counts ⊢
  unfold consultedCounters
  split at counts
  · rename_i anthropic
    rw [if_pos anthropic, if_pos anthropic]
    exact mem_of_count counts
  · rename_i generic
    rw [if_neg generic, if_neg generic]
    split at counts
    · rename_i zero
      rw [if_pos zero]
      exact List.mem_append_right _ (mem_of_count counts)
    · rename_i counted
      rw [if_neg counted]
      exact List.mem_append_left _ (mem_detailsCounters_of_count counts)

/-- A readable usage counts tokens as read exactly when one of the counters that the dialect reads counts. -/
theorem read_pos_iff (readable : Readable text provider (consultedFields text provider usage)) :
    0 < (consultedFields text provider usage).read.count text ↔ ¬ Silent text provider usage := by
  constructor
  · intro counts silent
    have zero := silent _ (read_mem_of_count counts)
    rcases (count_pos_iff _).1 counts with whole | posed
    · exact absurd whole (by simp [zero.1])
    · exact absurd posed (by simp [zero.2])
  · intro heard
    obtain ⟨c, there, counts⟩ : ∃ c ∈ consultedCounters provider usage, 0 < c.count text := by
      by_contra none
      push Not at none
      refine heard fun c there => ?_
      have zero := mt (count_pos_iff c).2 (none c there).not_gt
      rwa [not_or, Bool.not_eq_true, Bool.not_eq_true] at zero
    rcases consulted_cases readable there with rfl | ⟨-, zero⟩ | read
    · exact counts
    · exact absurd counts zero.not_gt
    · exact read

/-- Where the dialect finds nothing that counts, a positive counter that it reads is below one. -/
theorem isFraction_of_silent (readable : Readable text provider (consultedFields text provider usage))
    (silent : Silent text provider usage) {c : Json} (there : c ∈ consultedCounters provider usage)
    (positive : c.isPositive = true) : c.isFraction = true := by
  rcases (isPositive_iff c).1 positive with whole | fraction | rfl
  · exact absurd whole (by simp [(silent c there).1])
  · exact fraction
  · have finite := readable.finite.2.2.1
    rcases consulted_cases readable there with read | ⟨finite, -⟩ | counts
    · rw [← read] at finite
      cases finite
    · cases finite
    · exact absurd silent ((read_pos_iff readable).1 counts)

/-! ### The detector -/

/-- A usage object carries telemetry exactly when one of the recognised cache counters is there. -/
theorem usageHasCacheTelemetry_obj_iff :
    usageHasCacheTelemetry (.obj usage) = true ↔ cacheCounters (.obj usage) ≠ [] := by
  have there : ∀ (members : List (String × Json)) (key : String),
      key ∈ memberKeys members ↔ (getMember members key).toList ≠ [] := by
    intro members key
    rw [mem_memberKeys_iff]
    cases getMember members key <;> simp
  have all : cacheCounters (.obj usage) = detailsCounters usage ++
      (getMember usage "cache_read_input_tokens").toList ++ (getMember usage "cache_read_tokens").toList ++
      (getMember usage "cache_creation_input_tokens").toList := rfl
  rw [usageHasCacheTelemetry.eq_1, Bool.or_eq_true, all, detailsCounters]
  simp only [telemetryKeys, List.any_cons, List.any_nil, Bool.or_false, Bool.or_eq_true, decide_eq_true_eq, there,
    ne_eq, List.append_eq_nil_iff, not_and_or]
  cases getOrNull usage "prompt_tokens_details" with
  | obj details =>
      simp only [telemetryDetailsKeys, List.any_cons, List.any_nil, Bool.or_false, decide_eq_true_eq]
      tauto
  | _ =>
      simp only [Bool.false_eq_true, or_false, not_true_eq_false, false_or]
      tauto

/-- A counter that is read and counts is detected. -/
theorem telemetry_of_counts (counts : 0 < (consultedFields text provider usage).read.count text) :
    usageHasCacheTelemetry (.obj usage) = true := by
  rw [usageHasCacheTelemetry_obj_iff]
  have there := (mem_readCounters_iff provider).2 (Or.inl (read_mem_of_count counts))
  exact List.ne_nil_of_mem (List.mem_append_left _ there)

/-! ### The outcome -/

section Outcomes

variable {provider : String}

/-- The outcome of a successful response with a usage object. -/
theorem boundedOutcome_eq {payload : Option (List (String × Json))} {statusCode : ℕ}
    (success : 200 ≤ statusCode ∧ statusCode < 300)
    (object : UsageNormalizer.usageOf (payload.elim .null .obj) = .obj usage) {outcome : Outcome} :
    boundedOutcome text provider statusCode payload = some outcome ↔
      Readable text (some provider) (consultedFields text (some provider) usage) ∧
        outcome = classifyOutcome statusCode (usageHasCacheTelemetry (.obj usage))
          ((consultedFields text (some provider) usage).read.count text).toNat := by
  simp only [boundedOutcome, if_pos success, readBody, Option.bind_eq_some_iff, Option.map_eq_some_iff,
    normalize_obj_eq_some_iff object, object, observeBounded, Option.some.injEq]
  constructor
  · rintro ⟨_, ⟨_, ⟨readable, rfl⟩, rfl⟩, rfl⟩
    exact ⟨readable, rfl⟩
  · rintro ⟨readable, rfl⟩
    exact ⟨_, ⟨_, ⟨readable, rfl⟩, rfl⟩, rfl⟩

/-- The outcome of a successful response without one. -/
theorem boundedOutcome_of_no_object {payload : Option (List (String × Json))} {statusCode : ℕ}
    (success : 200 ≤ statusCode ∧ statusCode < 300)
    (none : ∀ usage, UsageNormalizer.usageOf (payload.elim .null .obj) ≠ .obj usage) :
    boundedOutcome text provider statusCode payload = some .successUnverified := by
  have silent : usageHasCacheTelemetry (UsageNormalizer.usageOf (payload.elim .null .obj)) = false := by
    unfold usageHasCacheTelemetry
    split
    · rename_i usage object
      exact absurd object (none usage)
    · rfl
  simp [boundedOutcome, success, readBody, normalize_of_no_object none, observeBounded, silent, classifyOutcome]

theorem classifyOutcome_hit_iff {statusCode : ℕ} (success : 200 ≤ statusCode ∧ statusCode < 300)
    (telemetry : Bool) (read : ℕ) :
    classifyOutcome statusCode telemetry read = .confirmedHit ↔ telemetry = true ∧ 0 < read := by
  cases telemetry with
  | false => simp [classifyOutcome, success]
  | true => by_cases counted : 0 < read <;> simp [classifyOutcome, success, counted]

theorem classifyOutcome_miss_iff {statusCode : ℕ} (success : 200 ≤ statusCode ∧ statusCode < 300)
    (telemetry : Bool) (read : ℕ) :
    classifyOutcome statusCode telemetry read = .missRebuilt ↔ telemetry = true ∧ ¬ 0 < read := by
  cases telemetry with
  | false => simp [classifyOutcome, success]
  | true => by_cases counted : 0 < read <;> simp [classifyOutcome, success, counted]

/-- A positive counter that is not misread is read. -/
theorem heard_of_positive (right : ¬ Misread text (some provider) usage)
    (positive : ∃ c ∈ readCounters (.obj usage), c.isPositive = true) :
    Readable text (some provider) (consultedFields text (some provider) usage) ∧
      ¬ Silent text (some provider) usage := by
  have readable := not_not.1 fun unreadable => right (.raised unreadable positive)
  refine ⟨readable, fun silent => right ?_⟩
  obtain ⟨c, known, positive⟩ := positive
  rcases (mem_readCounters_iff (some provider)).1 known with there | there
  · exact .fraction silent ⟨c, there, isFraction_of_silent readable silent there positive⟩
  · exact .unread silent ⟨c, there, positive⟩

/-- Where something counts and is not misread, a read counter is positive. -/
theorem positive_of_heard (right : ¬ Misread text (some provider) usage)
    (readable : Readable text (some provider) (consultedFields text (some provider) usage))
    (heard : ¬ Silent text (some provider) usage) : ∃ c ∈ readCounters (.obj usage), c.isPositive = true := by
  by_contra none
  push Not at none
  simp only [ne_eq, Bool.not_eq_true] at none
  refine heard fun c there => ?_
  have known := none c ((mem_readCounters_iff (some provider)).2 (Or.inl there))
  constructor
  · by_contra whole
    exact absurd ((isPositive_iff c).2 (Or.inl (Bool.not_eq_false _ ▸ whole))) (by simp [known])
  · by_contra posed
    exact right (.posing readable ⟨c, there, Bool.not_eq_false _ ▸ posed⟩ none)

section UsageObject

variable {payload : Option (List (String × Json))} {statusCode : ℕ}
  (success : 200 ≤ statusCode ∧ statusCode < 300)
  (object : UsageNormalizer.usageOf (payload.elim .null .obj) = .obj usage)

include success object

/-- A hit is a readable payload with a counter that counts under a name of the dialect. -/
theorem boundedOutcome_hit_iff :
    boundedOutcome text provider statusCode payload = some .confirmedHit ↔
      Readable text (some provider) (consultedFields text (some provider) usage) ∧
        ¬ Silent text (some provider) usage := by
  rw [boundedOutcome_eq success object, eq_comm (a := Outcome.confirmedHit), classifyOutcome_hit_iff success,
    Int.lt_toNat, Nat.cast_zero]
  refine and_congr_right fun readable => ?_
  rw [← read_pos_iff readable]
  exact and_iff_right_of_imp telemetry_of_counts

/-- A miss is one with telemetry but without such a counter. -/
theorem boundedOutcome_miss_iff :
    boundedOutcome text provider statusCode payload = some .missRebuilt ↔
      Readable text (some provider) (consultedFields text (some provider) usage) ∧
        cacheCounters (.obj usage) ≠ [] ∧ Silent text (some provider) usage := by
  rw [boundedOutcome_eq success object, eq_comm (a := Outcome.missRebuilt), classifyOutcome_miss_iff success,
    Int.lt_toNat, Nat.cast_zero, usageHasCacheTelemetry_obj_iff]
  refine and_congr_right fun readable => ?_
  rw [read_pos_iff readable, not_not]

/-- Each kind that is misread takes a hit or a miss away from its counters. -/
theorem not_misread_of_agrees
    (agrees : TelemetryAgrees (boundedOutcome text provider statusCode payload) (.obj usage)) :
    ¬ Misread text (some provider) usage := by
  have readable_heard : ∀ c ∈ readCounters (.obj usage), c.isPositive = true →
      Readable text (some provider) (consultedFields text (some provider) usage) ∧
        ¬ Silent text (some provider) usage :=
    fun c known positive => (boundedOutcome_hit_iff success object).1 (agrees.hit.2 ⟨c, known, positive⟩)
  intro misread
  cases misread with
  | raised unreadable positive =>
      obtain ⟨c, known, positive⟩ := positive
      exact unreadable (readable_heard c known positive).1
  | unread silent positive =>
      obtain ⟨c, there, positive⟩ := positive
      have known := (mem_readCounters_iff (some provider)).2 (Or.inr there)
      exact (readable_heard c known positive).2 silent
  | fraction silent below =>
      obtain ⟨c, there, below⟩ := below
      have known := (mem_readCounters_iff (some provider)).2 (Or.inl there)
      exact (readable_heard c known ((isPositive_iff c).2 (Or.inr (Or.inl below)))).2 silent
  | posing readable posed none =>
      obtain ⟨c, there, posed⟩ := posed
      have heard : ¬ Silent text (some provider) usage := by
        intro silent
        exact absurd posed (by simp [(silent c there).2])
      obtain ⟨c, known, positive⟩ :=
        agrees.hit.1 ((boundedOutcome_hit_iff success object).2 ⟨readable, heard⟩)
      exact absurd positive (by simp [none c known])
  | unnumbered readable silent present none =>
      obtain ⟨c, known, number⟩ :=
        (agrees.miss ((boundedOutcome_miss_iff success object).2 ⟨readable, present, silent⟩)).1
      exact absurd number (by simp [none c known])

/-- For a usage object the outcome says what the counters say exactly when it is of none of the misread kinds. -/
theorem telemetryAgrees_obj_iff :
    TelemetryAgrees (boundedOutcome text provider statusCode payload) (.obj usage) ↔
      ¬ Misread text (some provider) usage := by
  refine ⟨not_misread_of_agrees success object, fun right => ⟨?_, ?_⟩⟩
  · rw [boundedOutcome_hit_iff success object]
    exact ⟨fun hit => positive_of_heard right hit.1 hit.2, heard_of_positive right⟩
  · intro missed
    obtain ⟨readable, present, silent⟩ := (boundedOutcome_miss_iff success object).1 missed
    refine ⟨?_, fun positive => (heard_of_positive right positive).2 silent⟩
    by_contra none
    push Not at none
    simp only [ne_eq, Bool.not_eq_true] at none
    exact right (.unnumbered readable silent present none)

end UsageObject

end Outcomes

/-- The outcome of a successful response says what its cache counters say exactly when its usage object is of none of
    the kinds that are misread. -/
theorem telemetry_agrees_iff (text : NumberText) (provider : String) {statusCode : ℕ}
    (success : 200 ≤ statusCode ∧ statusCode < 300) (payload : Option (List (String × Json))) :
    TelemetryAgrees (boundedOutcome text provider statusCode payload)
        (UsageNormalizer.usageOf (payload.elim .null .obj)) ↔
      ∀ usage, UsageNormalizer.usageOf (payload.elim .null .obj) = .obj usage →
        ¬ Misread text (some provider) usage := by
  by_cases object : ∃ usage, UsageNormalizer.usageOf (payload.elim .null .obj) = .obj usage
  · obtain ⟨usage, object⟩ := object
    rw [object, telemetryAgrees_obj_iff success object]
    constructor
    · rintro right _ ⟨⟩
      exact right
    · intro right
      exact right usage rfl
  · have none : ∀ usage, UsageNormalizer.usageOf (payload.elim .null .obj) ≠ .obj usage :=
      fun usage found => object ⟨usage, found⟩
    have empty : readCounters (UsageNormalizer.usageOf (payload.elim .null .obj)) = [] := by
      unfold readCounters
      split
      · rename_i usage found
        exact absurd found (none usage)
      · rfl
    rw [boundedOutcome_of_no_object success none]
    constructor
    · intro agrees usage found
      exact absurd found (none usage)
    · intro right
      refine ⟨?_, ?_⟩
      · simp [empty]
      · intro missed
        cases missed

/-- A usage whose cached tokens stand under the name that the generic dialect reads. -/
def sampleCachedUsage : List (String × Json) :=
  [("prompt_tokens", .int 1200), ("prompt_tokens_details", .obj [("cached_tokens", .int 1100)])]

/-- The same, under the generic name that only the detector knows. -/
def sampleUnreadUsage : List (String × Json) := [("prompt_tokens", .int 1200), ("cache_read_tokens", .int 1100)]

/-- The first is a hit. -/
theorem telemetry_agrees_sample :
    TelemetryAgrees (boundedOutcome sampleNumberText "openai" 200 (some [("usage", .obj sampleCachedUsage)]))
      (.obj sampleCachedUsage) := by
  have readable : Readable sampleNumberText (some "openai")
      (consultedFields sampleNumberText (some "openai") sampleCachedUsage) :=
    ⟨by decide +kernel, by decide +kernel, by decide +kernel, by decide +kernel, by decide +kernel, by decide +kernel⟩
  have heard : ¬ Silent sampleNumberText (some "openai") sampleCachedUsage := by decide +kernel
  have right : ¬ Misread sampleNumberText (some "openai") sampleCachedUsage := by
    intro misread
    cases misread with
    | raised unreadable => exact unreadable readable
    | unread silent => exact heard silent
    | fraction silent => exact heard silent
    | posing _ _ none => exact absurd none (by decide +kernel)
    | unnumbered _ silent => exact heard silent
  refine (telemetry_agrees_iff sampleNumberText "openai" (by decide)
    (some [("usage", .obj sampleCachedUsage)])).2 ?_
  rintro usage ⟨⟩
  exact right

/-- The second is taken for a miss, and so is a usage whose only cache field is null. -/
theorem unread_hit_taken_for_miss :
    (¬ ∀ text provider payload, TelemetryAgrees (boundedOutcome text provider 200 payload)
      (UsageNormalizer.usageOf (payload.elim .null .obj))) ∧
    boundedOutcome sampleNumberText "openai" 200 (some [("usage", .obj sampleUnreadUsage)]) = some .missRebuilt ∧
    (∃ c ∈ readCounters (.obj sampleUnreadUsage), c.isPositive = true) ∧
    boundedOutcome sampleNumberText "anthropic" 200
      (some [("usage", .obj [("cache_read_input_tokens", .null)])]) = some .missRebuilt ∧
    ¬ ∃ c ∈ cacheCounters (.obj [("cache_read_input_tokens", .null)]), c.isNumber = true := by
  have missed : boundedOutcome sampleNumberText "openai" 200 (some [("usage", .obj sampleUnreadUsage)]) =
      some .missRebuilt := by
    decide +kernel
  have positive : ∃ c ∈ readCounters (.obj sampleUnreadUsage), c.isPositive = true := by decide +kernel
  refine ⟨?_, missed, positive, by decide +kernel, by decide +kernel⟩
  intro always
  have agrees := always sampleNumberText "openai" (some [("usage", .obj sampleUnreadUsage)])
  exact (agrees.miss missed).2 positive

end CachePilot
