/-
Module: CachePilot.Proofs.UsageTotality
Layer: Proofs
Purpose: When the usage normaliser returns. It reads four counters and a cost, which ones depends on the dialect; it
  returns exactly when none of these counters is an infinite float, none of the resulting counts is negative, and
  the cost does not read as NaN or as infinite. What it returns then counts zero wherever a field is unusable.
Trusted boundary: none
Main exports: Json.count, Json.isInfinite, UsageFields, consultedFields, Readable, normalize_fields_eq_some_iff,
  normalize_returns_iff
-/
import CachePilot.Core.Usage

namespace CachePilot

/-! ### Conversions -/

def Json.isInfinite : Json → Bool
  | .float .infinity => true
  | .float .negInfinity => true
  | _ => false

/-- What a value counts as; an unusable one counts zero. -/
def Json.count (text : NumberText) : Json → ℤ
  | .bool value => if value then 1 else 0
  | .int value => value
  | .float (.finite value) => truncate value
  | .str value => (text.parseInt value).getD 0
  | _ => 0

variable {text : NumberText}

/-- Only an infinite float does not convert. -/
theorem toInt_eq_some_iff {c : Json} {n : ℤ} :
    toInt text c = some n ↔ c.isInfinite = false ∧ n = c.count text := by
  cases c with
  | float value =>
      cases value with
      | finite q => simp [toInt, Json.isInfinite, Json.count, eq_comm]
      | infinity => simp [toInt, Json.isInfinite]
      | negInfinity => simp [toInt, Json.isInfinite]
      | nan => simp [toInt, Json.isInfinite, Json.count, eq_comm]
  | null => simp [toInt, Json.isInfinite, Json.count, eq_comm]
  | bool value => simp [toInt, Json.isInfinite, Json.count, eq_comm]
  | int value => simp [toInt, Json.isInfinite, Json.count, eq_comm]
  | str value => simp [toInt, Json.isInfinite, Json.count, eq_comm]
  | arr items => simp [toInt, Json.isInfinite, Json.count, eq_comm]
  | obj members => simp [toInt, Json.isInfinite, Json.count, eq_comm]

/-- The value of a decimal that is finite. -/
def JsonFloat.finite? : JsonFloat → Option ℚ
  | .finite value => some value
  | _ => none

theorem nonNegative_eq_some_iff {value : ℤ} {n : ℕ} :
    nonNegative value = some n ↔ 0 ≤ value ∧ n = value.toNat := by
  unfold nonNegative
  by_cases nonneg : 0 ≤ value
  · simp [nonneg, eq_comm]
  · simp [nonneg]

theorem finiteCost_eq_some_iff {cost : Option JsonFloat} {amount : Option ℚ} :
    finiteCost cost = some amount ↔
      (∀ d ∈ cost, d.finite?.isSome = true) ∧ amount = cost.bind JsonFloat.finite? := by
  cases cost with
  | none =>
      rw [finiteCost, Option.some.injEq]
      simp only [Option.not_mem_none, false_imp_iff, implies_true, true_and, Option.bind_none]
      exact eq_comm
  | some d =>
      cases d with
      | finite q =>
          rw [finiteCost, Option.some.injEq]
          simp only [Option.mem_some_iff, forall_eq', JsonFloat.finite?, Option.isSome_some, true_and,
            Option.bind_some]
          exact eq_comm
      | infinity => simp [finiteCost, JsonFloat.finite?]
      | negInfinity => simp [finiteCost, JsonFloat.finite?]
      | nan => simp [finiteCost, JsonFloat.finite?]

/-- A usage record is built from nonnegative counts and a finite cost. -/
theorem build_eq_some_iff {prompt completion read write : ℤ} {cost : Option JsonFloat} {u : TokenUsage} :
    TokenUsage.build prompt completion read write cost = some u ↔
      (0 ≤ prompt ∧ 0 ≤ completion ∧ 0 ≤ read ∧ 0 ≤ write ∧ ∀ d ∈ cost, d.finite?.isSome = true) ∧
        u = { promptTokens := prompt.toNat, completionTokens := completion.toNat, cacheReadTokens := read.toNat
              cacheWriteTokens := write.toNat, cost := cost.bind JsonFloat.finite? } := by
  simp only [TokenUsage.build, Option.bind_eq_bind, Option.bind_eq_some_iff, nonNegative_eq_some_iff,
    finiteCost_eq_some_iff, Option.pure_def, Option.some.injEq]
  constructor
  · rintro ⟨_, ⟨prompt, rfl⟩, _, ⟨completion, rfl⟩, _, ⟨read, rfl⟩, _, ⟨write, rfl⟩, _, ⟨finite, rfl⟩, rfl⟩
    exact ⟨⟨prompt, completion, read, write, finite⟩, rfl⟩
  · rintro ⟨⟨prompt, completion, read, write, finite⟩, rfl⟩
    exact ⟨_, ⟨prompt, rfl⟩, _, ⟨completion, rfl⟩, _, ⟨read, rfl⟩, _, ⟨write, rfl⟩, _, ⟨finite, rfl⟩, rfl⟩

/-! ### The fields that are read -/

/-- The fields of a usage object that a dialect reads. -/
structure UsageFields where
  input : Json
  output : Json
  read : Json
  write : Json
  cost : Json

/-- The cached tokens of the prompt details. -/
def detailsCachedTokens (usage : List (String × Json)) : Json :=
  match getOrNull usage "prompt_tokens_details" with
  | .obj details => getOrNull details "cached_tokens"
  | _ => .null

/-- The fields that are read for a provider. The generic dialect reads the cached tokens under the second name when
    the first count is zero. -/
def consultedFields (text : NumberText) (provider : Option String) (usage : List (String × Json)) :
    UsageFields :=
  let write := getOrNull usage "cache_creation_input_tokens"
  let cost := getOrNull usage "cost"
  if UsageNormalizer.isAnthropic provider then
    { input := getOrNull usage "input_tokens", output := getOrNull usage "output_tokens"
      read := getOrNull usage "cache_read_input_tokens", write, cost }
  else
    let details := detailsCachedTokens usage
    let read :=
      if details.isInfinite = false ∧ details.count text = 0 then getOrNull usage "cache_read_input_tokens"
      else details
    { input := getOrNull usage "prompt_tokens", output := getOrNull usage "completion_tokens", read, write, cost }

namespace UsageFields

/-- The prompt tokens; the first dialect does not count the cached ones among its input tokens. -/
def promptTokens (text : NumberText) (provider : Option String) (fields : UsageFields) : ℤ :=
  if UsageNormalizer.isAnthropic provider then
    fields.input.count text + fields.read.count text + fields.write.count text
  else fields.input.count text

/-- The usage record of the fields. -/
def usage (text : NumberText) (provider : Option String) (fields : UsageFields) : TokenUsage where
  promptTokens := (fields.promptTokens text provider).toNat
  completionTokens := (fields.output.count text).toNat
  cacheReadTokens := (fields.read.count text).toNat
  cacheWriteTokens := (fields.write.count text).toNat
  cost := (toDecimal text fields.cost).bind JsonFloat.finite?

end UsageFields

/-- The fields make up a usage record: no counter is infinite, no count is negative, the cost is finite. -/
structure Readable (text : NumberText) (provider : Option String) (fields : UsageFields) : Prop where
  finite : fields.input.isInfinite = false ∧ fields.output.isInfinite = false ∧
    fields.read.isInfinite = false ∧ fields.write.isInfinite = false
  prompt : 0 ≤ fields.promptTokens text provider
  output : 0 ≤ fields.output.count text
  read : 0 ≤ fields.read.count text
  write : 0 ≤ fields.write.count text
  cost : ∀ d ∈ toDecimal text fields.cost, d.finite?.isSome = true

variable {provider : Option String} {usage : List (String × Json)} {u : TokenUsage}

theorem normalizeAnthropic_eq_some_iff (anthropic : UsageNormalizer.isAnthropic provider = true) :
    UsageNormalizer.normalizeAnthropic text usage = some u ↔
      Readable text provider (consultedFields text provider usage) ∧
        u = (consultedFields text provider usage).usage text provider := by
  have fields : consultedFields text provider usage =
      { input := getOrNull usage "input_tokens", output := getOrNull usage "output_tokens"
        read := getOrNull usage "cache_read_input_tokens"
        write := getOrNull usage "cache_creation_input_tokens", cost := getOrNull usage "cost" } :=
    if_pos anthropic
  rw [fields]
  simp only [UsageNormalizer.normalizeAnthropic, Option.bind_eq_bind, Option.bind_eq_some_iff, toInt_eq_some_iff,
    build_eq_some_iff, UsageFields.usage, UsageFields.promptTokens, anthropic, if_true]
  constructor
  · rintro ⟨_, ⟨read, rfl⟩, _, ⟨write, rfl⟩, _, ⟨input, rfl⟩, _, ⟨output, rfl⟩, checks, rfl⟩
    obtain ⟨prompt, outputs, reads, writes, cost⟩ := checks
    refine ⟨⟨⟨input, output, read, write⟩, ?_, outputs, reads, writes, cost⟩, rfl⟩
    simpa only [UsageFields.promptTokens, anthropic, if_true] using prompt
  · rintro ⟨⟨⟨input, output, read, write⟩, prompt, outputs, reads, writes, cost⟩, rfl⟩
    simp only [UsageFields.promptTokens, anthropic, if_true] at prompt
    exact ⟨_, ⟨read, rfl⟩, _, ⟨write, rfl⟩, _, ⟨input, rfl⟩, _, ⟨output, rfl⟩,
      ⟨prompt, outputs, reads, writes, cost⟩, rfl⟩

/-- The count of the cached tokens is that of the field that is read for them. -/
theorem cachedTokens_eq_some_iff (generic : UsageNormalizer.isAnthropic provider = false) {n : ℤ} :
    UsageNormalizer.cachedTokens text usage = some n ↔
      (consultedFields text provider usage).read.isInfinite = false ∧
        n = (consultedFields text provider usage).read.count text := by
  have details : UsageNormalizer.detailsTokens text usage = toInt text (detailsCachedTokens usage) := by
    unfold UsageNormalizer.detailsTokens detailsCachedTokens
    cases getOrNull usage "prompt_tokens_details" <;> rfl
  simp only [UsageNormalizer.cachedTokens, details, Option.bind_eq_bind, Option.bind_eq_some_iff,
    toInt_eq_some_iff, consultedFields, generic, Bool.false_eq_true, if_false]
  by_cases zero : (detailsCachedTokens usage).isInfinite = false ∧ (detailsCachedTokens usage).count text = 0
  · rw [if_pos zero]
    constructor
    · rintro ⟨_, ⟨-, rfl⟩, fallback⟩
      rw [if_pos zero.2] at fallback
      exact toInt_eq_some_iff.1 fallback
    · intro fallback
      refine ⟨_, ⟨zero.1, rfl⟩, ?_⟩
      rw [if_pos zero.2]
      exact toInt_eq_some_iff.2 fallback
  · rw [if_neg zero]
    constructor
    · rintro ⟨_, ⟨finite, rfl⟩, kept⟩
      rw [if_neg fun counts => zero ⟨finite, counts⟩, Option.some.injEq] at kept
      exact ⟨finite, kept.symm⟩
    · rintro ⟨finite, rfl⟩
      refine ⟨_, ⟨finite, rfl⟩, ?_⟩
      rw [if_neg fun counts => zero ⟨finite, counts⟩]

theorem normalizeGeneric_eq_some_iff (generic : UsageNormalizer.isAnthropic provider = false) :
    UsageNormalizer.normalizeGeneric text usage = some u ↔
      Readable text provider (consultedFields text provider usage) ∧
        u = (consultedFields text provider usage).usage text provider := by
  have input : (consultedFields text provider usage).input = getOrNull usage "prompt_tokens" := by
    simp [consultedFields, generic]
  have output : (consultedFields text provider usage).output = getOrNull usage "completion_tokens" := by
    simp [consultedFields, generic]
  have write : (consultedFields text provider usage).write = getOrNull usage "cache_creation_input_tokens" := by
    simp [consultedFields, generic]
  have cost : (consultedFields text provider usage).cost = getOrNull usage "cost" := by
    simp [consultedFields, generic]
  have prompt : (consultedFields text provider usage).promptTokens text provider =
      (consultedFields text provider usage).input.count text := by
    simp [UsageFields.promptTokens, generic]
  simp only [UsageNormalizer.normalizeGeneric, Option.bind_eq_bind, Option.bind_eq_some_iff, toInt_eq_some_iff,
    build_eq_some_iff, cachedTokens_eq_some_iff generic, UsageFields.usage, prompt, ← input, ← output, ← write,
    ← cost]
  constructor
  · rintro ⟨_, ⟨read, rfl⟩, _, ⟨write, rfl⟩, _, ⟨input, rfl⟩, _, ⟨output, rfl⟩, checks, rfl⟩
    obtain ⟨prompts, outputs, reads, writes, costs⟩ := checks
    exact ⟨⟨⟨input, output, read, write⟩, prompt ▸ prompts, outputs, reads, writes, costs⟩, rfl⟩
  · rintro ⟨⟨⟨input, output, read, write⟩, prompts, outputs, reads, writes, costs⟩, rfl⟩
    exact ⟨_, ⟨read, rfl⟩, _, ⟨write, rfl⟩, _, ⟨input, rfl⟩, _, ⟨output, rfl⟩,
      ⟨prompt ▸ prompts, outputs, reads, writes, costs⟩, rfl⟩

/-- The normaliser returns the usage of the fields it reads exactly when they make up a usage record. -/
theorem normalize_obj_eq_some_iff {payload : Json} (object : UsageNormalizer.usageOf payload = .obj usage) :
    UsageNormalizer.normalize text payload provider = some u ↔
      Readable text provider (consultedFields text provider usage) ∧
        u = (consultedFields text provider usage).usage text provider := by
  simp only [UsageNormalizer.normalize, object]
  cases dialect : UsageNormalizer.isAnthropic provider with
  | true => exact normalizeAnthropic_eq_some_iff dialect
  | false => exact normalizeGeneric_eq_some_iff dialect

/-- A payload without a usage object has an empty usage. -/
theorem normalize_of_no_object {payload : Json} (none : ∀ usage, UsageNormalizer.usageOf payload ≠ .obj usage) :
    UsageNormalizer.normalize text payload provider = some {} := by
  unfold UsageNormalizer.normalize
  split
  · rename_i usage object
    exact absurd object (none usage)
  · rfl

/-- The normaliser returns exactly when the fields it reads make up a usage record; and what it returns counts zero,
    or has no cost, where a field is unusable. -/
theorem normalize_returns_iff (text : NumberText) (payload : Json) (provider : Option String) :
    ((∃ u, UsageNormalizer.normalize text payload provider = some u) ↔
        ∀ usage, UsageNormalizer.usageOf payload = .obj usage →
          Readable text provider (consultedFields text provider usage)) ∧
      ∀ u usage, UsageNormalizer.usageOf payload = .obj usage →
        UsageNormalizer.normalize text payload provider = some u →
          u = (consultedFields text provider usage).usage text provider := by
  constructor
  · constructor
    · rintro ⟨u, returned⟩ usage object
      exact ((normalize_obj_eq_some_iff object).1 returned).1
    · intro readable
      by_cases object : ∃ usage, UsageNormalizer.usageOf payload = .obj usage
      · obtain ⟨usage, object⟩ := object
        exact ⟨_, (normalize_obj_eq_some_iff object).2 ⟨readable usage object, rfl⟩⟩
      · exact ⟨_, normalize_of_no_object fun usage found => object ⟨usage, found⟩⟩
  · intro u usage object returned
    exact ((normalize_obj_eq_some_iff object).1 returned).2

/-- A usage payload with one field. -/
def sampleUsagePayload (field : String) (value : Json) : Json := .obj [("usage", .obj [(field, value)])]

/-- An infinite count, a negative count and a cost that is not a number each leave the normaliser with an
    exception, in both dialects. -/
theorem unusable_fields_raise :
    (¬ ∀ payload provider, ∃ u, UsageNormalizer.normalize sampleNumberText payload provider = some u) ∧
    UsageNormalizer.normalize sampleNumberText
      (sampleUsagePayload "cache_read_input_tokens" (.float .infinity)) (some "anthropic") = none ∧
    UsageNormalizer.normalize sampleNumberText
      (sampleUsagePayload "prompt_tokens" (.float .infinity)) (some "openai") = none ∧
    UsageNormalizer.normalize sampleNumberText (sampleUsagePayload "completion_tokens" (.int (-1))) none = none ∧
    UsageNormalizer.normalize sampleNumberText (sampleUsagePayload "cost" (.str "NaN")) (some "openrouter") =
      none := by
  refine ⟨?_, by decide +kernel, by decide +kernel, by decide +kernel, by decide +kernel⟩
  intro total
  obtain ⟨u, returned⟩ := total (sampleUsagePayload "prompt_tokens" (.float .infinity)) (some "openai")
  have raised : UsageNormalizer.normalize sampleNumberText
      (sampleUsagePayload "prompt_tokens" (.float .infinity)) (some "openai") = none := by decide +kernel
  rw [raised] at returned
  cases returned

end CachePilot
