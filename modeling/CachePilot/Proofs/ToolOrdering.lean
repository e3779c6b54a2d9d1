/-
Module: CachePilot.Proofs.ToolOrdering
Layer: Proofs
Purpose: What the tool-ordering view tells of two tool lists. The one digest identifies the list, the other one the
  set of its members: the separator occurs in no encoding, so the joined text can be split again. A pair of lists
  with the same members is taken for a permutation, also when a tool is repeated in one of them only, or when the
  one list is absent and the other empty; every other pair is counted for what it is.
Trusted boundary: none
Main exports: toolsSetText, toolsSetText_eq_iff, HashedTools, exactVerdict, PairCountedExactly,
  tool_ordering_exact_iff, repeated_tool_taken_for_permutation
-/
import CachePilot.Proofs.StoredTopology
import CachePilot.Proofs.TopologyAccounting

namespace CachePilot

open QuotedText CachePilot.Topology

/-! ### Encodings without a separator -/

/-- The separator of the tool-set digest does not occur in a text. -/
def Unseparated (text : List Char) : Prop := '\x1f' ∉ text

/-- No text of a float contains the separator. -/
def FloatsUnseparated (prims : TextPrimitives) : Prop := ∀ value, Unseparated (prims.floatRepr value).toList

instance : DecidablePred Unseparated := fun text => inferInstanceAs (Decidable ('\x1f' ∉ text))

theorem Unseparated.append {s t : List Char} (first : Unseparated s) (second : Unseparated t) :
    Unseparated (s ++ t) := by
  intro listed
  rcases List.mem_append.mp listed with front | back
  · exact first front
  · exact second back

theorem Unseparated.cons {c : Char} {text : List Char} (other : c ≠ '\x1f') (rest : Unseparated text) :
    Unseparated (c :: text) := by
  intro listed
  rcases List.mem_cons.mp listed with same | later
  · exact other same.symm
  · exact rest later

theorem unseparated_hexDigit (n : ℕ) : hexDigit n ≠ '\x1f' := by
  by_cases small : n < 16
  · interval_cases n <;> decide
  · have outside : hexDigit n = '0' := by
      rw [hexDigit, List.getD_eq_getElem?_getD, List.getElem?_eq_none (by simpa using small), Option.getD_none]
    rw [outside]
    decide

theorem unseparated_unitEscape (n : ℕ) : Unseparated (unitEscape n) := by
  have digits : ∀ m, Unseparated [hexDigit m] := fun m => .cons (unseparated_hexDigit m) (by decide)
  exact .append (s := ['\\', 'u']) (by decide)
    (.append (digits _) (.append (digits _) (.append (digits _) (digits _))))

/-- A control character is escaped. -/
theorem unseparated_escapeChar (c : Char) : Unseparated (escapeChar c) := by
  unfold escapeChar
  split_ifs with _ _ _ _ _ _ _ printable
  · decide
  · decide
  · decide
  · decide
  · decide
  · decide
  · decide
  · refine .cons ?_ (by decide)
    rintro rfl
    exact absurd printable.1 (by decide)
  · exact unseparated_unitEscape _
  · exact .append (unseparated_unitEscape _) (unseparated_unitEscape _)

theorem unseparated_quote (s : List Char) : Unseparated (quote s) := by
  refine .cons (by decide) (.append ?_ (by decide))
  intro listed
  obtain ⟨c, -, inside⟩ := List.mem_flatMap.mp listed
  exact unseparated_escapeChar c inside

theorem unseparated_joinWith {items : List (List Char)} (each : ∀ item ∈ items, Unseparated item) :
    Unseparated (joinWith [','] items) := by
  induction items with
  | nil => exact List.not_mem_nil
  | cons item rest ih =>
      rw [List.forall_mem_cons] at each
      cases rest with
      | nil => exact each.1
      | cons next later => exact (each.1.append (by decide)).append (ih each.2)

theorem unseparated_toString (value : ℤ) : Unseparated (toString value).toList := by
  have digits : ∀ n : ℕ, Unseparated n.repr.toList := by
    intro n listed
    rw [Nat.toList_repr] at listed
    have digit := Nat.isDigit_of_mem_toDigits (by decide) (by decide) listed
    exact absurd digit (by decide)
  cases value with
  | ofNat n => exact digits n
  | negSucc n =>
      have written : (toString (Int.negSucc n)).toList = '-' :: (n + 1).repr.toList := by
        change ("-" ++ (n + 1).repr).toList = _
        rw [String.toList_append]
        rfl
      rw [written]
      exact .cons (by decide) (digits (n + 1))

theorem unseparated_floatText {prims : TextPrimitives} (floats : FloatsUnseparated prims) (value : JsonFloat) :
    Unseparated (value.text prims.floatRepr) := by
  cases value with
  | finite value => exact floats value
  | infinity => exact (by decide : Unseparated "Infinity".toList)
  | negInfinity => exact (by decide : Unseparated "-Infinity".toList)
  | nan => exact (by decide : Unseparated "NaN".toList)

mutual

/-- The encoding of a value does not contain the separator. -/
theorem unseparated_dumpChars {prims : TextPrimitives} (floats : FloatsUnseparated prims) :
    ∀ value, Unseparated (dumpChars prims.floatRepr value)
  | .null => (by decide : Unseparated "null".toList)
  | .bool true => (by decide : Unseparated "true".toList)
  | .bool false => (by decide : Unseparated "false".toList)
  | .int value => unseparated_toString value
  | .float value => unseparated_floatText floats value
  | .str value => unseparated_quote value.toList
  | .arr items => by
      rw [dumpChars]
      exact .cons (by decide) ((unseparated_joinWith (unseparated_dumpItems floats items)).append (by decide))
  | .obj members => by
      rw [dumpChars]
      refine .cons (by decide) ((unseparated_joinWith ?_).append (by decide))
      intro text listed
      obtain ⟨member, sorted, rfl⟩ := List.mem_map.mp listed
      exact unseparated_dumpMembers floats members member ((List.mem_insertionSort _).mp sorted)

theorem unseparated_dumpItems {prims : TextPrimitives} (floats : FloatsUnseparated prims) :
    ∀ items, ∀ text ∈ dumpItems prims.floatRepr items, Unseparated text
  | [] => by
      intro text listed
      cases listed
  | item :: rest => by
      rw [dumpItems, List.forall_mem_cons]
      exact ⟨unseparated_dumpChars floats item, unseparated_dumpItems floats rest⟩

theorem unseparated_dumpMembers {prims : TextPrimitives} (floats : FloatsUnseparated prims) :
    ∀ members, ∀ member ∈ dumpMembers prims.floatRepr members, Unseparated (memberText member)
  | [] => by
      intro member listed
      cases listed
  | member :: rest => by
      rw [dumpMembers, List.forall_mem_cons]
      exact ⟨unseparated_dumpMember floats member, unseparated_dumpMembers floats rest⟩

theorem unseparated_dumpMember {prims : TextPrimitives} (floats : FloatsUnseparated prims) :
    ∀ member, Unseparated (memberText (dumpMember prims.floatRepr member))
  | (key, value) => (unseparated_quote key.toList).append (.cons (by decide) (unseparated_dumpChars floats value))

end

/-! ### Sets of tools -/

section Sets

variable {prims : TextPrimitives}

/-- The encodings of some tools. -/
def toolTexts (prims : TextPrimitives) (tools : List Json) : List String := tools.map (canonicalJson prims)

/-- The text that the order-sensitive digest is taken of. -/
def toolsListText (prims : TextPrimitives) (tools : Option (List Json)) : String :=
  (tools.map fun tools => canonicalJson prims (.arr tools)).getD ""

/-- The distinct encodings, sorted. -/
def toolMembers (prims : TextPrimitives) (tools : Option (List Json)) : List String :=
  ((toolTexts prims (tools.getD [])).dedup).insertionSort (· ≤ ·)

/-- The text that the order-independent digest is taken of. -/
def toolsSetText (prims : TextPrimitives) (tools : Option (List Json)) : String :=
  "\x1f".intercalate (toolMembers prims tools)

theorem toolsSetHash_eq (tools : Option (List Json)) :
    toolsSetHash prims tools = prims.sha256 (toolsSetText prims tools) := by
  cases tools with
  | none => rfl
  | some tools => rfl

/-- Texts without the separator that are not empty can be split again. -/
theorem intercalate_inj {xs ys : List String} (first : ∀ x ∈ xs, Unseparated x.toList ∧ x ≠ "")
    (second : ∀ y ∈ ys, Unseparated y.toList ∧ y ≠ "")
    (same : "\x1f".intercalate xs = "\x1f".intercalate ys) : xs = ys := by
  have joined := congrArg String.toList same
  rw [String.toList_intercalate, String.toList_intercalate] at joined
  have split : ∀ zs : List String, (∀ z ∈ zs, Unseparated z.toList ∧ z ≠ "") → zs ≠ [] →
      (['\x1f'].intercalate (zs.map String.toList)).splitOn '\x1f' = zs.map String.toList := by
    intro zs each filled
    refine List.splitOn_intercalate _ ?_ (by simpa using filled)
    intro text listed
    obtain ⟨z, known, rfl⟩ := List.mem_map.mp listed
    exact (each z known).1
  have filled : ∀ zs : List String, (∀ z ∈ zs, Unseparated z.toList ∧ z ≠ "") → zs ≠ [] →
      ['\x1f'].intercalate (zs.map String.toList) ≠ [] := by
    intro zs each filled nothing
    have items := split zs each filled
    rw [nothing, List.splitOn_nil] at items
    obtain ⟨z, known, empty⟩ : ∃ z ∈ zs, z.toList = [] := List.mem_map.mp (items ▸ List.mem_singleton_self [])
    exact (each z known).2 (String.toList_eq_nil_iff.mp empty)
  by_cases left : xs = []
  · by_cases right : ys = []
    · rw [left, right]
    · rw [left] at joined
      exact absurd joined.symm (filled ys second right)
  · by_cases right : ys = []
    · rw [right] at joined
      exact absurd joined (filled xs first left)
    · have items := congrArg (List.splitOn '\x1f') joined
      have separator : "\x1f".toList = ['\x1f'] := rfl
      rw [separator, split xs first left, split ys second right] at items
      exact (List.map_injective_iff.mpr fun a b => String.toList_inj.mp) items

/-- Sorted lists of the distinct members are the same exactly when the members are. -/
theorem sorted_dedup_eq_iff {xs ys : List String} :
    xs.dedup.insertionSort (· ≤ ·) = ys.dedup.insertionSort (· ≤ ·) ↔ ∀ t, t ∈ xs ↔ t ∈ ys := by
  constructor
  · intro same t
    rw [← List.mem_dedup, ← List.mem_insertionSort (· ≤ ·), same, List.mem_insertionSort, List.mem_dedup]
  · intro same
    have members : xs.dedup.Perm ys.dedup := by
      rw [List.perm_ext_iff_of_nodup (List.nodup_dedup xs) (List.nodup_dedup ys)]
      intro t
      rw [List.mem_dedup, List.mem_dedup, same]
    have sorted : (xs.dedup.insertionSort (· ≤ ·)).Perm (ys.dedup.insertionSort (· ≤ ·)) :=
      (List.perm_insertionSort _ _).trans (members.trans (List.perm_insertionSort _ _).symm)
    exact sorted.eq_of_pairwise' (List.pairwise_insertionSort _ _) (List.pairwise_insertionSort _ _)

/-- Two tool lists have the same members; an absent list has none. -/
def SameMembers (prims : TextPrimitives) (previous current : Option (List Json)) : Prop :=
  ∀ t, t ∈ toolTexts prims (previous.getD []) ↔ t ∈ toolTexts prims (current.getD [])

/-- The order-independent digest is taken of one text exactly when the two lists have the same members. -/
theorem toolsSetText_eq_iff (plain : FloatsPlain prims) (floats : FloatsUnseparated prims)
    {previous current : Option (List Json)} :
    toolsSetText prims previous = toolsSetText prims current ↔ SameMembers prims previous current := by
  have encoded : ∀ tools : Option (List Json), ∀ t ∈ toolMembers prims tools, Unseparated t.toList ∧ t ≠ "" := by
    intro tools t listed
    rw [toolMembers, List.mem_insertionSort, List.mem_dedup] at listed
    obtain ⟨tool, -, rfl⟩ := List.mem_map.mp listed
    rw [canonicalJson, String.toList_ofList]
    refine ⟨unseparated_dumpChars floats tool, fun empty => ?_⟩
    have nothing := congrArg String.toList empty
    rw [String.toList_ofList] at nothing
    exact dumpChars_ne_nil plain tool nothing
  rw [SameMembers, ← sorted_dedup_eq_iff]
  constructor
  · exact intercalate_inj (encoded previous) (encoded current)
  · intro same
    rw [toolsSetText, toolsSetText, toolMembers, toolMembers, same]

/-- The order-sensitive digest is taken of one text exactly when the lists are the same, or both are absent. -/
theorem toolsListText_eq_iff (plain : FloatsPlain prims) {previous current : Option (List Json)} :
    toolsListText prims previous = toolsListText prims current ↔
      previous.map (toolTexts prims) = current.map (toolTexts prims) := by
  have filled := canonicalJson_arr_ne_empty prims
  cases previous with
  | none =>
      cases current with
      | none => exact iff_of_true rfl rfl
      | some tools => exact iff_of_false (fun same => filled tools same.symm) (fun same => nomatch same)
  | some tools =>
      cases current with
      | none => exact iff_of_false (filled tools) (fun same => nomatch same)
      | some tools' =>
          rw [Option.map_some, Option.map_some, Option.some.injEq]
          exact canonicalJson_arr_eq_iff plain

end Sets

/-! ### Verdicts -/

/-- The hashes of a request are those of these tools. -/
structure HashedTools (prims : TextPrimitives) (tools : Option (List Json)) (hashes : ToolHashes) : Prop where
  toolsHash : hashes.toolsHash = some (prims.sha256 (toolsListText prims tools))
  toolsSetHash : hashes.toolsSetHash = some (toolsSetHash prims tools)

/-- Both lists are there, and one is a permutation of the other. -/
def isPermutation : Option (List String) → Option (List String) → Bool
  | some previous, some current => previous.isPerm current
  | _, _ => false

/-- What a pair of tool lists is: tools are the same when their encodings are. -/
def exactVerdict (previous current : Option (List String)) : ToolVerdict :=
  if previous = current then .unchanged
  else if isPermutation previous current then .orderPermutation
  else .toolSetChange

/-- Both views count a pair for its route as what it is, whatever was counted before. -/
structure PairCountedExactly (prims : TextPrimitives) (previous current : Option (List Json)) : Prop where
  snapshots : ∀ tally p c, HashedTools prims previous p.toolHashes → HashedTools prims current c.toolHashes →
    routeStats (pairRoute p.toolHashes c.toolHashes) (snapshotPair tally (p, c)) =
      countVerdict (exactVerdict (previous.map (toolTexts prims)) (current.map (toolTexts prims)))
        (routeStats (pairRoute p.toolHashes c.toolHashes) tally)
  stored : ∀ index tally p c, HashedTools prims previous p.toolHashes → HashedTools prims current c.toolHashes →
    routeStats (pairRoute p.toolHashes c.toolHashes) (storePair index tally (p, c)) =
      countVerdict (exactVerdict (previous.map (toolTexts prims)) (current.map (toolTexts prims)))
        (routeStats (pairRoute p.toolHashes c.toolHashes) tally)

section Verdicts

variable {prims : TextPrimitives} {previous current : Option (List Json)}

/-- A permutation has the same members. -/
theorem isPermutation_members
    (permuted : isPermutation (previous.map (toolTexts prims)) (current.map (toolTexts prims)) = true) :
    SameMembers prims previous current := by
  cases previous with
  | none => cases permuted
  | some xs =>
      cases current with
      | none => cases permuted
      | some ys => exact fun t => (List.isPerm_iff.mp permuted).mem_iff

/-- The texts that the digests of the tools of two requests are taken of. -/
def comparedTexts (prims : TextPrimitives) (previous current : Option (List Json)) : List String :=
  [toolsListText prims previous, toolsListText prims current, toolsSetText prims previous,
    toolsSetText prims current]

/-- With all hashes known there is a verdict. -/
theorem HashedTools.decided {p c : ToolHashes} (first : HashedTools prims previous p)
    (second : HashedTools prims current c) : ∃ verdict, toolVerdict p c = some verdict := by
  unfold toolVerdict
  simp only [first.toolsHash, first.toolsSetHash, second.toolsHash, second.toolsSetHash]
  split_ifs <;> exact ⟨_, rfl⟩

/-- The verdict on two requests whose hashes are those of their tools. -/
theorem toolVerdict_hashed {p c : ToolHashes} (plain : FloatsPlain prims) (floats : FloatsUnseparated prims)
    (separates : DigestSeparates prims (comparedTexts prims previous current))
    (first : HashedTools prims previous p) (second : HashedTools prims current c) :
    (previous.map (toolTexts prims) = current.map (toolTexts prims) → toolVerdict p c = some .unchanged) ∧
      (previous.map (toolTexts prims) ≠ current.map (toolTexts prims) →
        (SameMembers prims previous current → toolVerdict p c = some .orderPermutation) ∧
          (¬SameMembers prims previous current → toolVerdict p c = some .toolSetChange)) := by
  have lists : prims.sha256 (toolsListText prims previous) = prims.sha256 (toolsListText prims current) ↔
      previous.map (toolTexts prims) = current.map (toolTexts prims) := by
    rw [← toolsListText_eq_iff plain]
    exact ⟨separates _ (by simp [comparedTexts]) _ (by simp [comparedTexts]), congrArg prims.sha256⟩
  have sets : toolsSetHash prims previous = toolsSetHash prims current ↔ SameMembers prims previous current := by
    rw [toolsSetHash_eq, toolsSetHash_eq, ← toolsSetText_eq_iff plain floats]
    exact ⟨separates _ (by simp [comparedTexts]) _ (by simp [comparedTexts]), congrArg prims.sha256⟩
  unfold toolVerdict
  simp only [first.toolsHash, first.toolsSetHash, second.toolsHash, second.toolsSetHash, lists, sets]
  refine ⟨fun same => if_pos same, fun differ => ⟨fun members => ?_, fun others => ?_⟩⟩
  · rw [if_neg differ, if_pos (sets.mpr members)]
  · rw [if_neg differ, if_neg (mt sets.mp others)]

/-- The lists are the same, or one is a permutation of the other, or a tool occurs in one of them only. -/
def SeenByDigests (prims : TextPrimitives) (previous current : Option (List Json)) : Prop :=
  previous.map (toolTexts prims) = current.map (toolTexts prims) ∨
    isPermutation (previous.map (toolTexts prims)) (current.map (toolTexts prims)) = true ∨
      ¬SameMembers prims previous current

/-- The verdict of the digests is the exact one just then. -/
theorem toolVerdict_exact_iff {p c : ToolHashes} (plain : FloatsPlain prims) (floats : FloatsUnseparated prims)
    (separates : DigestSeparates prims (comparedTexts prims previous current))
    (first : HashedTools prims previous p) (second : HashedTools prims current c) :
    toolVerdict p c = some (exactVerdict (previous.map (toolTexts prims)) (current.map (toolTexts prims))) ↔
      SeenByDigests prims previous current := by
  obtain ⟨unchanged, changed⟩ := toolVerdict_hashed plain floats separates first second
  unfold SeenByDigests exactVerdict
  by_cases same : previous.map (toolTexts prims) = current.map (toolTexts prims)
  · rw [unchanged same, if_pos same]
    exact iff_of_true rfl (Or.inl same)
  · obtain ⟨permutation, setChange⟩ := changed same
    rw [if_neg same]
    by_cases members : SameMembers prims previous current
    · rw [permutation members]
      split
      · rename_i permuted
        exact iff_of_true rfl (Or.inr (Or.inl permuted))
      · rename_i permuted
        refine iff_of_false (by decide) ?_
        rintro (equal | permuted' | others)
        · exact same equal
        · exact permuted permuted'
        · exact others members
    · rw [setChange members, if_neg (mt isPermutation_members members)]
      exact iff_of_true rfl (Or.inr (Or.inr members))

/-- A pair of snapshots is counted for its route. -/
theorem routeStats_snapshotPair (route : Option String) (tally : TopologyTally)
    (pair : LayeredHashes × LayeredHashes) :
    routeStats route (snapshotPair tally pair) =
      (verdictFor route pair.1.toolHashes pair.2.toolHashes).elim (routeStats route tally) fun verdict =>
        countVerdict verdict (routeStats route tally) := by
  rw [snapshotPair, routeStats_countTools]
  simp only [routeStats, countLayers_toolRoutes, countChurn_toolRoutes]

/-- Different verdicts move different counters. -/
theorem countVerdict_inj {verdict verdict' : ToolVerdict} {counts : RouteCounts}
    (same : countVerdict verdict counts = countVerdict verdict' counts) : verdict = verdict' := by
  have permutations := congrArg RouteCounts.orderPermutations same
  have changes := congrArg RouteCounts.toolSetChanges same
  rw [countVerdict_orderPermutations, countVerdict_orderPermutations] at permutations
  rw [countVerdict_toolSetChanges, countVerdict_toolSetChanges] at changes
  cases verdict <;> cases verdict' <;> simp_all

/-- Two requests with these tools, as snapshots. -/
def toolSnapshot (prims : TextPrimitives) (tools : Option (List Json)) : LayeredHashes where
  toolsHash := some (prims.sha256 (toolsListText prims tools))
  toolsSetHash := some (toolsSetHash prims tools)

/-- A pair that is counted as what it is shows in the digests. -/
theorem PairCountedExactly.seen (counted : PairCountedExactly prims previous current) (plain : FloatsPlain prims)
    (floats : FloatsUnseparated prims)
    (separates : DigestSeparates prims (comparedTexts prims previous current)) :
    SeenByDigests prims previous current := by
  have first : HashedTools prims previous (toolSnapshot prims previous).toolHashes := ⟨rfl, rfl⟩
  have second : HashedTools prims current (toolSnapshot prims current).toolHashes := ⟨rfl, rfl⟩
  have exact := counted.snapshots {} _ _ first second
  rw [routeStats_snapshotPair, verdictFor, if_pos rfl] at exact
  rw [← toolVerdict_exact_iff plain floats separates first second]
  obtain ⟨code, verdict⟩ := first.decided second
  rw [verdict, Option.elim_some] at exact
  rw [verdict, countVerdict_inj exact]

/-- For every two tool lists whose texts the digest tells apart: both views count the pair as what it is exactly
    when the lists are the same, or one is a permutation of the other, or a tool occurs in one of them only. -/
theorem tool_ordering_exact_iff (plain : FloatsPlain prims) (floats : FloatsUnseparated prims)
    (separates : DigestSeparates prims (comparedTexts prims previous current)) :
    PairCountedExactly prims previous current ↔ SeenByDigests prims previous current := by
  constructor
  · intro counted
    exact counted.seen plain floats separates
  · intro seen
    constructor
    case snapshots =>
      intro tally p c first second
      rw [routeStats_snapshotPair, verdictFor, if_pos rfl,
        (toolVerdict_exact_iff plain floats separates first second).mpr seen]
      rfl
    case stored =>
      intro index tally p c first second
      rw [routeStats_storePair, verdictFor, if_pos rfl,
        (toolVerdict_exact_iff plain floats separates first second).mpr seen]
      rfl

end Verdicts

/-! ### Pairs of lists -/

/-- The float texts of the sample primitives do not contain the separator. -/
theorem floatsUnseparated_sample : FloatsUnseparated samplePrimitives := by
  intro value
  have written : (samplePrimitives.floatRepr value).toList = (toString value.num).toList ++ ".0".toList :=
    String.toList_append
  rw [written]
  exact (unseparated_toString value.num).append (by decide)

/-- A tool with a name. -/
def namedTool (name : String) : Json := .obj [("name", .str name)]

/-- The texts that the digests of short tool lists are taken of. -/
def sampleToolTexts : List String :=
  ["", "[]", "\x7b\"name\":\"a\"\x7d", "[\x7b\"name\":\"a\"\x7d]",
    "[\x7b\"name\":\"a\"\x7d,\x7b\"name\":\"a\"\x7d]",
    "[\x7b\"name\":\"a\"\x7d,\x7b\"name\":\"b\"\x7d]",
    "[\x7b\"name\":\"b\"\x7d,\x7b\"name\":\"a\"\x7d]",
    "\x7b\"name\":\"a\"\x7d\x1f\x7b\"name\":\"b\"\x7d"]

theorem nodup_sha256_sampleToolTexts : (sampleToolTexts.map samplePrimitives.sha256).Nodup := by
  decide +kernel

/-- The digest tells these texts apart. -/
theorem digestSeparates_tools {texts : List String} (listed : ∀ t ∈ texts, t ∈ sampleToolTexts) :
    DigestSeparates samplePrimitives texts := by
  intro s known t known' same
  exact List.inj_on_of_nodup_map nodup_sha256_sampleToolTexts (listed s known) (listed t known') same

/-- Two tools change places. -/
theorem tool_ordering_exact_sample :
    PairCountedExactly samplePrimitives (some [namedTool "a", namedTool "b"])
      (some [namedTool "b", namedTool "a"]) :=
  (tool_ordering_exact_iff floatsPlain_sample floatsUnseparated_sample
    (digestSeparates_tools (by decide +kernel))).mpr (Or.inr (Or.inl (by decide +kernel)))

/-- A tool is listed once more. -/
theorem repeated_tool_taken_for_permutation :
    DigestSeparates samplePrimitives
        (comparedTexts samplePrimitives (some [namedTool "a"]) (some [namedTool "a", namedTool "a"])) ∧
      ¬PairCountedExactly samplePrimitives (some [namedTool "a"]) (some [namedTool "a", namedTool "a"]) := by
  have separates : DigestSeparates samplePrimitives
      (comparedTexts samplePrimitives (some [namedTool "a"]) (some [namedTool "a", namedTool "a"])) :=
    digestSeparates_tools (by decide +kernel)
  refine ⟨separates, fun counted => ?_⟩
  rcases counted.seen floatsPlain_sample floatsUnseparated_sample separates with same | permuted | others
  · revert same
    decide +kernel
  · revert permuted
    decide +kernel
  · refine others fun t => ?_
    simp [toolTexts]

end CachePilot
