/-
Module: CachePilot.Proofs.TopologyAccounting
Layer: Proofs
Purpose: The accounts of the stored topology report. Every counter counts the pairs of consecutive events of a
  session that have its property, so the counters are ordered as the properties imply each other; every loss of a
  pair is added to one layer or to the unattributed losses, so none is lost and none counted twice.
Trusted boundary: none
Main exports: storedPairs, storedTally_measure, pairLoss, ReportAccounts, storedReport_accounts,
  topology_from_store_accounts
-/
import Mathlib.Algebra.Order.BigOperators.Group.List
import CachePilot.Core.TopologyReport
import CachePilot.Lib.KeyedLog
import CachePilot.Proofs.StoreRoundTrip

namespace CachePilot

open Execution Grouping CachePilot.Topology

/-! ### One pair -/

namespace Topology

section Counting

variable (tally : TopologyTally)

@[simp] theorem countLayers_counts (attributed : Layer → Bool) (flags : PairFlags) :
    (countLayers attributed flags tally).toTopologyCounts = tally.toTopologyCounts := rfl

@[simp] theorem countLayers_toolRoutes (attributed : Layer → Bool) (flags : PairFlags) :
    (countLayers attributed flags tally).toolRoutes = tally.toolRoutes := rfl

@[simp] theorem countChurn_layers (moved : Bool) : (countChurn moved tally).layers = tally.layers := rfl

@[simp] theorem countChurn_toolRoutes (moved : Bool) : (countChurn moved tally).toolRoutes = tally.toolRoutes := rfl

@[simp] theorem countTools_counts (previous current : ToolHashes) :
    (countTools previous current tally).toTopologyCounts = tally.toTopologyCounts := by
  unfold countTools
  split <;> rfl

@[simp] theorem countTools_layers (previous current : ToolHashes) :
    (countTools previous current tally).layers = tally.layers := by
  unfold countTools
  split <;> rfl

@[simp] theorem countGap_layers (previous current : StoredRequestEvent) (layer : Option ContentLayer) :
    (countGap previous current layer tally).layers = tally.layers := by
  unfold countGap
  dsimp only
  split <;> rfl

@[simp] theorem countGap_toolRoutes (previous current : StoredRequestEvent) (layer : Option ContentLayer) :
    (countGap previous current layer tally).toolRoutes = tally.toolRoutes := by
  unfold countGap
  dsimp only
  split <;> rfl

@[simp] theorem countGap_totalPairs (previous current : StoredRequestEvent) (layer : Option ContentLayer) :
    (countGap previous current layer tally).totalPairs = tally.totalPairs := by
  unfold countGap
  dsimp only
  split <;> rfl

@[simp] theorem countGap_churnPairs (previous current : StoredRequestEvent) (layer : Option ContentLayer) :
    (countGap previous current layer tally).churnPairs = tally.churnPairs := by
  unfold countGap
  dsimp only
  split <;> rfl

@[simp] theorem countGap_unattributed (previous current : StoredRequestEvent) (layer : Option ContentLayer) :
    (countGap previous current layer tally).unattributedLossTokens =
      tally.unattributedLossTokens := by
  unfold countGap
  dsimp only
  split <;> rfl

@[simp] theorem attributeLoss_toolRoutes (layer : Option ContentLayer) (loss : Option ℕ) :
    (attributeLoss layer loss tally).toolRoutes = tally.toolRoutes := by
  unfold attributeLoss
  split <;> rfl

@[simp] theorem attributeLoss_totalPairs (layer : Option ContentLayer) (loss : Option ℕ) :
    (attributeLoss layer loss tally).totalPairs = tally.totalPairs := by
  unfold attributeLoss
  split <;> rfl

@[simp] theorem attributeLoss_churnPairs (layer : Option ContentLayer) (loss : Option ℕ) :
    (attributeLoss layer loss tally).churnPairs = tally.churnPairs := by
  unfold attributeLoss
  split <;> rfl

/-- Only a loss is added to a layer. -/
theorem attributeLoss_layer (divergent : Option ContentLayer) (loss : Option ℕ) (layer : Layer) :
    ∃ losses, (attributeLoss divergent loss tally).layers layer =
      { tally.layers layer with estimatedPrefixLossTokens := losses } := by
  unfold attributeLoss
  split
  · exact ⟨_, rfl⟩
  · rename_i named loss
    by_cases same : layer = .content named
    · subst same
      exact ⟨_, Function.update_self ..⟩
    · exact ⟨_, Function.update_of_ne same ..⟩
  · exact ⟨_, rfl⟩

@[simp] theorem attributeLoss_pairs (divergent : Option ContentLayer) (loss : Option ℕ) (layer : Layer) :
    ((attributeLoss divergent loss tally).layers layer).pairs = (tally.layers layer).pairs := by
  obtain ⟨losses, same⟩ := attributeLoss_layer tally divergent loss layer
  rw [same]

@[simp] theorem attributeLoss_changes (divergent : Option ContentLayer) (loss : Option ℕ) (layer : Layer) :
    ((attributeLoss divergent loss tally).layers layer).changes = (tally.layers layer).changes := by
  obtain ⟨losses, same⟩ := attributeLoss_layer tally divergent loss layer
  rw [same]

end Counting

/-- What is counted for a route. -/
def routeStats (route : Option String) (tally : TopologyTally) : RouteCounts :=
  (tally.toolRoutes.get? route).getD { route }

/-- All losses so far. -/
def lossTotal (tally : TopologyTally) : ℕ :=
  (topologyLayerOrder.map fun layer => (tally.layers layer).estimatedPrefixLossTokens.getD 0).sum +
    tally.unattributedLossTokens

/-- A loss goes to one place. -/
theorem lossTotal_attributeLoss (layer : Option ContentLayer) (loss : Option ℕ) (tally : TopologyTally) :
    lossTotal (attributeLoss layer loss tally) = lossTotal tally + loss.getD 0 := by
  cases loss with
  | none => cases layer <;> rfl
  | some loss =>
      cases layer with
      | none =>
          simp only [lossTotal, attributeLoss, Option.getD_some]
          omega
      | some layer =>
          cases layer <;>
            simp only [lossTotal, attributeLoss, topologyLayerOrder, List.map_cons, List.map_nil, List.sum_cons,
              List.sum_nil, Function.update_apply, reduceCtorEq, Layer.content.injEq, if_true, if_false,
              Option.getD_some] <;>
            omega

@[simp] theorem countLayer_loss (attributed : Bool) (changed : Option Bool) (stats : LayerCounts) :
    (countLayer attributed changed stats).estimatedPrefixLossTokens = stats.estimatedPrefixLossTokens := by
  cases changed <;> rfl

theorem countLayer_pairs (attributed : Bool) (changed : Option Bool) (stats : LayerCounts) :
    (countLayer attributed changed stats).pairs = stats.pairs + changed.isSome.toNat := by
  cases changed <;> rfl

theorem countLayer_changes (attributed : Bool) (changed : Option Bool) (stats : LayerCounts) :
    (countLayer attributed changed stats).changes = stats.changes + (changed.getD false).toNat := by
  cases changed <;> rfl

/-- The verdict on a pair, as far as it is counted for a route. -/
def verdictFor (route : Option String) (previous current : ToolHashes) : Option ToolVerdict :=
  if pairRoute previous current = route then toolVerdict previous current else none

/-- Only the route of a pair is counted. -/
theorem routeStats_countTools (route : Option String) (previous current : ToolHashes) (tally : TopologyTally) :
    routeStats route (countTools previous current tally) =
      (verdictFor route previous current).elim (routeStats route tally) fun verdict =>
        countVerdict verdict (routeStats route tally) := by
  unfold countTools verdictFor
  cases toolVerdict previous current with
  | none =>
      rw [ite_self]
      rfl
  | some verdict =>
      by_cases same : pairRoute previous current = route
      · subst same
        rw [if_pos rfl, Option.elim_some, routeStats, Dict.get?_set, if_pos rfl, Option.getD_some, routeStats]
      · rw [if_neg same, Option.elim_none, routeStats, Dict.get?_set, if_neg (Ne.symm same), routeStats]

theorem countVerdict_pairs (verdict : ToolVerdict) (stats : RouteCounts) :
    (countVerdict verdict stats).pairs = stats.pairs + 1 := by
  cases verdict <;> rfl

theorem countVerdict_orderPermutations (verdict : ToolVerdict) (stats : RouteCounts) :
    (countVerdict verdict stats).orderPermutations =
      stats.orderPermutations + (decide (verdict = .orderPermutation)).toNat := by
  cases verdict <;> rfl

theorem countVerdict_toolSetChanges (verdict : ToolVerdict) (stats : RouteCounts) :
    (countVerdict verdict stats).toolSetChanges =
      stats.toolSetChanges + (decide (verdict = .toolSetChange)).toNat := by
  cases verdict <;> rfl

section StoredPairs

variable (index : Dict (Option String × String × String) StoredChurnEvent) (tally : TopologyTally)
  (pair : StoredRequestEvent × StoredRequestEvent)

/-- The content layer that the churn event of a pair names. -/
def pairLayer : Option ContentLayer := firstDivergent (index.get? (pairKey pair))

/-- The flags of a pair. -/
def pairFlags : PairFlags := storedFlags pair.1 pair.2 (pairLayer index pair)

/-- The cache fingerprint of a pair moved. -/
def pairMoved : Bool := decide (pair.1.cacheFingerprint ≠ pair.2.cacheFingerprint)

theorem storePair_totalPairs :
    (storePair index tally pair).totalPairs = tally.totalPairs + 1 := by
  simp [storePair, countChurn]

/-- A pair whose fingerprint moved is counted. -/
theorem storePair_churnPairs :
    (storePair index tally pair).churnPairs = tally.churnPairs + (pairMoved pair).toNat := by
  simp [storePair, countChurn, pairMoved]

/-- A pair is counted for the layers that are decidable. -/
theorem storePair_pairs (layer : Layer) :
    ((storePair index tally pair).layers layer).pairs =
      (tally.layers layer).pairs + ((pairFlags index pair).flag layer).isSome.toNat := by
  simp [storePair, countLayers, countLayer_pairs, pairFlags, pairLayer]

/-- A pair is a change of the layers that changed. -/
theorem storePair_changes (layer : Layer) :
    ((storePair index tally pair).layers layer).changes =
      (tally.layers layer).changes + (((pairFlags index pair).flag layer).getD false).toNat := by
  simp [storePair, countLayers, countLayer_changes, pairFlags, pairLayer]

/-- A pair adds the loss of its churn event. -/
theorem lossTotal_storePair :
    lossTotal (storePair index tally pair) =
      lossTotal tally + (churnLoss (index.get? (pairKey pair))).getD 0 := by
  have tools : ∀ previous current counted, lossTotal (countTools previous current counted) = lossTotal counted := by
    intro previous current counted
    rw [lossTotal, countTools_layers, countTools_counts, lossTotal]
  have unmoved : lossTotal
      (countGap pair.1 pair.2 (pairLayer index pair)
        (countLayers isAttributed (pairFlags index pair)
          (countChurn (pairMoved pair)
            { tally with totalPairs := tally.totalPairs + 1 }))) =
      lossTotal tally := by
    simp only [lossTotal, countGap_layers, countGap_unattributed, countLayers, countLayer_loss, countChurn]
  rw [storePair, tools, lossTotal_attributeLoss]
  exact congrArg (· + _) unmoved

/-- A pair is counted for its route. -/
theorem routeStats_storePair (route : Option String) :
    routeStats route (storePair index tally pair) =
      (verdictFor route pair.1.toolHashes pair.2.toolHashes).elim (routeStats route tally) fun verdict =>
        countVerdict verdict (routeStats route tally) := by
  rw [storePair, routeStats_countTools]
  simp only [routeStats, attributeLoss_toolRoutes, countGap_toolRoutes, countLayers_toolRoutes,
    countChurn_toolRoutes]

end StoredPairs

/-! ### All pairs -/

/-- The consecutive events of each session. -/
def storedPairs (events : List StoredRequestEvent) : List (StoredRequestEvent × StoredRequestEvent) :=
  (groupBy (fun event => event.sessionHash) events).values.flatMap fun group => consecutive (byId group)

section AllPairs

variable (events : List StoredRequestEvent) (churnEvents : List StoredChurnEvent)

/-- What each pair adds to a measure, all of them add. -/
theorem storedTally_measure {M : Type*} [AddCommMonoid M] (m : TopologyTally → M)
    (worth : StoredRequestEvent × StoredRequestEvent → M)
    (session : ∀ tally, m { tally with sessions := tally.sessions + 1 } = m tally)
    (adds : ∀ tally pair, m (storePair (churnIndex churnEvents) tally pair) = m tally + worth pair) :
    m (storedTally events churnEvents) = m {} + ((storedPairs events).map worth).sum := by
  have group : ∀ tally group, m (storeSession (churnIndex churnEvents) tally group) =
      m tally + ((consecutive (byId group)).map worth).sum := by
    intro tally group
    rw [storeSession, foldl_measure m worth adds, session]
  rw [storedTally, foldl_measure m _ group, storedPairs, List.map_flatMap, List.flatMap_def, List.sum_flatten,
    List.map_map]
  rfl

/-- There is a pair for each event of a session but one. -/
theorem length_storedPairs :
    (storedPairs events).length =
      ∑ session ∈ (events.map fun event => event.sessionHash).toFinset,
        ((groupOf (fun event => event.sessionHash) events session).length - 1) := by
  have each : ∀ group : List StoredRequestEvent, (consecutive (byId group)).length = group.length - 1 := by
    intro group
    rw [length_consecutive, byId, List.length_insertionSort]
  rw [storedPairs, List.length_flatMap, ← sum_groupBy _ fun group : List StoredRequestEvent => group.length - 1]
  exact congrArg List.sum (List.map_congr_left fun group _ => each group)

/-- Every pair is counted. -/
theorem storedTally_totalPairs : (storedTally events churnEvents).totalPairs = (storedPairs events).length := by
  rw [storedTally_measure events churnEvents (fun tally => tally.totalPairs) (fun _ => true.toNat)
    (fun _ => rfl) (storePair_totalPairs _), sum_indicator, List.countP_true]
  exact Nat.zero_add _

theorem storedTally_churnPairs :
    (storedTally events churnEvents).churnPairs = (storedPairs events).countP pairMoved := by
  rw [storedTally_measure events churnEvents (fun tally => tally.churnPairs) _ (fun _ => rfl)
    (storePair_churnPairs _), sum_indicator]
  exact Nat.zero_add _

/-- The pairs of a layer are those in which its change is decidable. -/
theorem storedTally_pairs (layer : Layer) :
    ((storedTally events churnEvents).layers layer).pairs =
      (storedPairs events).countP fun pair => ((pairFlags (churnIndex churnEvents) pair).flag layer).isSome := by
  rw [storedTally_measure events churnEvents (fun tally => (tally.layers layer).pairs) _ (fun _ => rfl)
    (fun tally pair => storePair_pairs _ tally pair layer), sum_indicator]
  exact Nat.zero_add _

/-- The changes of a layer are the pairs in which it changed. -/
theorem storedTally_changes (layer : Layer) :
    ((storedTally events churnEvents).layers layer).changes =
      (storedPairs events).countP fun pair => ((pairFlags (churnIndex churnEvents) pair).flag layer).getD false := by
  rw [storedTally_measure events churnEvents (fun tally => (tally.layers layer).changes) _ (fun _ => rfl)
    (fun tally pair => storePair_changes _ tally pair layer), sum_indicator]
  exact Nat.zero_add _

/-- All losses are added up. -/
theorem lossTotal_storedTally :
    lossTotal (storedTally events churnEvents) =
      ((storedPairs events).map fun pair => (churnLoss ((churnIndex churnEvents).get? (pairKey pair))).getD 0).sum := by
  rw [storedTally_measure events churnEvents lossTotal _ (fun _ => rfl) (lossTotal_storePair _)]
  exact Nat.zero_add _

/-- What each verdict on a pair of a route adds to a measure of its counters, all of them add. -/
theorem routeStats_measure (m : RouteCounts → ℕ) (worth : ToolVerdict → ℕ)
    (adds : ∀ verdict stats, m (countVerdict verdict stats) = m stats + worth verdict) (route : Option String) :
    m (routeStats route (storedTally events churnEvents)) =
      m { route } +
        ((storedPairs events).map fun pair =>
          (verdictFor route pair.1.toolHashes pair.2.toolHashes).elim 0 worth).sum := by
  have step : ∀ tally pair, m (routeStats route (storePair (churnIndex churnEvents) tally pair)) =
      m (routeStats route tally) + (verdictFor route pair.1.toolHashes pair.2.toolHashes).elim 0 worth := by
    intro tally pair
    rw [routeStats_storePair]
    cases verdictFor route pair.1.toolHashes pair.2.toolHashes with
    | none => rfl
    | some verdict => exact adds verdict _
  exact storedTally_measure events churnEvents (fun tally => m (routeStats route tally)) _ (fun _ => rfl) step

/-- A pair is a permutation or a set change at most once. -/
theorem routeStats_changes_le (route : Option String) :
    (routeStats route (storedTally events churnEvents)).orderPermutations +
        (routeStats route (storedTally events churnEvents)).toolSetChanges ≤
      (routeStats route (storedTally events churnEvents)).pairs := by
  have changes := routeStats_measure events churnEvents (fun stats => stats.orderPermutations + stats.toolSetChanges)
    (fun verdict => (decide (verdict = .orderPermutation)).toNat + (decide (verdict = .toolSetChange)).toNat)
    (fun verdict stats => by
      rw [countVerdict_orderPermutations, countVerdict_toolSetChanges]
      omega) route
  have pairs := routeStats_measure events churnEvents RouteCounts.pairs (fun _ => 1) countVerdict_pairs route
  rw [changes, pairs]
  refine Nat.add_le_add_left (List.sum_le_sum fun pair _ => ?_) _
  cases verdictFor route pair.1.toolHashes pair.2.toolHashes with
  | none => exact Nat.le_refl 0
  | some verdict => cases verdict <;> decide

/-- A layer that changed is decidable. -/
theorem storedTally_changes_le (layer : Layer) :
    ((storedTally events churnEvents).layers layer).changes ≤
      ((storedTally events churnEvents).layers layer).pairs := by
  rw [storedTally_changes, storedTally_pairs]
  refine List.countP_mono_left fun pair _ changed => ?_
  cases flag : (pairFlags (churnIndex churnEvents) pair).flag layer with
  | none =>
      rw [flag] at changed
      cases changed
  | some value => rfl

theorem storedTally_pairs_le (layer : Layer) :
    ((storedTally events churnEvents).layers layer).pairs ≤ (storedTally events churnEvents).totalPairs := by
  rw [storedTally_pairs, storedTally_totalPairs]
  exact List.countP_le_length

theorem storedTally_churnPairs_le :
    (storedTally events churnEvents).churnPairs ≤ (storedTally events churnEvents).totalPairs := by
  rw [storedTally_churnPairs, storedTally_totalPairs]
  exact List.countP_le_length

end AllPairs

/-! ### The report -/

/-- A share of some pairs is a percentage. -/
theorem stabilityPct_bounds {changes pairs : ℕ} (le : changes ≤ pairs) :
    0 ≤ stabilityPct changes pairs ∧ stabilityPct changes pairs ≤ 100 := by
  have share : (changes : ℚ) / pairs ≤ 1 := div_le_one_of_le₀ (by exact_mod_cast le) (Nat.cast_nonneg pairs)
  have nonneg : (0 : ℚ) ≤ (changes : ℚ) / pairs := by positivity
  have low : roundPlaces 1 (0 : ℚ) ≤ stabilityPct changes pairs := roundPlaces_mono 1 (by linarith)
  have high : stabilityPct changes pairs ≤ roundPlaces 1 ((100 : ℤ) : ℚ) := by
    refine roundPlaces_mono 1 ?_
    push_cast
    linarith
  rw [roundPlaces_zero] at low
  rw [roundPlaces_intCast] at high
  exact ⟨low, by exact_mod_cast high⟩

/-- The churn events are indexed by their keys; the last one of a key stays. -/
theorem churnIndex_get? (churnEvents : List StoredChurnEvent) (key : Option String × String × String) :
    (churnIndex churnEvents).get? key = KeyedLog.lastFor churnKey churnEvents key := by
  induction churnEvents using List.reverseRecOn with
  | nil => rfl
  | append_singleton earlier event ih =>
      rw [churnIndex, List.foldl_append, List.foldl_cons, List.foldl_nil, Dict.get?_set, KeyedLog.lastFor_append]
      rw [churnIndex] at ih
      simp only [ih, eq_comm]

end Topology

/-- All percentages of a report. -/
def TopologyReport.percentages (report : TopologyReport) : List ℚ :=
  (report.prefixStabilityPct :: (report.layers.map (fun stats => stats.stabilityPct) ++
    report.toolOrdering.map fun stats => stats.orderingStabilityPct)).filterMap id

/-- The loss of a pair: that of the last churn event with its session and its transition. -/
def pairLoss (churnEvents : List StoredChurnEvent) (pair : StoredRequestEvent × StoredRequestEvent) : ℕ :=
  (churnLoss (KeyedLog.lastFor churnKey churnEvents (pairKey pair))).getD 0

/-- The accounts of a report on some events. -/
structure ReportAccounts (events : List StoredRequestEvent) (churnEvents : List StoredChurnEvent)
    (report : TopologyReport) : Prop where
  totalPairs : report.totalPairs =
    ∑ session ∈ (events.map fun event => event.sessionHash).toFinset,
      ((groupOf (fun event => event.sessionHash) events session).length - 1)
  layers : ∀ stats ∈ report.layers, stats.changes ≤ stats.pairs ∧ stats.pairs ≤ report.totalPairs
  churnPairs : report.churnPairs ≤ report.totalPairs
  routes : ∀ stats ∈ report.toolOrdering, stats.orderPermutations + stats.toolSetChanges ≤ stats.pairs
  percentages : ∀ pct ∈ report.percentages, 0 ≤ pct ∧ pct ≤ 100
  losses : (report.layers.map fun stats => stats.estimatedPrefixLossTokens.getD 0).sum +
      report.unattributedLossTokens =
    ∑ session ∈ (events.map fun event => event.sessionHash).toFinset,
      ((consecutive (byId (groupOf (fun event => event.sessionHash) events session))).map
        (pairLoss churnEvents)).sum

/-- Finishing keeps the counts of a layer. -/
theorem finishLayer_counts (counts : LayerCounts) : (finishLayer counts).toLayerCounts = counts := by
  unfold finishLayer
  dsimp only
  split <;> rfl

theorem finishRoute_counts (counts : RouteCounts) : (finishRoute counts).toRouteCounts = counts := by
  unfold finishRoute
  dsimp only
  split <;> rfl

/-- What is shown for a layer is a percentage. -/
theorem finishLayer_pct {counts : LayerCounts} (le : counts.changes ≤ counts.pairs) {pct : ℚ}
    (shown : (finishLayer counts).stabilityPct = some pct) : 0 ≤ pct ∧ pct ≤ 100 := by
  unfold finishLayer at shown
  dsimp only at shown
  split at shown
  · cases shown
    exact stabilityPct_bounds le
  · cases shown

theorem finishRoute_pct {counts : RouteCounts} (le : counts.orderPermutations ≤ counts.pairs) {pct : ℚ}
    (shown : (finishRoute counts).orderingStabilityPct = some pct) : 0 ≤ pct ∧ pct ≤ 100 := by
  unfold finishRoute at shown
  dsimp only at shown
  split at shown
  · cases shown
    exact stabilityPct_bounds le
  · cases shown

/-- Every row of the tool ordering is what is counted for a route. -/
theorem mem_toolOrdering {tally : TopologyTally} {stats : ToolOrderingStats}
    (row : stats ∈ (finalizeReport tally).toolOrdering) :
    ∃ route, stats = finishRoute (routeStats route tally) := by
  unfold finalizeReport at row
  dsimp only at row
  split at row
  · obtain ⟨counts, listed, rfl⟩ := List.mem_map.mp row
    obtain ⟨route, -, found⟩ := List.mem_filterMap.mp listed
    exact ⟨route, by rw [routeStats, found, Option.getD_some]⟩
  · cases row

/-- Every layer row is what is counted for the layer. -/
theorem mem_layers {tally : TopologyTally} {stats : TopologyLayerStats}
    (row : stats ∈ (finalizeReport tally).layers) : ∃ layer, stats = finishLayer (tally.layers layer) := by
  unfold finalizeReport at row
  dsimp only at row
  split at row
  · obtain ⟨layer, -, rfl⟩ := List.mem_map.mp row
    exact ⟨layer, rfl⟩
  · cases row

/-- Finishing keeps the counts of the window. -/
theorem finalizeReport_counts (tally : TopologyTally) :
    (finalizeReport tally).toTopologyCounts = tally.toTopologyCounts := by
  unfold finalizeReport
  dsimp only
  split <;> rfl

/-- The share of stable pairs is a percentage. -/
theorem prefixStabilityPct_bounds {tally : TopologyTally} (le : tally.churnPairs ≤ tally.totalPairs) {pct : ℚ}
    (shown : (finalizeReport tally).prefixStabilityPct = some pct) : 0 ≤ pct ∧ pct ≤ 100 := by
  unfold finalizeReport at shown
  dsimp only at shown
  split at shown
  · cases shown
    exact stabilityPct_bounds le
  · cases shown

/-- A window with pairs shows the losses of all layers. -/
theorem layerLosses_finalizeReport {tally : TopologyTally} (measured : 0 < tally.totalPairs) :
    ((finalizeReport tally).layers.map fun stats => stats.estimatedPrefixLossTokens.getD 0).sum +
      (finalizeReport tally).unattributedLossTokens = lossTotal tally := by
  have rows : (finalizeReport tally).layers = topologyLayerOrder.map fun layer => finishLayer (tally.layers layer) := by
    unfold finalizeReport
    dsimp only
    rw [if_pos measured]
  have losses : ∀ counts, (finishLayer counts).estimatedPrefixLossTokens = counts.estimatedPrefixLossTokens :=
    fun counts => congrArg LayerCounts.estimatedPrefixLossTokens (finishLayer_counts counts)
  have unattributed := congrArg TopologyCounts.unattributedLossTokens (finalizeReport_counts tally)
  rw [rows, List.map_map, unattributed, lossTotal]
  simp only [Function.comp_def, losses]

/-- A window without pairs shows no layers. -/
theorem layers_finalizeReport_of_none {tally : TopologyTally} (none : tally.totalPairs = 0) :
    (finalizeReport tally).layers = [] := by
  unfold finalizeReport
  dsimp only
  rw [if_neg (by omega)]

/-- The losses of all pairs, session by session. -/
theorem sum_pairLoss (events : List StoredRequestEvent) (churnEvents : List StoredChurnEvent) :
    ((storedPairs events).map (pairLoss churnEvents)).sum =
      ∑ session ∈ (events.map fun event => event.sessionHash).toFinset,
        ((consecutive (byId (groupOf (fun event => event.sessionHash) events session))).map
          (pairLoss churnEvents)).sum := by
  rw [storedPairs, List.map_flatMap, List.flatMap_def, List.sum_flatten, List.map_map,
    ← sum_groupBy _ fun group : List StoredRequestEvent =>
      ((consecutive (byId group)).map (pairLoss churnEvents)).sum]
  rfl

/-- The accounts of the report on any events. -/
theorem storedReport_accounts (events : List StoredRequestEvent) (churnEvents : List StoredChurnEvent) :
    ReportAccounts events churnEvents (storedReport events churnEvents) := by
  have counts := finalizeReport_counts (storedTally events churnEvents)
  have total : (storedReport events churnEvents).totalPairs = (storedTally events churnEvents).totalPairs :=
    congrArg TopologyCounts.totalPairs counts
  constructor
  case totalPairs => rw [total, storedTally_totalPairs, length_storedPairs]
  case layers =>
    intro stats row
    obtain ⟨layer, rfl⟩ := mem_layers row
    rw [finishLayer_counts, total]
    exact ⟨storedTally_changes_le events churnEvents layer, storedTally_pairs_le events churnEvents layer⟩
  case churnPairs =>
    have churn : (storedReport events churnEvents).churnPairs = (storedTally events churnEvents).churnPairs :=
      congrArg TopologyCounts.churnPairs counts
    rw [total, churn]
    exact storedTally_churnPairs_le events churnEvents
  case routes =>
    intro stats row
    obtain ⟨route, rfl⟩ := mem_toolOrdering row
    rw [finishRoute_counts]
    exact routeStats_changes_le events churnEvents route
  case percentages =>
    intro pct listed
    obtain ⟨shown, among, same⟩ := List.mem_filterMap.mp listed
    rw [id_eq] at same
    subst same
    rcases List.mem_cons.mp among with stable | rows
    · exact prefixStabilityPct_bounds (storedTally_churnPairs_le events churnEvents) stable.symm
    · rcases List.mem_append.mp rows with layerRow | routeRow
      · obtain ⟨stats, row, shown⟩ := List.mem_map.mp layerRow
        obtain ⟨layer, rfl⟩ := mem_layers row
        exact finishLayer_pct (storedTally_changes_le events churnEvents layer) shown
      · obtain ⟨stats, row, shown⟩ := List.mem_map.mp routeRow
        obtain ⟨route, rfl⟩ := mem_toolOrdering row
        have le := routeStats_changes_le events churnEvents route
        exact finishRoute_pct (by omega) shown
  case losses =>
    have losses := lossTotal_storedTally events churnEvents
    simp only [churnIndex_get?] at losses
    rw [← sum_pairLoss]
    rcases Nat.eq_zero_or_pos (storedTally events churnEvents).totalPairs with none | measured
    · have nothing : storedPairs events = [] := by
        rw [storedTally_totalPairs] at none
        exact List.eq_nil_of_length_eq_zero none
      rw [nothing, List.map_nil, List.sum_nil, lossTotal] at losses
      have unattributed : (storedReport events churnEvents).unattributedLossTokens = 0 :=
        (congrArg TopologyCounts.unattributedLossTokens counts).trans (Nat.eq_zero_of_add_eq_zero_left losses)
      have rows : (storedReport events churnEvents).layers = [] := layers_finalizeReport_of_none none
      rw [nothing, rows, unattributed]
      rfl
    · exact (layerLosses_finalizeReport measured).trans losses

/-- The report on the last events of a store, for every content of the store and every limit. -/
theorem topology_from_store_accounts (texts : StorageTexts) (store : TelemetryStore) (limit : ℤ)
    {events : List StoredRequestEvent} {churnEvents : List StoredChurnEvent}
    (window : store.recentEvents texts limit = some events) (churn : store.churnList limit = some churnEvents) :
    ∃ report, topologyFromStore texts store limit = some report ∧ ReportAccounts events churnEvents report := by
  refine ⟨storedReport events churnEvents, ?_, storedReport_accounts events churnEvents⟩
  rw [topologyFromStore, window, churn]
  rfl

/-! ### A window -/

/-- A request of a session. -/
def windowRequest (cacheFingerprint systemHash : String) : RequestEventRecord where
  requestFingerprint := "r"
  cacheFingerprint := cacheFingerprint
  provider := "p"
  model := "m"
  outcome := .successUnverified
  sessionHash := some "s"
  timestamp := sampleTime
  systemHash := some systemHash

/-- The prompt of a session changes, and a churn event says what was lost. -/
def promptChanges : List StoreWrite :=
  [.request (windowRequest "c" "y"), .request (windowRequest "d" "z"),
    .churn
      { timestamp := sampleTime
        sessionHash := some "s"
        previousCacheFingerprint := "c"
        newCacheFingerprint := "d"
        estimatedPrefixLossTokens := some 12
        firstDivergentLayer := some "static system prefix" }]

/-- The accounts of this window. -/
theorem topology_from_store_accounts_sample : ∃ store events churnEvents report,
    Execution.exec (storeWrite sampleStorageTexts) {} promptChanges = some store ∧
      store.recentEvents sampleStorageTexts 500 = some events ∧ store.churnList 500 = some churnEvents ∧
        topologyFromStore sampleStorageTexts store 500 = some report ∧
          ReportAccounts events churnEvents report := by
  obtain ⟨store, run⟩ := Option.isSome_iff_exists.mp
    (exec_isSome sampleStorageTexts {} promptChanges)
  have reads := (holding_exec run).readsBack
  obtain ⟨events, window, -⟩ := Option.map_eq_some_iff.mp (reads.requests 500)
  obtain ⟨churnEvents, churn, -⟩ := Option.map_eq_some_iff.mp (reads.churn 500)
  obtain ⟨report, shown, accounts⟩ := topology_from_store_accounts sampleStorageTexts store 500 window churn
  exact ⟨store, events, churnEvents, report, run, window, churn, shown, accounts⟩

end CachePilot
