/-
Module: CachePilot.Core.TopologyReport
Layer: Core
Purpose: The topology report: how often each layer and each route's tool ordering changed over consecutive requests,
  and what prefix was lost with it. The offline view compares snapshots of hashes; the stored view pairs the request
  events of each session, and reads the sub-layers and the losses off the churn events of the pairs. Both count each
  pair with the same steps. Percentages are exact up to their rounding to one place; floats are idealised.
Trusted boundary: the reading of topology.py, with exact percentages
Main exports: TopologyLayerStats, ToolOrderingStats, TopologyReport, ToolVerdict, Topology.toolVerdict,
  Topology.countLayers, Topology.countTools, Topology.attributeLoss, Topology.storePair, Topology.churnIndex,
  Topology.storedReport, topologyFromStore
-/
import CachePilot.Core.TelemetryStore
import CachePilot.Core.Topology
import CachePilot.Lib.Grouping
import CachePilot.Lib.Rounding

namespace CachePilot

/-- The stored name of a content layer. -/
def ContentLayer.value : ContentLayer → String
  | .systemPrefix => "static system prefix"
  | .systemSuffix => "dynamic system suffix"
  | .tools => "tool schemas"
  | .history => "historical conversation"
  | .historyTail => "recent conversation tail"

/-- The content layer with a stored name. -/
def ContentLayer.ofValue (name : String) : Option ContentLayer :=
  contentLayerOrder.find? fun layer => layer.value = name

/-- Display order of the topology layers. -/
def topologyLayerOrder : List Layer :=
  [.content .systemPrefix, .content .systemSuffix, .content .tools, .content .history, .content .historyTail,
    .route, .model, .cacheKey]

/-! ### Reports -/

/-- What is counted of one layer. Attribution-based rows count only the pairs whose attribution resolved the layer. -/
structure LayerCounts where
  layer : Layer
  pairs : ℕ := 0
  changes : ℕ := 0
  estimatedPrefixLossTokens : Option ℕ := none
  attributionBased : Bool := false
deriving DecidableEq

/-- One layer's stability and economic value over the window: what is counted, and the derived fields. -/
structure TopologyLayerStats extends LayerCounts where
  stabilityPct : Option ℚ := none
  changeFrequency : String := "no observations"
deriving DecidableEq

/-- What is counted of one route's tool ordering. -/
structure RouteCounts where
  route : Option String := none
  pairs : ℕ := 0
  toolSetChanges : ℕ := 0
  orderPermutations : ℕ := 0
deriving DecidableEq

/-- One route's tool-schema ordering stability: what is counted, and the derived field. -/
structure ToolOrderingStats extends RouteCounts where
  orderingStabilityPct : Option ℚ := none
deriving DecidableEq

/-- The counts of a window. Gaps are churn pairs whose system or history change could not be attributed to a
    sub-layer; unattributed losses are those that could not be pinned to a content layer. -/
structure TopologyCounts where
  sessions : ℕ := 0
  totalPairs : ℕ := 0
  churnPairs : ℕ := 0
  attributionGaps : ℕ := 0
  unattributedLossTokens : ℕ := 0
deriving DecidableEq

/-- The full topology measurement view. -/
structure TopologyReport extends TopologyCounts where
  layers : List TopologyLayerStats := []
  toolOrdering : List ToolOrderingStats := []
  prefixStabilityPct : Option ℚ := none
deriving DecidableEq

/-- What is counted while the pairs are gone through. -/
structure TopologyTally extends TopologyCounts where
  layers : Layer → LayerCounts := fun layer => { layer }
  toolRoutes : Dict (Option String) RouteCounts := ∅

/-- What the tool ordering view reads of a request. -/
structure ToolHashes where
  toolsHash : Option String
  toolsSetHash : Option String
  routeHash : Option String
deriving DecidableEq

def LayeredHashes.toolHashes (hashes : LayeredHashes) : ToolHashes where
  toolsHash := hashes.toolsHash
  toolsSetHash := hashes.toolsSetHash
  routeHash := hashes.routeHash

def StoredRequestEvent.toolHashes (event : StoredRequestEvent) : ToolHashes where
  toolsHash := event.toolsHash
  toolsSetHash := event.toolsSetHash
  routeHash := event.routeHash

/-- How the tools of two requests compare. -/
inductive ToolVerdict where
  | unchanged
  | orderPermutation
  | toolSetChange
deriving DecidableEq, Repr

/-- The change of a layer. -/
def PairFlags.flag (flags : PairFlags) : Layer → Option Bool
  | .content .systemPrefix => flags.systemPrefix
  | .content .systemSuffix => flags.systemSuffix
  | .content .tools => flags.tools
  | .content .history => flags.history
  | .content .historyTail => flags.historyTail
  | .route => flags.route
  | .model => flags.model
  | .cacheKey => flags.cacheKey

namespace Topology

/-! ### Counting one pair -/

/-- Count a pair for a layer, unless its change is not decidable. -/
def countLayer (attributed : Bool) (changed : Option Bool) (stats : LayerCounts) : LayerCounts :=
  match changed with
  | none => stats
  | some changed =>
      { stats with
        pairs := stats.pairs + 1
        changes := stats.changes + changed.toNat
        attributionBased := stats.attributionBased || attributed }

/-- Count a pair for all layers. -/
def countLayers (attributed : Layer → Bool) (flags : PairFlags) (tally : TopologyTally) : TopologyTally :=
  { tally with layers := fun layer => countLayer (attributed layer) (flags.flag layer) (tally.layers layer) }

/-- Count a pair whose cache fingerprint moved. -/
def countChurn (moved : Bool) (tally : TopologyTally) : TopologyTally :=
  { tally with churnPairs := tally.churnPairs + moved.toNat }

/-- Compare the tools of two requests, if all of their hashes are known. -/
def toolVerdict (previous current : ToolHashes) : Option ToolVerdict :=
  match previous.toolsSetHash, current.toolsSetHash, previous.toolsHash, current.toolsHash with
  | some previousSet, some currentSet, some previousTools, some currentTools =>
      if previousTools = currentTools then some .unchanged
      else if previousSet = currentSet then some .orderPermutation
      else some .toolSetChange
  | _, _, _, _ => none

/-- Count a pair for its route. -/
def countVerdict (verdict : ToolVerdict) (stats : RouteCounts) : RouteCounts :=
  let stats := { stats with pairs := stats.pairs + 1 }
  match verdict with
  | .unchanged => stats
  | .orderPermutation => { stats with orderPermutations := stats.orderPermutations + 1 }
  | .toolSetChange => { stats with toolSetChanges := stats.toolSetChanges + 1 }

/-- The route that a pair is counted for. -/
def pairRoute (previous current : ToolHashes) : Option String := current.routeHash.or previous.routeHash

/-- Count the tool ordering of a pair. -/
def countTools (previous current : ToolHashes) (tally : TopologyTally) : TopologyTally :=
  match toolVerdict previous current with
  | none => tally
  | some verdict =>
      let route := pairRoute previous current
      let stats := (tally.toolRoutes.get? route).getD { route }
      { tally with toolRoutes := tally.toolRoutes.set route (countVerdict verdict stats) }

/-! ### Finishing -/

/-- The share that did not change, in percent. -/
def stabilityPct (changes pairs : ℕ) : ℚ := roundPlaces 1 (100 * (1 - (changes : ℚ) / pairs))

/-- How often something changed, in words. -/
def changedFrequency (changedFlags : List Bool) (subject : String) : String :=
  let total := changedFlags.length
  let changed := changedFlags.countP id
  if total = 0 then "no observations"
  else if changed = 0 then "unchanged in the last " ++ toString total ++ " " ++ subject
  else "changed " ++ toString changed ++ "/" ++ toString total ++ " " ++ subject

/-- Fill the derived fields of a layer. -/
def finishLayer (counts : LayerCounts) : TopologyLayerStats :=
  let stats : TopologyLayerStats := { counts with }
  if 0 < counts.pairs then
    { stats with
      stabilityPct := some (stabilityPct counts.changes counts.pairs)
      changeFrequency :=
        changedFrequency
          (List.replicate counts.changes true ++ List.replicate (counts.pairs - counts.changes) false) "requests" }
  else stats

/-- Fill the derived field of a route. -/
def finishRoute (counts : RouteCounts) : ToolOrderingStats :=
  let stats : ToolOrderingStats := { counts with }
  if 0 < counts.pairs then
    { stats with orderingStabilityPct := some (stabilityPct counts.orderPermutations counts.pairs) }
  else stats

/-- The order of the routes: no route first, then by name. -/
def routeLe : Option String → Option String → Prop
  | none, _ => True
  | some _, none => False
  | some a, some b => a ≤ b

instance : DecidableRel routeLe
  | none, _ => isTrue trivial
  | some _, none => isFalse id
  | some a, some b => inferInstanceAs (Decidable (a ≤ b))

/-- Fill the derived fields and order the rows. Without a pair there is nothing to measure. -/
def finalizeReport (tally : TopologyTally) : TopologyReport :=
  let report : TopologyReport := { tally.toTopologyCounts with }
  if 0 < tally.totalPairs then
    { report with
      layers := topologyLayerOrder.map fun layer => finishLayer (tally.layers layer)
      prefixStabilityPct := some (stabilityPct tally.churnPairs tally.totalPairs)
      toolOrdering :=
        ((tally.toolRoutes.keys.insertionSort routeLe).filterMap tally.toolRoutes.get?).map finishRoute }
  else report

/-! ### The offline view -/

/-- Count a pair of snapshots. -/
def snapshotPair (tally : TopologyTally) (pair : LayeredHashes × LayeredHashes) : TopologyTally :=
  let flags := pairFlagsFromHashes pair.1 pair.2
  let fpMoved := decide (pair.1.cacheKey ≠ pair.2.cacheKey) ||
    topologyLayerOrder.any fun layer => flags.flag layer = some true
  countTools pair.1.toolHashes pair.2.toolHashes (countLayers (fun _ => false) flags (countChurn fpMoved tally))

/-! ### The stored view -/

/-- The key of a churn event: its session and its transition. -/
def churnKey (event : StoredChurnEvent) : Option String × String × String :=
  (event.sessionHash, event.previousCacheFingerprint, event.newCacheFingerprint)

/-- Index churn events by their keys; the last one of a key stays. -/
def churnIndex (churnEvents : List StoredChurnEvent) : Dict (Option String × String × String) StoredChurnEvent :=
  churnEvents.foldl (fun index event => index.set (churnKey event) event) ∅

/-- The key of the churn event of a pair. -/
def pairKey (pair : StoredRequestEvent × StoredRequestEvent) : Option String × String × String :=
  (pair.1.sessionHash, pair.1.cacheFingerprint, pair.2.cacheFingerprint)

/-- The content layer that a churn event names. -/
def firstDivergent (churn : Option StoredChurnEvent) : Option ContentLayer :=
  churn.bind fun churn => churn.firstDivergentLayer.bind ContentLayer.ofValue

/-- The loss that a churn event carries. -/
def churnLoss (churn : Option StoredChurnEvent) : Option ℕ := churn.bind fun churn => churn.estimatedPrefixLossTokens

/-- The layered content layers, which are attributed. -/
def isAttributed : Layer → Bool
  | .content .tools => false
  | .content _ => true
  | _ => false

/-- The flat hashes of a pair, and its sub-layers as far as they are attributed. The cache key changed if nothing
    else did. -/
def storedFlags (previous current : StoredRequestEvent) (layer : Option ContentLayer) : PairFlags :=
  let systemChanged := diff previous.systemHash current.systemHash
  let historyChanged := diff previous.historyHash current.historyHash
  let toolsChanged := diff previous.toolsHash current.toolsHash
  let routeChanged := diff previous.routeHash current.routeHash
  let modelChanged := diff (some previous.model) (some current.model)
  let flatMoved :=
    [systemChanged, toolsChanged, historyChanged, routeChanged, modelChanged].any fun flag => flag = some true
  let status := subLayerStatus previous.systemHash current.systemHash previous.historyHash current.historyHash layer
  { systemPrefix := status.systemPrefix
    systemSuffix := status.systemSuffix
    tools := toolsChanged
    history := status.history
    historyTail := status.historyTail
    route := routeChanged
    model := modelChanged
    cacheKey := if previous.cacheFingerprint ≠ current.cacheFingerprint then some !flatMoved else none }

/-- Disclose a pair whose system or history changed when no layered sub-layer is named. -/
def countGap (previous current : StoredRequestEvent) (layer : Option ContentLayer) (tally : TopologyTally) :
    TopologyTally :=
  let changed := diff previous.systemHash current.systemHash = some true ∨
    diff previous.historyHash current.historyHash = some true
  let named := layer.elim false fun layer => isAttributed (.content layer)
  if changed ∧ named = false then
    { tally with attributionGaps := tally.attributionGaps + 1 }
  else tally

/-- Attribute a loss to the content layer that is named, if there is one. -/
def attributeLoss (layer : Option ContentLayer) (loss : Option ℕ) (tally : TopologyTally) : TopologyTally :=
  match layer, loss with
  | _, none => tally
  | some layer, some loss =>
      let target := tally.layers (.content layer)
      let target :=
        { target with estimatedPrefixLossTokens := some (target.estimatedPrefixLossTokens.getD 0 + loss) }
      { tally with layers := Function.update tally.layers (.content layer) target }
  | none, some loss => { tally with unattributedLossTokens := tally.unattributedLossTokens + loss }

/-- Count a pair of stored events. -/
def storePair (index : Dict (Option String × String × String) StoredChurnEvent) (tally : TopologyTally)
    (pair : StoredRequestEvent × StoredRequestEvent) : TopologyTally :=
  let tally := { tally with totalPairs := tally.totalPairs + 1 }
  let churn := index.get? (pairKey pair)
  let layer := firstDivergent churn
  let tally := countChurn (decide (pair.1.cacheFingerprint ≠ pair.2.cacheFingerprint)) tally
  let tally := countLayers isAttributed (storedFlags pair.1 pair.2 layer) tally
  let tally := countGap pair.1 pair.2 layer tally
  let tally := attributeLoss layer (churnLoss churn) tally
  countTools pair.1.toolHashes pair.2.toolHashes tally

/-- The events of a session by row id. -/
def byId (events : List StoredRequestEvent) : List StoredRequestEvent :=
  events.insertionSort fun a b => a.id ≤ b.id

/-- Count the pairs of a session. -/
def storeSession (index : Dict (Option String × String × String) StoredChurnEvent) (tally : TopologyTally)
    (events : List StoredRequestEvent) : TopologyTally :=
  (Grouping.consecutive (byId events)).foldl (storePair index)
    { tally with sessions := tally.sessions + 1 }

/-- What the pairs of these events count. -/
def storedTally (events : List StoredRequestEvent) (churnEvents : List StoredChurnEvent) : TopologyTally :=
  (Grouping.groupBy (fun event => event.sessionHash) events).values.foldl (storeSession (churnIndex churnEvents)) {}

/-- The report on these events. -/
def storedReport (events : List StoredRequestEvent) (churnEvents : List StoredChurnEvent) : TopologyReport :=
  finalizeReport (storedTally events churnEvents)

end Topology

open CachePilot.Topology

/-- Topology measurement over the last stored request events. -/
def topologyFromStore (texts : StorageTexts) (store : TelemetryStore) (limit : ℤ) : Option TopologyReport := do
  let events ← store.recentEvents texts limit
  let churnEvents ← store.churnList limit
  pure (storedReport events churnEvents)

end CachePilot
