/-
Module: CachePilot.Core.Topology
Layer: Core
Purpose: The status of a layer over one pair of consecutive requests: exactly, from two snapshots of hashes, and
  in the stored view, where the four sub-layers are inferred from the flat hashes and from the first layer that
  diverged. A stored name that is no content layer counts like none.
Trusted boundary: the reading of the pair status in topology.py
Main exports: SubLayerStatus, Topology.subLayerStatus, PairFlags, Topology.pairFlagsFromHashes
-/
import CachePilot.Core.Churn

namespace CachePilot

/-- What is decided about the four layered sub-layers of one pair: changed, unchanged, or nothing. -/
structure SubLayerStatus where
  systemPrefix : Option Bool := none
  systemSuffix : Option Bool := none
  history : Option Bool := none
  historyTail : Option Bool := none
deriving DecidableEq, Repr

/-- The change of every layer between two snapshots. -/
structure PairFlags where
  systemPrefix : Option Bool
  systemSuffix : Option Bool
  tools : Option Bool
  history : Option Bool
  historyTail : Option Bool
  route : Option Bool
  model : Option Bool
  cacheKey : Option Bool
deriving DecidableEq, Repr

namespace Topology

/-- Compare two hashes: none on either side is not decidable. -/
def diff (previous current : Option String) : Option Bool :=
  match previous, current with
  | some previous, some current => some (decide (previous ≠ current))
  | _, _ => none

/-- Both hashes are known, and they are the same. -/
def identical (a b : Option String) : Bool :=
  match a, b with
  | some a, some b => decide (a = b)
  | _, _ => false

/-- Resolve the four layered sub-layers of one pair. -/
def subLayerStatus (systemHashA systemHashB historyHashA historyHashB : Option String)
    (firstDivergentLayer : Option ContentLayer) : SubLayerStatus :=
  let systemIdentical := identical systemHashA systemHashB
  let historyIdentical := identical historyHashA historyHashB
  let status : SubLayerStatus := {}
  let status :=
    if systemIdentical then { status with systemPrefix := some false, systemSuffix := some false } else status
  let status :=
    if historyIdentical then { status with history := some false, historyTail := some false } else status
  let status :=
    match firstDivergentLayer with
    | some .systemSuffix => { status with systemPrefix := some false, systemSuffix := some true }
    | some .systemPrefix => { status with systemPrefix := some true }
    | some .tools | some .history | some .historyTail =>
        if !systemIdentical then { status with systemPrefix := some false, systemSuffix := some false }
        else status
    | none => status
  match firstDivergentLayer with
  | some .history => { status with history := some true }
  | some .historyTail => { status with history := some false, historyTail := some true }
  | some .systemPrefix | some .systemSuffix | some .tools =>
      if !historyIdentical then { status with history := some false, historyTail := some false } else status
  | none => status

/-- Exact flags from two snapshots. -/
def pairFlagsFromHashes (previous current : LayeredHashes) : PairFlags where
  systemPrefix := diff previous.systemPrefixHash current.systemPrefixHash
  systemSuffix := diff previous.systemSuffixHash current.systemSuffixHash
  tools := diff previous.toolsHash current.toolsHash
  history := diff previous.historyPrefixHash current.historyPrefixHash
  historyTail := diff previous.historyTailHash current.historyTailHash
  route := diff previous.routeHash current.routeHash
  model := diff previous.model current.model
  cacheKey := some (decide (previous.cacheKey ≠ current.cacheKey))

end Topology

end CachePilot
