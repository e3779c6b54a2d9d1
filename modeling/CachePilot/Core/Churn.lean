/-
Module: CachePilot.Core.Churn
Layer: Core
Purpose: The layered view of a request and the churn classifier. A request is split into content layers in prefix
  order, each with its hash; a pair of requests is classified by comparing these hashes, and the first layer that
  differs is located in its text. The classifier only reads. The searches of the volatile patterns are
  parameters; values of a body are JSON, so the fallback encoder for other values has no case. Confidence is
  rounded to two places in the source, which its values have anyway.
Trusted boundary: the reading of churn.py; the digest, the pattern searches and the texts of floats are parameters
Main exports: ContentLayer, splitSystemLayers, LayeredHashes, RequestContent, RequestContent.toHashes,
  requestContentFromPayload, ChurnFlags, ChurnClassification, Churn.firstDivergence, Churn.classify,
  Churn.classifyHashes
-/
import CachePilot.Core.Adapters
import CachePilot.Core.Identity

namespace CachePilot

/-! ### Layers -/

/-- The content layers of a request. -/
inductive ContentLayer where
  | systemPrefix
  | systemSuffix
  | tools
  | history
  | historyTail
deriving DecidableEq, Repr

/-- The layers of a request: its content layers and the identity layers behind them. -/
inductive Layer where
  | content (layer : ContentLayer)
  | route
  | model
  | cacheKey
deriving DecidableEq, Repr

/-- Content layers in prefix order. -/
def contentLayerOrder : List ContentLayer := [.systemPrefix, .systemSuffix, .tools, .history, .historyTail]

/-- The volatile patterns: where the first match of each starts, and whether one of the extended patterns
    matches. -/
structure ChurnPatterns where
  volatile : List (String → Option ℕ)
  prefixVolatile : List (String → Bool)

/-- No volatile patterns. -/
def noPatterns : ChurnPatterns where
  volatile := []
  prefixVolatile := []

/-- The part of a text from one position up to another. -/
def textSlice (text : String) (start stop : ℕ) : String :=
  String.ofList ((text.toList.take stop).drop start)

/-- Split a system prompt into its static prefix and its dynamic suffix, at the first match of the first pattern
    that matches. -/
def splitSystemLayers (patterns : ChurnPatterns) (system : String) : String × String :=
  if system = "" then ("", "")
  else
    match patterns.volatile.findSome? fun search => search system with
    | some start => (String.ofList (system.toList.take start), String.ofList (system.toList.drop start))
    | none => (system, "")

/-- The prefix and the suffix are the prompt again. -/
theorem splitSystemLayers_append (patterns : ChurnPatterns) (system : String) :
    (splitSystemLayers patterns system).1 ++ (splitSystemLayers patterns system).2 = system := by
  unfold splitSystemLayers
  split
  · rename_i empty
    subst empty
    rfl
  · split
    · rw [← String.ofList_append, List.take_append_drop, String.ofList_toList]
    · exact String.append_empty

/-! ### Hashes -/

/-- The hashes of one request, by layer. A layered hash is none when the snapshot was built from stored hashes
    only. -/
structure LayeredHashes where
  systemPrefixHash : Option String := none
  systemSuffixHash : Option String := none
  systemHash : Option String := none
  toolsHash : Option String := none
  toolsSetHash : Option String := none
  historyHash : Option String := none
  historyPrefixHash : Option String := none
  historyTailHash : Option String := none
  routeHash : Option String := none
  model : Option String := none
  cacheKey : Option String := none
deriving DecidableEq

/-- The hash of a content layer. -/
def LayeredHashes.layerHash (hashes : LayeredHashes) : ContentLayer → Option String
  | .systemPrefix => hashes.systemPrefixHash
  | .systemSuffix => hashes.systemSuffixHash
  | .tools => hashes.toolsHash
  | .history => hashes.historyPrefixHash
  | .historyTail => hashes.historyTailHash

/-- The content of one request. Tools are objects. -/
structure RequestContent where
  system : Option String := none
  messages : List Json := []
  tools : Option (List (List (String × Json))) := none
  routeHash : Option String := none
  model : Option String := none
  cacheKey : Option String := none

namespace RequestContent

variable (patterns : ChurnPatterns) (prims : TextPrimitives) (content : RequestContent)

/-- The tools as JSON values. -/
def toolItems : Option (List Json) := content.tools.map fun tools => tools.map .obj

/-- All messages but the last one. -/
def historyMessages : List Json := content.messages.dropLast

/-- The last message, if there is one. -/
def tailMessages : List Json := content.messages.drop (content.messages.length - 1)

/-- Hash the content by layer. -/
def toHashes : LayeredHashes where
  systemPrefixHash := some (hashContent prims (some (splitSystemLayers patterns (content.system.getD "")).1))
  systemSuffixHash := some (hashContent prims (some (splitSystemLayers patterns (content.system.getD "")).2))
  systemHash := some (hashContent prims content.system)
  toolsHash := some (hashContent prims (content.toolItems.map fun tools => canonicalJson prims (.arr tools)))
  toolsSetHash := some (CachePilot.toolsSetHash prims content.toolItems)
  historyHash :=
    if content.messages = [] then none
    else some (hashContent prims (some (canonicalJson prims (.arr content.messages))))
  historyPrefixHash := some (hashContent prims (some (canonicalJson prims (.arr content.historyMessages))))
  historyTailHash := some (hashContent prims (some (canonicalJson prims (.arr content.tailMessages))))
  routeHash := content.routeHash
  model := content.model
  cacheKey := content.cacheKey

/-- Canonical serialization of the whole view. -/
def serialize : String :=
  canonicalJson prims (.obj
    [("system", Json.ofText content.system), ("messages", .arr content.messages),
      ("tools", content.toolItems.elim .null .arr), ("route_hash", Json.ofText content.routeHash),
      ("model", Json.ofText content.model), ("cache_key", Json.ofText content.cacheKey)])

/-- The text of a content layer, in which a divergence is located. -/
def layerText : ContentLayer → String
  | .systemPrefix => (splitSystemLayers patterns (content.system.getD "")).1
  | .systemSuffix => (splitSystemLayers patterns (content.system.getD "")).2
  | .tools => canonicalJson prims (content.toolItems.elim .null .arr)
  | .history => canonicalJson prims (.arr content.historyMessages)
  | .historyTail => canonicalJson prims (.arr content.tailMessages)

end RequestContent

/-! ### Reading a payload -/

/-- The members of a value that is an object; other values are refused. -/
def Json.mapping? : Json → Option (List (String × Json))
  | .obj members => some members
  | _ => none

/-- A text or null; other values are refused. -/
def Json.optionalText? : Json → Option (Option String)
  | .null => some none
  | .str value => some (some value)
  | _ => none

/-- The contents of the system messages, joined by line breaks. -/
def systemRoleText (prims : TextPrimitives) (messages : List Json) : Option String :=
  let systemTexts := (messages.filter isSystemMessage).map fun message =>
    textOrCanonical prims (messageContent message)
  if systemTexts = [] then none else some ("\n".intercalate systemTexts)

/-- The system of a payload: a top-level text, else the system messages. -/
def contentSystem (prims : TextPrimitives) (payload : List (String × Json)) (messages : List Json) :
    Option String :=
  match getOrNull payload "system" with
  | .str system => some system
  | _ => systemRoleText prims messages

/-- The tools of a payload, or its functions, when they are a list; an item that is no object is refused. -/
def contentTools (payload : List (String × Json)) : Option (Option (List (List (String × Json)))) :=
  match (getOrNull payload "tools").orElse (getOrNull payload "functions") with
  | .arr tools => (tools.mapM Json.mapping?).map some
  | _ => some none

/-- The model that is passed, or that of the payload, which has to be a text or null. -/
def contentModel (payload : List (String × Json)) (model : Option String) : Option (Option String) :=
  match model with
  | some model => some (some model)
  | none => (getOrNull payload "model").optionalText?

/-- Extract the layered view from a payload; none where the source raises. -/
def requestContentFromPayload (prims : TextPrimitives) (payload : List (String × Json))
    (routeHash model cacheKey : Option String) : Option RequestContent := do
  let messages ← ((getOrNull payload "messages").orElse (.arr [])).iterate
  let tools ← contentTools payload
  let model ← contentModel payload model
  pure
    { system := contentSystem prims payload messages
      messages := messages.filter fun message => !isSystemMessage message
      tools, routeHash, model, cacheKey }

/-! ### Classifications -/

/-- Approximate location of the first divergent byte. -/
structure DivergenceHint where
  layer : ContentLayer
  offset : ℕ
  snippet : String
deriving DecidableEq, Repr

/-- Which layers have changed, as a churn event says it. -/
structure ChurnFlags where
  systemChanged : Bool := false
  toolsChanged : Bool := false
  historyChanged : Bool := false
  routeChanged : Bool := false
  modelChanged : Bool := false
  cacheKeyChanged : Bool := false
deriving DecidableEq, Repr

/-- The flags in the order in which they are counted. -/
def ChurnFlags.flags (f : ChurnFlags) : List Bool :=
  [f.systemChanged, f.toolsChanged, f.historyChanged, f.routeChanged, f.cacheKeyChanged, f.modelChanged]

/-- The flags of the tracked layers, without that of the cache key. -/
def ChurnFlags.tracked (f : ChurnFlags) : ChurnFlags := { f with cacheKeyChanged := false }

/-- The system prompt is the only flat layer that changed. -/
def ChurnFlags.onlySystemChanged (f : ChurnFlags) : Bool :=
  f.systemChanged &&
    !(f.toolsChanged || f.historyChanged || f.routeChanged || f.cacheKeyChanged || f.modelChanged)

/-- One classification of a pair of requests. A layered flag is none when it is not computable. -/
structure ChurnClassification extends ChurnFlags where
  systemPrefixChanged : Option Bool := none
  systemSuffixChanged : Option Bool := none
  historyPrefixChanged : Option Bool := none
  historyTailChanged : Option Bool := none
  firstDivergentByte : Option DivergenceHint := none
  estimatedPrefixLossTokens : Option ℕ := none
  likelyCause : Option String := none
  confidence : Option ℚ := none

namespace Churn

/-- The cause and the base confidence of a primary layer. -/
def causeAndBase : Layer → String × ℚ
  | .route => ("router affinity loss", 92 / 100)
  | .model => ("provider failover (model switched)", 85 / 100)
  | .content .systemPrefix => ("changing memory prefixes (static system prefix moved)", 90 / 100)
  | .content .systemSuffix => ("volatile value inserted into prompt prefix", 85 / 100)
  | .content .tools => ("tool list mutation", 80 / 100)
  | .content .history => ("conversation history rewritten (compression/truncation)", 75 / 100)
  | .content .historyTail => ("history-boundary churn (recent conversation tail moved)", 70 / 100)
  | .cacheKey => ("prompt cache key mutation", 70 / 100)

def systemSuffixChurn : String × ℚ :=
  ("system_suffix_churn (volatile value in dynamic system suffix)", 85 / 100)

def volatileValueInPrefix : String × ℚ :=
  ("volatile_value_in_prefix (volatile value inside static system prefix)", 85 / 100)

/-- The fallbacks when only flat hashes are known. -/
def systemFallback : String × ℚ := ("system prompt changed", 65 / 100)

def historyFallback : String × ℚ := ("conversation history changed", 65 / 100)

/-- The cause when the fingerprint moved and no tracked layer did. -/
def residual : String × ℚ := ("cache identity changed outside the tracked layers", 60 / 100)

end Churn

namespace ChurnClassification

open Churn

/-- The content layer is flagged as changed. -/
def layerChanged (c : ChurnClassification) : ContentLayer → Bool
  | .systemPrefix => c.systemPrefixChanged.getD false
  | .systemSuffix => c.systemSuffixChanged.getD false
  | .tools => c.toolsChanged
  | .history => c.historyPrefixChanged.getD false
  | .historyTail => c.historyTailChanged.getD false

/-- The dominant cause and its base confidence: identity first, then the earliest content layer. -/
def primaryCause (c : ChurnClassification) (cacheIdentityChanged : Bool) : Option (String × ℚ) :=
  if c.routeChanged then some (causeAndBase .route)
  else if c.modelChanged then some (causeAndBase .model)
  else if c.systemSuffixChanged = some true ∧ c.systemPrefixChanged = some false then
    if c.onlySystemChanged then some systemSuffixChurn
    else some (causeAndBase (.content .systemSuffix))
  else if c.systemPrefixChanged = some true ∧ c.systemSuffixChanged = some false then
    some (causeAndBase (.content .systemPrefix))
  else
    match contentLayerOrder.find? c.layerChanged with
    | some layer => some (causeAndBase (.content layer))
    | none =>
        if c.systemChanged then some systemFallback
        else if c.historyChanged then some historyFallback
        else if c.cacheKeyChanged then some (causeAndBase .cacheKey)
        else if cacheIdentityChanged then some residual
        else none

/-- The base confidence less a tenth for every extra flat layer that changed, and at least a half. -/
def confidenceOf (base : ℚ) (c : ChurnClassification) : ℚ :=
  max (1 / 2) (base - 1 / 10 * ((c.flags.count true - 1 : ℕ) : ℚ))

end ChurnClassification

namespace Churn

/-- Compare two optional hashes: none on either side is not computable. -/
def maybeDiffers (previous current : Option String) : Option Bool :=
  match previous, current with
  | some previous, some current => some (decide (previous ≠ current))
  | _, _ => none

/-- Booleans, cause and confidence from two snapshots of hashes. -/
def classifySnapshots (previous current : LayeredHashes) (cacheIdentityChanged : Bool) :
    ChurnClassification :=
  let classification : ChurnClassification :=
    { systemChanged := decide (previous.systemHash ≠ current.systemHash)
      toolsChanged := decide (previous.toolsHash ≠ current.toolsHash)
      historyChanged := decide (previous.historyHash ≠ current.historyHash)
      routeChanged := decide (previous.routeHash ≠ current.routeHash)
      modelChanged := decide (previous.model ≠ current.model)
      cacheKeyChanged := decide (previous.cacheKey ≠ current.cacheKey)
      systemPrefixChanged := maybeDiffers previous.systemPrefixHash current.systemPrefixHash
      systemSuffixChanged := maybeDiffers previous.systemSuffixHash current.systemSuffixHash
      historyPrefixChanged := maybeDiffers previous.historyPrefixHash current.historyPrefixHash
      historyTailChanged := maybeDiffers previous.historyTailHash current.historyTailHash }
  match classification.primaryCause cacheIdentityChanged with
  | some (cause, base) =>
      { classification with
        likelyCause := some cause
        confidence := some (classification.confidenceOf base) }
  | none => classification

/-- How many characters two texts have in common at the front. -/
def commonPrefixLength : List Char → List Char → ℕ
  | a :: previous, b :: current => if a = b then commonPrefixLength previous current + 1 else 0
  | _, _ => 0

/-- The first position at which two texts differ, or the length of the shorter one. -/
def firstDifferingIndex (previous current : String) : ℕ :=
  commonPrefixLength previous.toList current.toList

/-- A bounded window around a position. -/
def snippet (text : String) (offset : ℕ) : String :=
  let start := offset - 40
  let stop := min text.length (offset + 40)
  (if 0 < start then "\u2026" else "") ++ textSlice text start stop ++
    (if stop < text.length then "\u2026" else "")

/-- First divergent byte across the content layers, in prefix order. -/
def firstDivergence (patterns : ChurnPatterns) (prims : TextPrimitives) (previous current : RequestContent)
    (previousHashes currentHashes : LayeredHashes) : Option DivergenceHint :=
  let moved := contentLayerOrder.find? fun layer =>
    decide (previousHashes.layerHash layer ≠ currentHashes.layerHash layer)
  moved.map fun layer =>
    let currentText := current.layerText patterns prims layer
    let offset := firstDifferingIndex (previous.layerText patterns prims layer) currentText
    { layer, offset, snippet := snippet currentText offset }

/-- Sharpen a cause that is confined to the static prefix, when the prefix looks volatile where it diverges. -/
def refinePrefixVolatility (patterns : ChurnPatterns) (classification : ChurnClassification)
    (current : RequestContent) : ChurnClassification :=
  match classification.firstDivergentByte, current.system with
  | some hint, some system =>
      let front := (splitSystemLayers patterns system).1
      let window := textSlice front (hint.offset - 20) (min front.length (hint.offset + 20))
      if classification.likelyCause = some (causeAndBase (.content .systemPrefix)).1 ∧
          classification.systemPrefixChanged = some true ∧
          classification.systemSuffixChanged = some false ∧
          classification.onlySystemChanged = true ∧ hint.layer = .systemPrefix ∧ front ≠ "" ∧
          patterns.prefixVolatile.any (fun search => search window) = true then
        { classification with
          likelyCause := some volatileValueInPrefix.1
          confidence := some (classification.confidenceOf volatileValueInPrefix.2) }
      else classification
  | _, _ => classification

/-- The characters of the previous serialization that are lost, as tokens of four. -/
def estimatedLoss (previousText currentText : String) : ℕ :=
  if previousText = currentText then 0
  else
    (previousText.length - commonPrefixLength previousText.toList currentText.toList) / 4

/-- Classify one transition from its contents. -/
def classify (patterns : ChurnPatterns) (prims : TextPrimitives) (previous current : RequestContent)
    (cacheIdentityChanged : Bool) : ChurnClassification :=
  let previousHashes := previous.toHashes patterns prims
  let currentHashes := current.toHashes patterns prims
  let classification := classifySnapshots previousHashes currentHashes cacheIdentityChanged
  refinePrefixVolatility patterns
    { classification with
      estimatedPrefixLossTokens := some (estimatedLoss (previous.serialize prims) (current.serialize prims))
      firstDivergentByte := firstDivergence patterns prims previous current previousHashes currentHashes }
    current

/-- Classify one transition from hashes only. -/
def classifyHashes (previous current : LayeredHashes) (cacheIdentityChanged : Bool) : ChurnClassification :=
  classifySnapshots previous current cacheIdentityChanged

/-! ### What a classification says -/

theorem refinePrefixVolatility_flags (patterns : ChurnPatterns) (classification : ChurnClassification)
    (current : RequestContent) :
    (refinePrefixVolatility patterns classification current).toChurnFlags = classification.toChurnFlags ∧
      (refinePrefixVolatility patterns classification current).firstDivergentByte =
        classification.firstDivergentByte := by
  unfold refinePrefixVolatility
  split
  · dsimp only
    split
    · exact ⟨rfl, rfl⟩
    · exact ⟨rfl, rfl⟩
  · exact ⟨rfl, rfl⟩

/-- The flat flags compare the hashes. -/
theorem classifySnapshots_flags (previous current : LayeredHashes) (cacheIdentityChanged : Bool) :
    (classifySnapshots previous current cacheIdentityChanged).toChurnFlags =
      { systemChanged := decide (previous.systemHash ≠ current.systemHash)
        toolsChanged := decide (previous.toolsHash ≠ current.toolsHash)
        historyChanged := decide (previous.historyHash ≠ current.historyHash)
        routeChanged := decide (previous.routeHash ≠ current.routeHash)
        modelChanged := decide (previous.model ≠ current.model)
        cacheKeyChanged := decide (previous.cacheKey ≠ current.cacheKey) } := by
  unfold classifySnapshots
  dsimp only
  split
  · rfl
  · rfl

/-- The flat flags of the content path are those of the hashes of the contents. -/
theorem classify_flags (patterns : ChurnPatterns) (prims : TextPrimitives) (previous current : RequestContent)
    (cacheIdentityChanged : Bool) :
    (classify patterns prims previous current cacheIdentityChanged).toChurnFlags =
      (classifyHashes (previous.toHashes patterns prims) (current.toHashes patterns prims)
        cacheIdentityChanged).toChurnFlags := by
  unfold classify
  dsimp only
  exact (refinePrefixVolatility_flags patterns _ current).1

theorem classify_firstDivergentByte (patterns : ChurnPatterns) (prims : TextPrimitives)
    (previous current : RequestContent) (cacheIdentityChanged : Bool) :
    (classify patterns prims previous current cacheIdentityChanged).firstDivergentByte =
      firstDivergence patterns prims previous current (previous.toHashes patterns prims)
        (current.toHashes patterns prims) := by
  unfold classify
  dsimp only
  exact (refinePrefixVolatility_flags patterns _ current).2

end Churn

end CachePilot
