/-
Module: CachePilot.Proofs.StoredTopology
Layer: Proofs
Purpose: The stored topology view against the exact one. What the stored view decides about the system is what the
  snapshots show, and so is what it decides about the history when the first divergence lies there or nowhere. A
  first divergence before the history says nothing about the history, yet both of its sub-layers are then decided
  as unchanged; so the view is sound exactly when what comes before the history is the same, or the history is.
Trusted boundary: none
Main exports: DigestSeparates, FirstMoved, SoundStatus, storedStatus, stored_status_sound_iff
-/
import CachePilot.Core.Topology
import CachePilot.Proofs.Credentials

namespace CachePilot

open CachePilot.Topology

/-! ### Texts behind the hashes -/

namespace RequestContent

variable (patterns : ChurnPatterns) (prims : TextPrimitives) (content : RequestContent)

/-- The system prompt, empty when it is absent. -/
def systemText : String := content.system.getD ""

/-- The tools in their stable encoding. -/
def toolsText : Option String := content.toolItems.map fun tools => canonicalJson prims (.arr tools)

/-- The messages in their stable encoding. -/
def messagesText : String := canonicalJson prims (.arr content.messages)

/-- The texts that are hashed for the content. -/
def hashedTexts : List String :=
  [(splitSystemLayers patterns content.systemText).1, (splitSystemLayers patterns content.systemText).2,
    content.systemText, (content.toolsText prims).getD "", content.messagesText prims,
    canonicalJson prims (.arr content.historyMessages), canonicalJson prims (.arr content.tailMessages)]

end RequestContent

/-- The digest tells these texts apart. -/
def DigestSeparates (prims : TextPrimitives) (texts : List String) : Prop :=
  ∀ s ∈ texts, ∀ t ∈ texts, prims.sha256 s = prims.sha256 t → s = t

/-- A content layer differs between two snapshots. -/
def layerMoved (previous current : LayeredHashes) (layer : ContentLayer) : Bool :=
  decide (previous.layerHash layer ≠ current.layerHash layer)

section Pairs

variable {patterns : ChurnPatterns} {prims : TextPrimitives} {p c : RequestContent}

theorem layer_unmoved_iff {layer : ContentLayer} {s t : String}
    (separates : DigestSeparates prims (p.hashedTexts patterns prims ++ c.hashedTexts patterns prims))
    (known : s ∈ p.hashedTexts patterns prims) (known' : t ∈ c.hashedTexts patterns prims)
    (hash : (p.toHashes patterns prims).layerHash layer = some (prims.sha256 s))
    (hash' : (c.toHashes patterns prims).layerHash layer = some (prims.sha256 t)) :
    layerMoved (p.toHashes patterns prims) (c.toHashes patterns prims) layer = false ↔ s = t := by
  rw [layerMoved, hash, hash', decide_eq_false_iff_not, not_not, Option.some.injEq]
  constructor
  · exact separates s (List.mem_append_left _ known) t (List.mem_append_right _ known')
  · exact congrArg prims.sha256

/-- The system layers are unmoved exactly when the prompts are the same. -/
theorem system_unmoved_iff
    (separates : DigestSeparates prims (p.hashedTexts patterns prims ++ c.hashedTexts patterns prims)) :
    (layerMoved (p.toHashes patterns prims) (c.toHashes patterns prims) .systemPrefix = false ∧
        layerMoved (p.toHashes patterns prims) (c.toHashes patterns prims) .systemSuffix = false) ↔
      p.systemText = c.systemText := by
  rw [layer_unmoved_iff separates (s := (splitSystemLayers patterns p.systemText).1)
      (t := (splitSystemLayers patterns c.systemText).1) (by simp [RequestContent.hashedTexts])
      (by simp [RequestContent.hashedTexts]) rfl rfl,
    layer_unmoved_iff separates (s := (splitSystemLayers patterns p.systemText).2)
      (t := (splitSystemLayers patterns c.systemText).2) (by simp [RequestContent.hashedTexts])
      (by simp [RequestContent.hashedTexts]) rfl rfl]
  constructor
  · rintro ⟨front, back⟩
    rw [← splitSystemLayers_append patterns p.systemText, ← splitSystemLayers_append patterns c.systemText,
      front, back]
  · intro same
    rw [same]
    exact ⟨rfl, rfl⟩

/-- An encoding of tools is not empty. -/
theorem toolsText_getD_eq_iff (p c : RequestContent) :
    (p.toolsText prims).getD "" = (c.toolsText prims).getD "" ↔ p.toolsText prims = c.toolsText prims := by
  have filled := canonicalJson_arr_ne_empty prims
  unfold RequestContent.toolsText
  cases p.toolItems with
  | none =>
      cases c.toolItems with
      | none => simp
      | some tools => simpa using (filled tools).symm
  | some tools =>
      cases c.toolItems with
      | none => simpa using filled tools
      | some tools' => simp

theorem tools_unmoved_iff
    (separates : DigestSeparates prims (p.hashedTexts patterns prims ++ c.hashedTexts patterns prims)) :
    layerMoved (p.toHashes patterns prims) (c.toHashes patterns prims) .tools = false ↔
      p.toolsText prims = c.toolsText prims := by
  rw [layer_unmoved_iff separates (s := (p.toolsText prims).getD "") (t := (c.toolsText prims).getD "")
    (by simp [RequestContent.hashedTexts]) (by simp [RequestContent.hashedTexts]) rfl rfl,
    toolsText_getD_eq_iff]

/-- Two lists are mapped alike exactly when they are up to their last items, and in them. -/
theorem map_eq_map_iff_last {α β : Type*} (f : α → β) (xs ys : List α) :
    xs.map f = ys.map f ↔ xs.dropLast.map f = ys.dropLast.map f ∧
      (xs.drop (xs.length - 1)).map f = (ys.drop (ys.length - 1)).map f := by
  constructor
  · intro same
    have lengths : xs.length = ys.length := by
      simpa only [List.length_map] using congrArg List.length same
    rw [List.map_dropLast, List.map_dropLast, List.map_drop, List.map_drop, same, lengths]
    exact ⟨rfl, rfl⟩
  · rintro ⟨front, last⟩
    rw [← List.take_append_drop (xs.length - 1) xs, ← List.take_append_drop (ys.length - 1) ys,
      ← List.dropLast_eq_take, ← List.dropLast_eq_take, List.map_append, List.map_append, front, last]

/-- The history layers are unmoved exactly when the messages have one encoding. -/
theorem history_unmoved_iff (plain : FloatsPlain prims)
    (separates : DigestSeparates prims (p.hashedTexts patterns prims ++ c.hashedTexts patterns prims)) :
    (layerMoved (p.toHashes patterns prims) (c.toHashes patterns prims) .history = false ∧
        layerMoved (p.toHashes patterns prims) (c.toHashes patterns prims) .historyTail = false) ↔
      p.messagesText prims = c.messagesText prims := by
  rw [layer_unmoved_iff separates (s := canonicalJson prims (.arr p.historyMessages))
      (t := canonicalJson prims (.arr c.historyMessages)) (by simp [RequestContent.hashedTexts])
      (by simp [RequestContent.hashedTexts]) rfl rfl,
    layer_unmoved_iff separates (s := canonicalJson prims (.arr p.tailMessages))
      (t := canonicalJson prims (.arr c.tailMessages)) (by simp [RequestContent.hashedTexts])
      (by simp [RequestContent.hashedTexts]) rfl rfl,
    RequestContent.messagesText, RequestContent.messagesText, canonicalJson_arr_eq_iff plain,
    canonicalJson_arr_eq_iff plain, canonicalJson_arr_eq_iff plain]
  exact (map_eq_map_iff_last (canonicalJson prims) p.messages c.messages).symm

theorem identical_eq_true {a b : Option String} (same : identical a b = true) : a = b := by
  unfold identical at same
  split at same
  · rw [of_decide_eq_true same]
  · cases same

/-- Identical flat hashes of the system are those of one prompt. -/
theorem systemText_of_identical
    (separates : DigestSeparates prims (p.hashedTexts patterns prims ++ c.hashedTexts patterns prims))
    (same : identical (p.toHashes patterns prims).systemHash (c.toHashes patterns prims).systemHash = true) :
    p.systemText = c.systemText :=
  separates _ (List.mem_append_left _ (by simp [RequestContent.hashedTexts])) _
    (List.mem_append_right _ (by simp [RequestContent.hashedTexts]))
    (Option.some.inj (identical_eq_true same))

/-- Identical flat hashes of the history are those of one list of messages. -/
theorem messagesText_of_identical
    (separates : DigestSeparates prims (p.hashedTexts patterns prims ++ c.hashedTexts patterns prims))
    (same : identical (p.toHashes patterns prims).historyHash (c.toHashes patterns prims).historyHash = true) :
    p.messagesText prims = c.messagesText prims := by
  have hashes : (if p.messages = [] then none else some (hashContent prims (some (p.messagesText prims)))) =
      if c.messages = [] then none else some (hashContent prims (some (c.messagesText prims))) :=
    identical_eq_true same
  by_cases empty : p.messages = []
  · rw [if_pos empty] at hashes
    have empty' : c.messages = [] := by
      by_contra filled
      rw [if_neg filled] at hashes
      cases hashes
    rw [RequestContent.messagesText, RequestContent.messagesText, empty, empty']
  · have empty' : c.messages ≠ [] := by
      intro nothing
      rw [if_neg empty, if_pos nothing] at hashes
      cases hashes
    rw [if_neg empty, if_neg empty'] at hashes
    exact separates _ (List.mem_append_left _ (by simp [RequestContent.hashedTexts])) _
      (List.mem_append_right _ (by simp [RequestContent.hashedTexts])) (Option.some.inj hashes)

end Pairs

/-! ### The first layer that moved -/

/-- Which layer is the first to move, and what that says about the layers before it. -/
inductive FirstMoved (moved : ContentLayer → Bool) : Option ContentLayer → Prop where
  | systemPrefix (here : moved .systemPrefix = true) : FirstMoved moved (some .systemPrefix)
  | systemSuffix (front : moved .systemPrefix = false) (here : moved .systemSuffix = true) :
      FirstMoved moved (some .systemSuffix)
  | tools (system : moved .systemPrefix = false ∧ moved .systemSuffix = false) (here : moved .tools = true) :
      FirstMoved moved (some .tools)
  | history (system : moved .systemPrefix = false ∧ moved .systemSuffix = false)
      (tools : moved .tools = false) (here : moved .history = true) : FirstMoved moved (some .history)
  | historyTail (system : moved .systemPrefix = false ∧ moved .systemSuffix = false)
      (tools : moved .tools = false) (history : moved .history = false) (here : moved .historyTail = true) :
      FirstMoved moved (some .historyTail)
  | nothing (system : moved .systemPrefix = false ∧ moved .systemSuffix = false)
      (tools : moved .tools = false) (history : moved .history = false ∧ moved .historyTail = false) :
      FirstMoved moved none

theorem firstMoved_find (moved : ContentLayer → Bool) : FirstMoved moved (contentLayerOrder.find? moved) := by
  unfold contentLayerOrder
  cases front : moved .systemPrefix with
  | true =>
      rw [List.find?_cons_of_pos front]
      exact .systemPrefix front
  | false =>
      rw [List.find?_cons_of_neg (by simp [front])]
      cases back : moved .systemSuffix with
      | true =>
          rw [List.find?_cons_of_pos back]
          exact .systemSuffix front back
      | false =>
          rw [List.find?_cons_of_neg (by simp [back])]
          cases tools : moved .tools with
          | true =>
              rw [List.find?_cons_of_pos tools]
              exact .tools ⟨front, back⟩ tools
          | false =>
              rw [List.find?_cons_of_neg (by simp [tools])]
              cases history : moved .history with
              | true =>
                  rw [List.find?_cons_of_pos history]
                  exact .history ⟨front, back⟩ tools history
              | false =>
                  rw [List.find?_cons_of_neg (by simp [history])]
                  cases tail : moved .historyTail with
                  | true =>
                      rw [List.find?_cons_of_pos tail]
                      exact .historyTail ⟨front, back⟩ tools history tail
                  | false =>
                      rw [List.find?_cons_of_neg (by simp [tail])]
                      exact .nothing ⟨front, back⟩ tools ⟨history, tail⟩

/-! ### What the stored view decides -/

/-- The status of one pair in the stored view: from the flat hashes, and from the layer that the classifier
    located. -/
def storedStatus (patterns : ChurnPatterns) (prims : TextPrimitives) (previous current : RequestContent)
    (cacheIdentityChanged : Bool) : SubLayerStatus :=
  let previousHashes := previous.toHashes patterns prims
  let currentHashes := current.toHashes patterns prims
  subLayerStatus previousHashes.systemHash currentHashes.systemHash previousHashes.historyHash
    currentHashes.historyHash
    ((Churn.classify patterns prims previous current cacheIdentityChanged).firstDivergentByte.map
      DivergenceHint.layer)

/-- A decided answer is the exact one. -/
def Answers (decided exact : Option Bool) : Prop := ∀ b, decided = some b → exact = some b

/-- Whatever the status decides is what the exact flags say. -/
structure SoundStatus (status : SubLayerStatus) (flags : PairFlags) : Prop where
  systemPrefix : Answers status.systemPrefix flags.systemPrefix
  systemSuffix : Answers status.systemSuffix flags.systemSuffix
  history : Answers status.history flags.history
  historyTail : Answers status.historyTail flags.historyTail

theorem answers_some {b moved : Bool} : Answers (some b) (some moved) ↔ moved = b := by
  simp [Answers, eq_comm]

/-- An answer that needs identical parents is right when these have unmoved parts. -/
theorem answers_unchanged {same moved : Bool} (unmoved : same = true → moved = false) :
    Answers (if same = true then some false else none) (some moved) := by
  cases same with
  | true => exact answers_some.2 (unmoved rfl)
  | false => exact fun b decided => by cases decided

section Status

variable (systemHash systemHash' historyHash historyHash' : Option String)

/-- A first divergence in the system prefix leaves the suffix open, and takes the history for unchanged. -/
theorem status_systemPrefix :
    subLayerStatus systemHash systemHash' historyHash historyHash' (some .systemPrefix) =
      { systemPrefix := some true
        systemSuffix := if identical systemHash systemHash' = true then some false else none
        history := some false
        historyTail := some false } := by
  unfold subLayerStatus
  cases identical systemHash systemHash' <;> cases identical historyHash historyHash' <;> rfl

theorem status_systemSuffix :
    subLayerStatus systemHash systemHash' historyHash historyHash' (some .systemSuffix) =
      { systemPrefix := some false
        systemSuffix := some true
        history := some false
        historyTail := some false } := by
  unfold subLayerStatus
  cases identical systemHash systemHash' <;> cases identical historyHash historyHash' <;> rfl

theorem status_tools :
    subLayerStatus systemHash systemHash' historyHash historyHash' (some .tools) =
      { systemPrefix := some false
        systemSuffix := some false
        history := some false
        historyTail := some false } := by
  unfold subLayerStatus
  cases identical systemHash systemHash' <;> cases identical historyHash historyHash' <;> rfl

/-- A first divergence in the history leaves the tail open. -/
theorem status_history :
    subLayerStatus systemHash systemHash' historyHash historyHash' (some .history) =
      { systemPrefix := some false
        systemSuffix := some false
        history := some true
        historyTail := if identical historyHash historyHash' = true then some false else none } := by
  unfold subLayerStatus
  cases identical systemHash systemHash' <;> cases identical historyHash historyHash' <;> rfl

theorem status_historyTail :
    subLayerStatus systemHash systemHash' historyHash historyHash' (some .historyTail) =
      { systemPrefix := some false
        systemSuffix := some false
        history := some false
        historyTail := some true } := by
  unfold subLayerStatus
  cases identical systemHash systemHash' <;> cases identical historyHash historyHash' <;> rfl

/-- Without a divergence only the flat hashes decide. -/
theorem status_none :
    subLayerStatus systemHash systemHash' historyHash historyHash' none =
      { systemPrefix := if identical systemHash systemHash' = true then some false else none
        systemSuffix := if identical systemHash systemHash' = true then some false else none
        history := if identical historyHash historyHash' = true then some false else none
        historyTail := if identical historyHash historyHash' = true then some false else none } := by
  unfold subLayerStatus
  cases identical systemHash systemHash' <;> cases identical historyHash historyHash' <;> rfl

end Status

/-- The four exact flags say which of the sub-layers moved. -/
structure ExactFlags (flags : PairFlags) (moved : ContentLayer → Bool) : Prop where
  systemPrefix : flags.systemPrefix = some (moved .systemPrefix)
  systemSuffix : flags.systemSuffix = some (moved .systemSuffix)
  history : flags.history = some (moved .history)
  historyTail : flags.historyTail = some (moved .historyTail)

/-- Where both history layers are taken for unchanged, soundness needs that they are. -/
theorem sound_iff_of_unchanged {moved : ContentLayer → Bool} {flags : PairFlags}
    {systemPrefix systemSuffix : Option Bool} (exact : ExactFlags flags moved)
    (front : Answers systemPrefix (some (moved .systemPrefix)))
    (back : Answers systemSuffix (some (moved .systemSuffix))) :
    SoundStatus { systemPrefix, systemSuffix, history := some false, historyTail := some false } flags ↔
      moved .history = false ∧ moved .historyTail = false := by
  constructor
  · intro sound
    have history := sound.history
    have historyTail := sound.historyTail
    rw [exact.history] at history
    rw [exact.historyTail] at historyTail
    exact ⟨answers_some.1 history, answers_some.1 historyTail⟩
  · rintro ⟨history, historyTail⟩
    constructor
    · rw [exact.systemPrefix]
      exact front
    · rw [exact.systemSuffix]
      exact back
    · rw [exact.history]
      exact answers_some.2 history
    · rw [exact.historyTail]
      exact answers_some.2 historyTail

/-- The stored status, given the first layer that moved and that identical parents have unmoved parts. -/
theorem status_sound_iff {moved : ContentLayer → Bool} {first : Option ContentLayer}
    (location : FirstMoved moved first) {flags : PairFlags} (exact : ExactFlags flags moved)
    {systemHash systemHash' historyHash historyHash' : Option String}
    (system : identical systemHash systemHash' = true →
      moved .systemPrefix = false ∧ moved .systemSuffix = false)
    (history : identical historyHash historyHash' = true →
      moved .history = false ∧ moved .historyTail = false) :
    SoundStatus (subLayerStatus systemHash systemHash' historyHash historyHash' first) flags ↔
      (moved .systemPrefix = false ∧ moved .systemSuffix = false) ∧ moved .tools = false ∨
        moved .history = false ∧ moved .historyTail = false := by
  cases location with
  | systemPrefix here =>
      rw [status_systemPrefix, sound_iff_of_unchanged exact (answers_some.2 here)
        (answers_unchanged fun same => (system same).2)]
      simp [here]
  | systemSuffix front here =>
      rw [status_systemSuffix, sound_iff_of_unchanged exact (answers_some.2 front) (answers_some.2 here)]
      simp [here]
  | tools unmoved here =>
      rw [status_tools, sound_iff_of_unchanged exact (answers_some.2 unmoved.1) (answers_some.2 unmoved.2)]
      simp [here]
  | history unmoved tools here =>
      rw [status_history]
      refine iff_of_true ?_ (Or.inl ⟨unmoved, tools⟩)
      constructor
      · rw [exact.systemPrefix]
        exact answers_some.2 unmoved.1
      · rw [exact.systemSuffix]
        exact answers_some.2 unmoved.2
      · rw [exact.history]
        exact answers_some.2 here
      · rw [exact.historyTail]
        exact answers_unchanged fun same => (history same).2
  | historyTail unmoved tools kept here =>
      rw [status_historyTail]
      refine iff_of_true ?_ (Or.inl ⟨unmoved, tools⟩)
      constructor
      · rw [exact.systemPrefix]
        exact answers_some.2 unmoved.1
      · rw [exact.systemSuffix]
        exact answers_some.2 unmoved.2
      · rw [exact.history]
        exact answers_some.2 kept
      · rw [exact.historyTail]
        exact answers_some.2 here
  | nothing unmoved tools kept =>
      rw [status_none]
      refine iff_of_true ?_ (Or.inl ⟨unmoved, tools⟩)
      constructor
      · rw [exact.systemPrefix]
        exact answers_unchanged fun _ => unmoved.1
      · rw [exact.systemSuffix]
        exact answers_unchanged fun _ => unmoved.2
      · rw [exact.history]
        exact answers_unchanged fun _ => kept.1
      · rw [exact.historyTail]
        exact answers_unchanged fun _ => kept.2

section Soundness

variable {patterns : ChurnPatterns} {prims : TextPrimitives} {p c : RequestContent}

theorem diff_some (a b : String) : diff (some a) (some b) = some (decide (some a ≠ some b)) := by
  simp [diff]

theorem exactFlags_pair :
    ExactFlags (pairFlagsFromHashes (p.toHashes patterns prims) (c.toHashes patterns prims))
      (layerMoved (p.toHashes patterns prims) (c.toHashes patterns prims)) :=
  ⟨diff_some _ _, diff_some _ _, diff_some _ _, diff_some _ _⟩

/-- The layer that the classifier locates is the first one that moved. -/
theorem classify_layer (cacheIdentityChanged : Bool) :
    (Churn.classify patterns prims p c cacheIdentityChanged).firstDivergentByte.map DivergenceHint.layer =
      contentLayerOrder.find? (layerMoved (p.toHashes patterns prims) (c.toHashes patterns prims)) := by
  rw [Churn.classify_firstDivergentByte, Churn.firstDivergence, Option.map_map]
  exact congrFun Option.map_id _

/-- For every two contents whose texts the digest tells apart: whatever the stored view decides about a sub-layer
    is what the exact comparison says, exactly when the prompts and the tools are the same, or the messages are. -/
theorem stored_status_sound_iff (plain : FloatsPlain prims)
    (separates : DigestSeparates prims (p.hashedTexts patterns prims ++ c.hashedTexts patterns prims))
    (cacheIdentityChanged : Bool) :
    SoundStatus (storedStatus patterns prims p c cacheIdentityChanged)
        (pairFlagsFromHashes (p.toHashes patterns prims) (c.toHashes patterns prims)) ↔
      p.systemText = c.systemText ∧ p.toolsText prims = c.toolsText prims ∨
        p.messagesText prims = c.messagesText prims := by
  rw [← system_unmoved_iff separates, ← tools_unmoved_iff separates, ← history_unmoved_iff plain separates]
  unfold storedStatus
  dsimp only
  rw [classify_layer]
  apply status_sound_iff (firstMoved_find _) exactFlags_pair
  · intro same
    exact (system_unmoved_iff separates).2 (systemText_of_identical separates same)
  · intro same
    exact (history_unmoved_iff plain separates).2 (messagesText_of_identical separates same)

end Soundness

/-! ### Two pairs -/

/-- The float texts of the sample primitives: an integer and a zero. -/
theorem floatsPlain_sample : FloatsPlain samplePrimitives := by
  intro value
  obtain ⟨filled, ordinary⟩ := plain_toString value.num
  have written : (samplePrimitives.floatRepr value).toList = (toString value.num).toList ++ ".0".toList :=
    String.toList_append
  have point : NestedText.Plain ".0".toList := by decide
  rw [written]
  refine ⟨List.append_ne_nil_of_left_ne_nil filled _, ?_⟩
  intro c listed
  rcases List.mem_append.1 listed with front | back
  · exact ordinary c front
  · exact point.2 c back

/-- A question of one word, with or without a system prompt. -/
def sampleAsk (system : Option String) (word : String) : RequestContent where
  system := system
  messages := [.obj [("role", .str "user"), ("content", .str word)]]

/-- The texts that are hashed for such questions. -/
def sampleTexts : List String :=
  ["s", "", "[]", "[\x7b\"content\":\"a\",\"role\":\"user\"\x7d]",
    "[\x7b\"content\":\"b\",\"role\":\"user\"\x7d]"]

theorem sha256_sampleTexts :
    sampleTexts.map samplePrimitives.sha256 =
      ["043a718774c572bd8a25adbeb1bfcd5c0256ae11cecf9f9c3f925d0e52beaf89", sampleEmptyHash,
        "4f53cda18c2baa0c0354bb5f9a3ecbe5ed12ab4d8e11ba873c2f11161202b945",
        "5168bd634e48454dad7ce9e90c521bba8b23340bd1b1b4f735486e46964a996a",
        "900b22ef4737d33363c5b94b8820587529a0c60a7120c16386fef7f753783644"] := by
  decide +kernel

/-- The digest tells these texts apart. -/
theorem digestSeparates_sample {texts : List String} (listed : ∀ t ∈ texts, t ∈ sampleTexts) :
    DigestSeparates samplePrimitives texts := by
  have distinct : (sampleTexts.map samplePrimitives.sha256).Nodup := by
    rw [sha256_sampleTexts]
    decide +kernel
  intro s known t known' same
  exact List.inj_on_of_nodup_map distinct (listed s known) (listed t known') same

/-- A prompt appears in front of the same question. -/
theorem stored_status_sound_sample :
    SoundStatus (storedStatus noPatterns samplePrimitives (sampleAsk none "a") (sampleAsk (some "s") "a") true)
      (pairFlagsFromHashes ((sampleAsk none "a").toHashes noPatterns samplePrimitives)
        ((sampleAsk (some "s") "a").toHashes noPatterns samplePrimitives)) :=
  (stored_status_sound_iff floatsPlain_sample (digestSeparates_sample (by decide +kernel)) true).2 (Or.inr rfl)

/-- A prompt appears in front of another question: the stored view takes the last message for unchanged. -/
theorem tail_taken_for_unchanged :
    DigestSeparates samplePrimitives ((sampleAsk none "a").hashedTexts noPatterns samplePrimitives ++
        (sampleAsk (some "s") "b").hashedTexts noPatterns samplePrimitives) ∧
      ¬ SoundStatus
        (storedStatus noPatterns samplePrimitives (sampleAsk none "a") (sampleAsk (some "s") "b") true)
        (pairFlagsFromHashes ((sampleAsk none "a").toHashes noPatterns samplePrimitives)
          ((sampleAsk (some "s") "b").toHashes noPatterns samplePrimitives)) := by
  refine ⟨digestSeparates_sample (by decide +kernel), ?_⟩
  intro sound
  have decided : (storedStatus noPatterns samplePrimitives (sampleAsk none "a") (sampleAsk (some "s") "b")
      true).historyTail = some false := by
    decide +kernel
  have answered := sound.historyTail false decided
  revert answered
  decide +kernel

/-- The prompt that appears is seen in the hashes. -/
example :
    ((sampleAsk none "a").toHashes noPatterns samplePrimitives).systemHash ≠
      ((sampleAsk (some "s") "a").toHashes noPatterns samplePrimitives).systemHash := by
  decide +kernel

end CachePilot
