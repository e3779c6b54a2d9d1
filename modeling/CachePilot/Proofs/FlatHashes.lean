/-
Module: CachePilot.Proofs.FlatHashes
Layer: Proofs
Purpose: The classifier's flat hashes against those that the relay stores. Both read the messages, the tools and
  the system of a payload in their own way; the readings are compared piece by piece. They agree when the system
  is a text or absent, every tool is an object and the model is a text or absent. A structured system is encoded
  by the relay and passed over by the classifier. The flags of a churn event then agree too, except for the one
  of the cache key, which the relay sets when no tracked layer moved.
Trusted boundary: none
Main exports: HashesAgree, FlagsAgree, Mirrored, TrackedLayerMoved, hashesAgree_iff_mirrored,
  flat_hashes_agree_iff
-/
import CachePilot.Proofs.Credentials
import CachePilot.Relay.Observer

namespace CachePilot

/-! ### Reading the same payload twice -/

section Payloads

variable {prims : TextPrimitives} {payload : List (String × Json)} {items : List Json}

theorem mapping?_eq_some {value : Json} {members : List (String × Json)} :
    value.mapping? = some members ↔ value = .obj members := by
  cases value with
  | obj entries => simp [Json.mapping?]
  | null => simp [Json.mapping?]
  | bool value => simp [Json.mapping?]
  | int value => simp [Json.mapping?]
  | float value => simp [Json.mapping?]
  | str value => simp [Json.mapping?]
  | arr values => simp [Json.mapping?]

/-- The members of values that are objects, and only of those. -/
theorem mapM_mapping?_eq_some {tools : List Json} {objects : List (List (String × Json))} :
    tools.mapM Json.mapping? = some objects ↔ tools = objects.map .obj := by
  induction tools generalizing objects with
  | nil =>
      cases objects with
      | nil => simp
      | cons members rest => simp
  | cons tool rest ih =>
      have unfolded : (tool :: rest).mapM Json.mapping? = some objects ↔
          ∃ members, tool.mapping? = some members ∧ ∃ others, rest.mapM Json.mapping? = some others ∧
            members :: others = objects := by
        simp [List.mapM_cons, Option.bind_eq_some_iff]
      rw [unfolded]
      constructor
      · rintro ⟨members, object, others, listed, rfl⟩
        rw [List.map_cons, ← mapping?_eq_some.1 object, ← ih.1 listed]
      · intro same
        cases objects with
        | nil => cases same
        | cons members others =>
            obtain ⟨rfl, later⟩ := List.cons.inj same
            exact ⟨members, rfl, others, ih.2 later, rfl⟩

/-- The classifier reads the tools that the relay reads, and refuses some. -/
theorem contentTools_eq (payload : List (String × Json)) :
    contentTools payload = (toolsOf payload).elim (some none) fun tools => (tools.mapM Json.mapping?).map some := by
  unfold contentTools toolsOf
  cases (getOrNull payload "tools").orElse (getOrNull payload "functions") with
  | arr tools => rfl
  | null => rfl
  | bool value => rfl
  | int value => rfl
  | float value => rfl
  | str value => rfl
  | obj members => rfl

theorem toolsOf_of_contentTools {tools : Option (List (List (String × Json)))}
    (read : contentTools payload = some tools) :
    toolsOf payload = tools.map fun objects => objects.map .obj := by
  rw [contentTools_eq] at read
  cases known : toolsOf payload with
  | none =>
      rw [known] at read
      cases read
      rfl
  | some items =>
      rw [known] at read
      obtain ⟨objects, listed, rfl⟩ := Option.map_eq_some_iff.1 read
      rw [mapM_mapping?_eq_some.1 listed]
      rfl

/-- The relay reads a system text as it is, and encodes a structured one. -/
theorem systemContent_eq (read : messagesOf payload = some items) :
    systemContent prims payload =
      some (match getOrNull payload "system" with
        | .null => systemRoleText prims items
        | system => some (textOrCanonical prims system)) := by
  unfold systemContent
  cases getOrNull payload "system" with
  | null =>
      rw [read]
      rfl
  | bool value => rfl
  | int value => rfl
  | float value => rfl
  | str value => rfl
  | arr values => rfl
  | obj members => rfl

/-- What the classifier extracts once the messages were read. -/
theorem requestContentFromPayload_eq_some {routeHash model cacheKey : Option String} {content : RequestContent} :
    requestContentFromPayload prims payload routeHash model cacheKey = some content ↔
      ∃ messages ∈ messagesOf payload, ∃ tools ∈ contentTools payload,
        ∃ model' ∈ contentModel payload model, content =
          { system := contentSystem prims payload messages
            messages := messages.filter fun message => !isSystemMessage message
            tools, routeHash, model := model', cacheKey } := by
  unfold requestContentFromPayload messagesOf
  simp only [Option.bind_eq_bind, Option.bind_eq_some_iff, Option.pure_def, Option.some.injEq, Option.mem_def]
  constructor
  · rintro ⟨messages, read, tools, listed, model', named, rfl⟩
    exact ⟨messages, read, tools, listed, model', named, rfl⟩
  · rintro ⟨messages, read, tools, listed, model', named, rfl⟩
    exact ⟨messages, read, tools, listed, model', named, rfl⟩

end Payloads

/-! ### What the relay stores -/

section Stored

variable {prims : TextPrimitives} {payload : List (String × Json)}

/-- The hashes that are stored for a payload. -/
structure StoredFor (prims : TextPrimitives) (payload : List (String × Json)) (items : List Json)
    (event : TelemetryEvent) : Prop where
  read : messagesOf payload = some items
  systemHash : ∃ system ∈ systemContent prims payload, event.systemHash = some (hashContent prims system)
  toolsHash : event.toolsHash =
    some (hashContent prims ((toolsOf payload).map fun tools => canonicalJson prims (.arr tools)))
  historyHash : event.historyHash =
    if (items.filter fun message => !isSystemMessage message) = [] then none
    else some (hashContent prims
      (some (canonicalJson prims (.arr (items.filter fun message => !isSystemMessage message)))))

/-- The event of an observed request stores the hashes of its payload. -/
theorem storedFor_of_observe {B : Type} {text : BodyText B} {q : PhysicalRequest B}
    (object : jsonOrNone text q.body = some payload) {responseHeaders : List (String × String)}
    {usage : TokenUsage} {outcome : Outcome} {timestamp : ℚ} {o : ObservedRequest}
    (observed : q.observe prims text responseHeaders usage outcome timestamp = some o) :
    ∃ items, StoredFor prims payload items o.event := by
  unfold PhysicalRequest.observe at observed
  split at observed
  · rename_i c historyHash accepted history
    cases observed
    unfold PhysicalRequest.observedCanonical buildCanonicalRequest at accepted
    rw [object, Option.getD_some] at accepted
    obtain ⟨messages, others, system, read, built⟩ := canonicalOfPayload_spec accepted
    obtain ⟨items, iterated, rfl⟩ := Option.map_eq_some_iff.1 others
    unfold extractHistoryHash historyHashOfPayload at history
    rw [object, Option.getD_some, others, Option.map_some, Option.some.injEq] at history
    exact ⟨items, iterated, ⟨system, read, congrArg some built.systemHash⟩, congrArg some built.toolsHash,
      history.symm⟩
  · cases observed

end Stored

/-! ### Agreement -/

/-- The flat hashes of the content of a payload are those of the event. -/
def HashesAgree (patterns : ChurnPatterns) (prims : TextPrimitives) (payload : List (String × Json))
    (event : TelemetryEvent) : Prop :=
  ∃ content ∈ requestContentFromPayload prims payload none none none,
    (content.toHashes patterns prims).systemHash = event.systemHash ∧
      (content.toHashes patterns prims).toolsHash = event.toolsHash ∧
      (content.toHashes patterns prims).historyHash = event.historyHash

/-- The flat flags of the classification of two contents are those of the churn event. -/
def FlagsAgree (patterns : ChurnPatterns) (prims : TextPrimitives) (payload payload' : List (String × Json))
    (previous event : TelemetryEvent) : Prop :=
  ∃ content ∈ previous.content prims payload, ∃ content' ∈ event.content prims payload',
    (Churn.classify patterns prims content content' true).toChurnFlags = churnFlags previous event

/-- The system is a text or absent, or its encoding has the digest of the system messages; every tool is an
    object, and the model is a text or absent. -/
structure Mirrored (prims : TextPrimitives) (payload : List (String × Json)) : Prop where
  system : (getOrNull payload "system").optionalText?.isSome = true ∨ ∃ messages ∈ messagesOf payload,
    hashContent prims (some (canonicalJson prims (getOrNull payload "system"))) =
      hashContent prims (systemRoleText prims messages)
  tools : ∀ tools ∈ toolsOf payload, ∀ tool ∈ tools, tool.mapping?.isSome = true
  model : (getOrNull payload "model").optionalText?.isSome = true

/-- A layer that the relay tracks differs between two events. -/
def TrackedLayerMoved (previous event : TelemetryEvent) : Prop :=
  ¬ (previous.systemHash = event.systemHash ∧ previous.toolsHash = event.toolsHash ∧
    previous.historyHash = event.historyHash ∧ previous.routeHash = event.routeHash ∧
    previous.model = event.model)

section Agreement

variable {patterns : ChurnPatterns} {prims : TextPrimitives} {payload payload' : List (String × Json)}
  {items : List Json} {previous event : TelemetryEvent}

/-- Every tool is an object exactly when the classifier accepts the tools. -/
theorem contentTools_isSome_iff :
    (contentTools payload).isSome = true ↔
      ∀ tools ∈ toolsOf payload, ∀ tool ∈ tools, tool.mapping?.isSome = true := by
  rw [contentTools_eq]
  cases toolsOf payload with
  | none => simp
  | some tools =>
      simp only [Option.elim_some, Option.isSome_map, Option.mem_def, Option.some.injEq, forall_eq']
      constructor
      · intro accepted tool listed
        obtain ⟨objects, read⟩ := Option.isSome_iff_exists.1 accepted
        rw [mapM_mapping?_eq_some.1 read] at listed
        obtain ⟨members, -, rfl⟩ := List.mem_map.1 listed
        rfl
      · intro objects
        have read : tools = (tools.map fun tool => tool.mapping?.getD []).map .obj := by
          rw [List.map_map]
          refine (List.map_id tools).symm.trans (List.map_congr_left ?_)
          intro tool listed
          obtain ⟨members, object⟩ := Option.isSome_iff_exists.1 (objects tool listed)
          rw [Function.comp_apply, object]
          exact mapping?_eq_some.1 object
        rw [mapM_mapping?_eq_some.2 read]
        rfl

/-- The classifier and the relay read one system, as far as its digest goes. -/
theorem system_agrees_iff (stored : StoredFor prims payload items event) :
    some (hashContent prims (contentSystem prims payload items)) = event.systemHash ↔
      (getOrNull payload "system").optionalText?.isSome = true ∨ ∃ messages ∈ messagesOf payload,
        hashContent prims (some (canonicalJson prims (getOrNull payload "system"))) =
          hashContent prims (systemRoleText prims messages) := by
  obtain ⟨system, known, hash⟩ := stored.systemHash
  rw [Option.mem_def, systemContent_eq stored.read, Option.some.injEq] at known
  rw [hash, Option.some.injEq, stored.read, ← known]
  unfold contentSystem
  cases getOrNull payload "system" with
  | null => simp [Json.optionalText?]
  | str value => simp [Json.optionalText?, textOrCanonical]
  | bool value => simp [Json.optionalText?, textOrCanonical, eq_comm]
  | int value => simp [Json.optionalText?, textOrCanonical, eq_comm]
  | float value => simp [Json.optionalText?, textOrCanonical, eq_comm]
  | arr values => simp [Json.optionalText?, textOrCanonical, eq_comm]
  | obj members => simp [Json.optionalText?, textOrCanonical, eq_comm]

/-- The flat hashes of what the classifier extracts, where the event stores those of the relay. -/
theorem toHashes_of_content (patterns : ChurnPatterns) (stored : StoredFor prims payload items event)
    {routeHash model cacheKey : Option String} {content : RequestContent}
    (extracted : requestContentFromPayload prims payload routeHash model cacheKey = some content) :
    (content.toHashes patterns prims).systemHash =
        some (hashContent prims (contentSystem prims payload items)) ∧
      (content.toHashes patterns prims).toolsHash = event.toolsHash ∧
      (content.toHashes patterns prims).historyHash = event.historyHash ∧
      content.routeHash = routeHash ∧ some content.model = contentModel payload model ∧
      content.cacheKey = cacheKey := by
  obtain ⟨messages, read, tools, listed, model', named, rfl⟩ :=
    requestContentFromPayload_eq_some.1 extracted
  obtain rfl : messages = items := Option.some.inj (read.symm.trans stored.read)
  refine ⟨rfl, ?_, ?_, rfl, named.symm, rfl⟩
  · rw [stored.toolsHash, toolsOf_of_contentTools listed]
    rfl
  · rw [stored.historyHash]
    rfl

/-- The hashes agree exactly when the payload is mirrored. -/
theorem hashesAgree_iff_mirrored (stored : StoredFor prims payload items event) :
    HashesAgree patterns prims payload event ↔ Mirrored prims payload := by
  constructor
  · rintro ⟨content, extracted, system, -, -⟩
    obtain ⟨same, -⟩ := toHashes_of_content patterns stored extracted
    obtain ⟨-, -, tools, listed, model, named, -⟩ := requestContentFromPayload_eq_some.1 extracted
    constructor
    · exact (system_agrees_iff stored).1 (same.symm.trans system)
    · exact contentTools_isSome_iff.1 (Option.isSome_iff_exists.2 ⟨tools, listed⟩)
    · exact Option.isSome_iff_exists.2 ⟨model, named⟩
  · intro mirrored
    obtain ⟨tools, listed⟩ := Option.isSome_iff_exists.1 (contentTools_isSome_iff.2 mirrored.tools)
    obtain ⟨model, named⟩ := Option.isSome_iff_exists.1 mirrored.model
    have extracted : requestContentFromPayload prims payload none none none = some _ :=
      requestContentFromPayload_eq_some.2 ⟨items, stored.read, tools, listed, model, named, rfl⟩
    obtain ⟨system, toolsHash, historyHash, -⟩ := toHashes_of_content patterns stored extracted
    exact ⟨_, extracted, system.trans ((system_agrees_iff stored).2 mirrored.system), toolsHash, historyHash⟩

/-- A payload that is mirrored can be read with the identity fields of an event. -/
theorem Mirrored.content (mirrored : Mirrored prims payload) (stored : StoredFor prims payload items event)
    (own : TelemetryEvent) : ∃ content, own.content prims payload = some content := by
  obtain ⟨tools, listed⟩ := Option.isSome_iff_exists.1 (contentTools_isSome_iff.2 mirrored.tools)
  exact ⟨_, requestContentFromPayload_eq_some.2
    ⟨items, stored.read, tools, listed, some own.model, rfl, rfl⟩⟩

/-- The content path gives mirrored payloads the stored flags of the tracked layers. -/
theorem classify_flags_of_mirrored {items' : List Json} (stored : StoredFor prims payload items previous)
    (stored' : StoredFor prims payload' items' event) (mirrored : Mirrored prims payload)
    (mirrored' : Mirrored prims payload') {content content' : RequestContent}
    (extracted : previous.content prims payload = some content)
    (extracted' : event.content prims payload' = some content') :
    (Churn.classify patterns prims content content' true).toChurnFlags = (churnFlags previous event).tracked := by
  obtain ⟨system, tools, history, route, model, cacheKey⟩ := toHashes_of_content patterns stored extracted
  obtain ⟨system', tools', history', route', model', cacheKey'⟩ :=
    toHashes_of_content patterns stored' extracted'
  rw [(system_agrees_iff stored).2 mirrored.system] at system
  rw [(system_agrees_iff stored').2 mirrored'.system] at system'
  have routes : (content.toHashes patterns prims).routeHash = previous.routeHash := route
  have routes' : (content'.toHashes patterns prims).routeHash = event.routeHash := route'
  have models : (content.toHashes patterns prims).model = some previous.model := Option.some.inj model
  have models' : (content'.toHashes patterns prims).model = some event.model := Option.some.inj model'
  have keys : (content.toHashes patterns prims).cacheKey = none := cacheKey
  have keys' : (content'.toHashes patterns prims).cacheKey = none := cacheKey'
  rw [Churn.classify_flags, Churn.classifyHashes, Churn.classifySnapshots_flags, system, system', tools, tools',
    history, history', routes, routes', models, models', keys, keys']
  simp [churnFlags, ChurnFlags.tracked]

/-- The stored flag of the cache key is off exactly when a tracked layer moved. -/
theorem tracked_churnFlags_iff :
    (churnFlags previous event).tracked = churnFlags previous event ↔ TrackedLayerMoved previous event := by
  simp [churnFlags, ChurnFlags.tracked, TrackedLayerMoved, imp_iff_not_or, or_assoc]

/-- With the hashes in agreement, the flags agree exactly when a tracked layer moved. -/
theorem flagsAgree_iff {items' : List Json} (stored : StoredFor prims payload items previous)
    (stored' : StoredFor prims payload' items' event) (mirrored : Mirrored prims payload)
    (mirrored' : Mirrored prims payload') :
    FlagsAgree patterns prims payload payload' previous event ↔ TrackedLayerMoved previous event := by
  rw [← tracked_churnFlags_iff]
  constructor
  · rintro ⟨content, extracted, content', extracted', same⟩
    exact (classify_flags_of_mirrored stored stored' mirrored mirrored' extracted extracted').symm.trans same
  · intro moved
    obtain ⟨content, extracted⟩ := mirrored.content stored previous
    obtain ⟨content', extracted'⟩ := mirrored'.content stored' event
    exact ⟨content, extracted, content', extracted',
      (classify_flags_of_mirrored stored stored' mirrored mirrored' extracted extracted').trans moved⟩

end Agreement

/-- For every two recorded requests whose bodies are JSON objects: the classifier's flat hashes of both payloads
    are those that the relay stores, and the flat flags of their classification are those of the churn event,
    exactly when both payloads are mirrored and a tracked layer moved. -/
theorem flat_hashes_agree_iff {B : Type} {patterns : ChurnPatterns} {prims : TextPrimitives} {text : BodyText B}
    {q q' : PhysicalRequest B} {payload payload' : List (String × Json)}
    (object : jsonOrNone text q.body = some payload) (object' : jsonOrNone text q'.body = some payload')
    {responseHeaders responseHeaders' : List (String × String)} {usage usage' : TokenUsage}
    {outcome outcome' : Outcome} {timestamp timestamp' : ℚ} {o o' : ObservedRequest}
    (observed : q.observe prims text responseHeaders usage outcome timestamp = some o)
    (observed' : q'.observe prims text responseHeaders' usage' outcome' timestamp' = some o') :
    (HashesAgree patterns prims payload o.event ∧ HashesAgree patterns prims payload' o'.event ∧
        FlagsAgree patterns prims payload payload' o.event o'.event) ↔
      Mirrored prims payload ∧ Mirrored prims payload' ∧ TrackedLayerMoved o.event o'.event := by
  obtain ⟨items, stored⟩ := storedFor_of_observe object observed
  obtain ⟨items', stored'⟩ := storedFor_of_observe object' observed'
  rw [hashesAgree_iff_mirrored stored, hashesAgree_iff_mirrored stored']
  constructor
  · rintro ⟨mirrored, mirrored', flags⟩
    exact ⟨mirrored, mirrored', (flagsAgree_iff stored stored' mirrored mirrored').1 flags⟩
  · rintro ⟨mirrored, mirrored', moved⟩
    exact ⟨mirrored, mirrored', (flagsAgree_iff stored stored' mirrored mirrored').2 moved⟩

/-! ### Two payloads -/

/-- A completion with this model and system. -/
def samplePrompt (model : String) (system : Json) : PhysicalRequest (List (String × Json)) where
  body := [("model", .str model), ("system", system)]
  path := "/v1/chat/completions"
  upstreamUrl := "https://upstream/v1/chat/completions"
  headers := []
  sessionHeader := "s"
  targetsCount := 0

/-- What is recorded for it when it succeeds. -/
def samplePromptObserved (model : String) (system : Json) : Option ObservedRequest :=
  (samplePrompt model system).observe samplePrimitives sampleText [] {} .successUnverified 0

/-- Two requests with a text each and different models. -/
theorem flat_hashes_agree_sample :
    ∃ o o', samplePromptObserved "m" (.str "be brief") = some o ∧
      samplePromptObserved "n" (.str "be brief") = some o' ∧
      FlagsAgree noPatterns samplePrimitives (samplePrompt "m" (.str "be brief")).body
        (samplePrompt "n" (.str "be brief")).body o.event o'.event := by
  have models : (samplePromptObserved "m" (.str "be brief")).map (fun o => o.event.model) = some "m" ∧
      (samplePromptObserved "n" (.str "be brief")).map (fun o => o.event.model) = some "n" := by
    decide +kernel
  obtain ⟨o, observed, first⟩ := Option.map_eq_some_iff.1 models.1
  obtain ⟨o', observed', second⟩ := Option.map_eq_some_iff.1 models.2
  refine ⟨o, o', observed, observed', ((flat_hashes_agree_iff rfl rfl observed observed').2 ⟨?_, ?_, ?_⟩).2.2⟩
  · exact ⟨Or.inl rfl, by rintro tools ⟨⟩, rfl⟩
  · exact ⟨Or.inl rfl, by rintro tools ⟨⟩, rfl⟩
  · rintro ⟨-, -, -, -, same⟩
    rw [first, second] at same
    revert same
    decide

/-- A system of content blocks: the relay hashes its encoding, the classifier takes it for absent. -/
theorem structured_system_unmirrored :
    ∃ o, samplePromptObserved "m" (.arr [.obj [("type", .str "text"), ("text", .str "s")]]) = some o ∧
      ¬ HashesAgree noPatterns samplePrimitives
        (samplePrompt "m" (.arr [.obj [("type", .str "text"), ("text", .str "s")]])).body o.event := by
  have recorded : (samplePromptObserved "m"
      (.arr [.obj [("type", .str "text"), ("text", .str "s")]])).isSome = true := by
    decide +kernel
  obtain ⟨o, observed⟩ := Option.isSome_iff_exists.1 recorded
  refine ⟨o, observed, ?_⟩
  obtain ⟨items, stored⟩ := storedFor_of_observe rfl observed
  rw [hashesAgree_iff_mirrored stored]
  intro mirrored
  rcases mirrored.system with text | ⟨messages, read, same⟩
  · cases text
  · cases read
    revert same
    decide +kernel

end CachePilot
