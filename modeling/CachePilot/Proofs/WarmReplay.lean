/-
Module: CachePilot.Proofs.WarmReplay
Layer: Proofs
Purpose: A warm is the request it replays, as far as the cache is concerned. On the heap the adapter makes a
  fresh copy of the body and edits two of its fields there; the canonical request reads one of them for the
  output bound and the other for the streaming flag, and neither is part of the cache identity. So the warm
  has the cache fingerprint of the request whose body it copied.
Trusted boundary: none
Main exports: boundedReplay, buildWarmRequest_spec, getMember_boundedReplay, canonicalOfPayload_replay,
  warm_replay_preserves_identity
-/
import CachePilot.Relay.Observation

namespace CachePilot

/-! ### The heap -/

namespace ObjectHeap

variable {h : ObjectHeap}

theorem le_foldl_max (addresses : List ℕ) (start : ℕ) :
    start ≤ addresses.foldl max start ∧ ∀ a ∈ addresses, a ≤ addresses.foldl max start := by
  induction addresses generalizing start with
  | nil => simp
  | cons b rest ih =>
      obtain ⟨base, every⟩ := ih (max start b)
      rw [List.foldl_cons, List.forall_mem_cons]
      exact ⟨(le_max_left start b).trans base, (le_max_right start b).trans base, every⟩

/-- No dictionary is at the fresh address. -/
theorem fresh_not_mem (h : ObjectHeap) : h.fresh ∉ Dict.keys h := by
  intro known
  have bound := (le_foldl_max (Dict.keys h) 0).2 h.fresh known
  exact absurd bound (Nat.not_succ_le_self _)

theorem get?_alloc (members : List (String × Json)) (address : ℕ) :
    Dict.get? (h.alloc members).1 address =
      if address = h.fresh then some members else Dict.get? h address :=
  Dict.get?_set h h.fresh members address

/-- An assignment changes the dictionary at its address and no other. -/
theorem get?_setItem (address : ℕ) (key : String) (value : Json) (a : ℕ) :
    Dict.get? (h.setItem address key value) a =
      if a = address then (Dict.get? h a).map fun members => replaceMember members key value
      else Dict.get? h a := by
  unfold setItem
  cases found : Dict.get? h address with
  | none =>
      dsimp only
      split
      · rename_i same
        rw [same, found]
        rfl
      · rfl
  | some members =>
      rw [Dict.get?_set]
      split
      · rename_i same
        rw [same, found]
        rfl
      · rfl

end ObjectHeap

/-! ### The adapter -/

/-- What the copy holds in the end: streaming off where it was asked for, and the first output bound at one.
    Without an output bound there is no replay. -/
def boundedReplay (members : List (String × Json)) : Option (List (String × Json)) :=
  (outputBoundFields.find? fun field => field ∈ memberKeys members).map fun field =>
    replaceMember (replaceMember members "stream" (.bool false)) field (.int 1)

theorem replaceMember_absent {members : List (String × Json)} {key : String} (value : Json)
    (absent : key ∉ memberKeys members) : replaceMember members key value = members := by
  have same : replaceMember members key value = members.map id := by
    apply List.map_congr_left
    rintro ⟨name, old⟩ listed
    have differs : name ≠ key := by
      rintro rfl
      exact absent (List.mem_map_of_mem listed)
    simp [differs]
  rw [same, List.map_id]

/-- The heap after the copy, with streaming turned off where it was asked for. -/
theorem get?_streamed (h : ObjectHeap) (members : List (String × Json)) (address : ℕ) :
    Dict.get? (if "stream" ∈ memberKeys members then
        (h.alloc members).1.setItem (h.alloc members).2 "stream" (.bool false)
      else (h.alloc members).1) address =
      if address = h.fresh then some (replaceMember members "stream" (.bool false))
      else Dict.get? h address := by
  split
  · rw [ObjectHeap.get?_setItem, ObjectHeap.get?_alloc]
    change (if address = h.fresh then _ else _) = _
    split
    · rfl
    · rfl
  · rename_i absent
    rw [ObjectHeap.get?_alloc, replaceMember_absent _ absent]

/-- The adapter builds the replay at a fresh address and leaves every other dictionary alone. -/
theorem buildWarmRequest_spec {h : ObjectHeap} {original : ℕ} {members : List (String × Json)}
    (found : Dict.get? h original = some members) :
    ∃ h', buildWarmRequest h original = some (h', (boundedReplay members).map fun _ => h.fresh) ∧
      (∀ address, address ≠ h.fresh → Dict.get? h' address = Dict.get? h address) ∧
      ∀ warm ∈ boundedReplay members, Dict.get? h' h.fresh = some warm := by
  have streamed := get?_streamed h members
  unfold buildWarmRequest boundedReplay
  rw [found]
  dsimp only
  generalize (if "stream" ∈ memberKeys members then
      (h.alloc members).1.setItem (h.alloc members).2 "stream" (.bool false)
    else (h.alloc members).1) = h₁ at streamed ⊢
  cases outputBoundFields.find? fun field => field ∈ memberKeys members with
  | none =>
      refine ⟨h₁, rfl, ?_, ?_⟩
      · intro address other
        rw [streamed, if_neg other]
      · intro warm built
        cases built
  | some field =>
      refine ⟨h₁.setItem h.fresh field (.int 1), rfl, ?_, ?_⟩
      · intro address other
        rw [ObjectHeap.get?_setItem, if_neg other, streamed, if_neg other]
      · rintro warm ⟨⟩
        rw [ObjectHeap.get?_setItem, if_pos rfl, streamed, if_pos rfl]
        rfl

/-- There is a replay exactly when an output bound is present. -/
theorem boundedReplay_eq_none_iff {members : List (String × Json)} :
    boundedReplay members = none ↔ ∀ field ∈ outputBoundFields, field ∉ memberKeys members := by
  simp [boundedReplay]

/-- What a replay holds: the keys of the body, streaming off where it was asked for, one output bound at one,
    and the values of the body everywhere else. -/
theorem boundedReplay_spec {members warm : List (String × Json)}
    (built : boundedReplay members = some warm) :
    memberKeys warm = memberKeys members ∧
      ∃ field ∈ outputBoundFields, field ∈ memberKeys members ∧
        ∀ key, getMember warm key =
          if key = field then some (.int 1)
          else if key = "stream" then (getMember members "stream").map fun _ => .bool false
          else getMember members key := by
  obtain ⟨field, first, rfl⟩ := Option.map_eq_some_iff.1 built
  have present : field ∈ memberKeys members := by simpa using List.find?_some first
  have bound : field ∈ outputBoundFields := List.mem_of_find?_eq_some first
  refine ⟨by simp, field, bound, present, ?_⟩
  intro key
  rw [getMember_replaceMember, getMember_replaceMember]
  by_cases here : key = field
  · have unstreamed : key ≠ "stream" := by
      rintro rfl
      rw [← here] at bound
      revert bound
      decide
    obtain ⟨old, known⟩ := Option.isSome_iff_exists.1 (mem_memberKeys_iff.1 present)
    rw [if_pos here, if_pos here, if_neg unstreamed, here, known]
    rfl
  · rw [if_neg here, if_neg here]
    by_cases streaming : key = "stream"
    · rw [if_pos streaming, if_pos streaming, streaming]
    · rw [if_neg streaming, if_neg streaming]

/-! ### The cache identity -/

/-- Another output bound and another streaming flag make a canonical request of the same cache identity. -/
theorem fromContent_rebound {prims : TextPrimitives} {provider : String} {model : Json}
    {apiMode : ApiMode} {endpoint authScope : String} {promptPrefix system : Option String}
    {tools : Option (List Json)} {route : Option String} {maxTokens maxTokens' : Json}
    {stream : Bool} (stream' : Bool) {c : CanonicalRequest}
    (accepted : CanonicalRequest.fromContent prims provider model apiMode endpoint authScope
      promptPrefix system tools route maxTokens stream = some c)
    (bounded : (outputBound prims maxTokens').isSome = true) :
    ∃ c', CanonicalRequest.fromContent prims provider model apiMode endpoint authScope promptPrefix
        system tools route maxTokens' stream' = some c' ∧
      c'.toCacheIdentity = c.toCacheIdentity := by
  obtain ⟨bound, valid⟩ := Option.isSome_iff_exists.1 bounded
  unfold CanonicalRequest.fromContent at accepted ⊢
  split at accepted
  · dsimp only at accepted ⊢
    rw [valid]
    dsimp only
    split at accepted
    · rename_i named
      cases accepted
      exact ⟨_, dif_pos named, rfl⟩
    · cases accepted
  · cases accepted

/-- The cache fingerprint is that of the cache identity. -/
theorem cacheFingerprint_congr (prims : TextPrimitives) {c c' : CanonicalRequest}
    (same : c'.toCacheIdentity = c.toCacheIdentity) :
    cacheFingerprint prims c' = cacheFingerprint prims c := by
  rw [cacheFingerprint, cacheFingerprint, same]

theorem outputBound_one (prims : TextPrimitives) :
    (outputBound prims (.int 1)).isSome = true := rfl

/-- A replay is accepted wherever its body is, and has the same cache identity. -/
theorem canonicalOfPayload_replay {prims : TextPrimitives} {members warm : List (String × Json)}
    {path upstreamUrl : String} {routeHash : Option String} {authScope : String}
    {c : CanonicalRequest} (built : boundedReplay members = some warm)
    (accepted : canonicalOfPayload prims members path upstreamUrl routeHash authScope = some c) :
    ∃ c', canonicalOfPayload prims warm path upstreamUrl routeHash authScope = some c' ∧
      c'.toCacheIdentity = c.toCacheIdentity := by
  obtain ⟨keys, field, bound, present, values⟩ := boundedReplay_spec built
  have kept : ∀ key, key ∉ outputBoundFields → key ≠ "stream" →
      getOrNull warm key = getOrNull members key := by
    intro key unbound unstreamed
    have other : key ≠ field := by
      rintro rfl
      exact unbound bound
    rw [getOrNull, values, if_neg other, if_neg unstreamed]
    rfl
  have messages : messagesOf warm = messagesOf members := by
    rw [messagesOf, kept "messages" (by decide) (by decide)]
    rfl
  have others : nonSystemMessages warm = nonSystemMessages members := by
    rw [nonSystemMessages, messages]
    rfl
  have system : systemContent prims warm = systemContent prims members := by
    unfold systemContent
    rw [kept "system" (by decide) (by decide), messages]
  have tools : toolsOf warm = toolsOf members := by
    unfold toolsOf
    rw [kept "tools" (by decide) (by decide), kept "functions" (by decide) (by decide)]
  have mode : inferApiMode path warm = inferApiMode path members := by
    unfold inferApiMode
    rw [keys]
  unfold canonicalOfPayload at accepted ⊢
  rw [others, system, tools, mode, kept "model" (by decide) (by decide)]
  dsimp only at accepted ⊢
  split at accepted
  · have valid : (outputBound prims (getOrNull members "max_tokens")).isSome = true := by
      rw [← Option.isSome_map, (CanonicalRequest.builtFrom_of_fromContent accepted).maxTokens]
      rfl
    apply fromContent_rebound _ accepted
    rw [getOrNull, values]
    by_cases here : "max_tokens" = field
    · rw [if_pos here]
      exact outputBound_one prims
    · rw [if_neg here, if_neg (by decide)]
      exact valid
  · cases accepted

/-- Warm replay preserves the cache identity. The adapter builds no warm exactly when the body has no output
    bound; otherwise the warm is a new dictionary with the keys of the body, streaming off where it was asked
    for, one output bound at one and the values of the body elsewhere, and every dictionary that was there,
    the body included, is unchanged. Whenever the relay accepts the body, it accepts any text that parses to
    the warm, and gives both the same cache fingerprint. -/
theorem warm_replay_preserves_identity {h : ObjectHeap} {original : ℕ}
    {body : List (String × Json)} (found : Dict.get? h original = some body) :
    ∃ h' warm?, buildWarmRequest h original = some (h', warm?) ∧
      (∀ address ∈ Dict.keys h, Dict.get? h' address = Dict.get? h address) ∧
      (warm? = none ↔ ∀ field ∈ outputBoundFields, field ∉ memberKeys body) ∧
      ∀ warm ∈ warm?, warm ∉ Dict.keys h ∧ ∃ members, Dict.get? h' warm = some members ∧
        memberKeys members = memberKeys body ∧
        (∃ field ∈ outputBoundFields, field ∈ memberKeys body ∧
          ∀ key, getMember members key =
            if key = field then some (.int 1)
            else if key = "stream" then (getMember body "stream").map fun _ => .bool false
            else getMember body key) ∧
        ∀ (B : Type) (prims : TextPrimitives) (text : BodyText B) (bytes warmBytes : B)
          (path upstreamUrl : String) (routeHash : Option String) (authScope : String)
          (c : CanonicalRequest),
          text.loads bytes = some (.obj body) → text.serialise members = some warmBytes →
          text.loads warmBytes = some (.obj members) →
          buildCanonicalRequest prims text bytes path upstreamUrl routeHash authScope = some c →
          ∃ c', buildCanonicalRequest prims text warmBytes path upstreamUrl routeHash authScope =
              some c' ∧
            cacheFingerprint prims c' = cacheFingerprint prims c := by
  obtain ⟨h', sent, others, copied⟩ := buildWarmRequest_spec found
  have elsewhere : ∀ address ∈ Dict.keys h, address ≠ h.fresh := by
    rintro address known rfl
    exact h.fresh_not_mem known
  refine ⟨h', _, sent, ?_, ?_, ?_⟩
  · intro address known
    exact others address (elsewhere address known)
  · rw [Option.map_eq_none_iff]
    exact boundedReplay_eq_none_iff
  · intro warm made
    obtain ⟨members, built, rfl⟩ := Option.map_eq_some_iff.1 made
    obtain ⟨keys, field, bound, present, values⟩ := boundedReplay_spec built
    refine ⟨h.fresh_not_mem, members, copied members built, keys,
      ⟨field, bound, present, values⟩, ?_⟩
    intro B prims text bytes warmBytes path upstreamUrl routeHash authScope c parsed sent' readBack
      accepted
    rw [buildCanonicalRequest, jsonOrNone, parsed] at accepted
    obtain ⟨c', accepted', same⟩ := canonicalOfPayload_replay built accepted
    refine ⟨c', ?_, cacheFingerprint_congr prims same⟩
    rw [buildCanonicalRequest, jsonOrNone, readBack]
    exact accepted'

/-- The body of a streamed completion with an output bound. -/
def sampleBody : List (String × Json) :=
  [("model", .str "m"), ("stream", .bool true), ("max_tokens", .int 100)]

/-- The copy of this body has other values under its two keys, and the same cache fingerprint. -/
theorem warm_replay_preserves_identity_sample :
    ∃ h' warm members c c', buildWarmRequest (Dict.set ∅ 0 sampleBody) 0 = some (h', some warm) ∧
      Dict.get? h' 0 = some sampleBody ∧ Dict.get? h' warm = some members ∧
      memberKeys members = ["model", "stream", "max_tokens"] ∧
      buildCanonicalRequest samplePrimitives sampleText sampleBody "/v1/chat/completions" "https://upstream/v1" none
        "relay-default" = some c ∧
      buildCanonicalRequest samplePrimitives sampleText members "/v1/chat/completions" "https://upstream/v1" none
        "relay-default" = some c' ∧
      cacheFingerprint samplePrimitives c' = cacheFingerprint samplePrimitives c := by
  have found : Dict.get? (Dict.set (∅ : ObjectHeap) 0 sampleBody) 0 = some sampleBody :=
    Dict.get?_set_self _ _ _
  have accepted : (buildCanonicalRequest samplePrimitives sampleText sampleBody "/v1/chat/completions"
      "https://upstream/v1" none "relay-default").isSome = true := by
    decide +kernel
  obtain ⟨c, accepted⟩ := Option.isSome_iff_exists.1 accepted
  obtain ⟨h', warm?, sent, others, declined, replay⟩ := warm_replay_preserves_identity found
  cases warm? with
  | none =>
      have unbounded := declined.1 rfl "max_tokens" (by decide)
      exact absurd (by decide) unbounded
  | some warm =>
      obtain ⟨-, members, stored, keys, -, same⟩ := replay warm rfl
      have kept := others 0 (Dict.mem_keys_iff.2 ⟨sampleBody, found⟩)
      obtain ⟨c', replayed, fingerprint⟩ :=
        same _ samplePrimitives sampleText sampleBody members _ _ none _ c rfl rfl rfl accepted
      exact ⟨h', warm, members, c, c', sent, kept.trans found, stored, keys, accepted, replayed, fingerprint⟩

end CachePilot
