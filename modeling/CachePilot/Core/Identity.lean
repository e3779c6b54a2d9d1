/-
Module: CachePilot.Core.Identity
Layer: Core
Purpose: The canonical request and its two fingerprints. Raw content is hashed when a canonical request is
  built; the names and hashes of a cache identity are not empty, and an output bound is positive, as fields of
  the types. The stable JSON encoding sorts the keys, leaves no blanks and writes ASCII only. The digest, the
  text of a float and the reading of a numeral are parameters.
Trusted boundary: the reading of identity.py and fingerprint.py; the digest and the texts of numbers are parameters
Main exports: TextPrimitives, canonicalJson, CacheIdentity, CanonicalRequest, CanonicalRequest.fromContent,
  cacheFingerprint, requestFingerprint
-/
import Mathlib.Data.List.Sort
import CachePilot.Core.Telemetry
import CachePilot.Lib.QuotedText
import CachePilot.Lib.Sha256

namespace CachePilot

/-- What is used of text as it is: the hexadecimal SHA-256 digest of a text, the shortest text of a float, and
    the integer that the validator reads from a numeral. -/
structure TextPrimitives where
  sha256 : String → String
  floatRepr : ℚ → String
  parseInt : String → Option ℤ

/-! ### Stable JSON encoding -/

def JsonFloat.text (floatRepr : ℚ → String) : JsonFloat → List Char
  | .finite value => (floatRepr value).toList
  | .infinity => "Infinity".toList
  | .negInfinity => "-Infinity".toList
  | .nan => "NaN".toList

/-- The member of an object that is written as the pair of its key and its value. -/
def memberText (member : String × List Char) : List Char :=
  QuotedText.quote member.1.toList ++ ':' :: member.2

mutual

/-- The encoding of a value, with sorted keys and compact separators. -/
def dumpChars (floatRepr : ℚ → String) : Json → List Char
  | .null => "null".toList
  | .bool true => "true".toList
  | .bool false => "false".toList
  | .int value => (toString value).toList
  | .float value => value.text floatRepr
  | .str value => QuotedText.quote value.toList
  | .arr items => '[' :: (QuotedText.joinWith [','] (dumpItems floatRepr items) ++ [']'])
  | .obj members =>
      let sorted := (dumpMembers floatRepr members).insertionSort fun a b => a.1 ≤ b.1
      '\x7b' :: (QuotedText.joinWith [','] (sorted.map memberText) ++ ['\x7d'])
termination_by structural value => value

def dumpItems (floatRepr : ℚ → String) : List Json → List (List Char)
  | [] => []
  | item :: rest => dumpChars floatRepr item :: dumpItems floatRepr rest
termination_by structural items => items

def dumpMembers (floatRepr : ℚ → String) : List (String × Json) → List (String × List Char)
  | [] => []
  | member :: rest => dumpMember floatRepr member :: dumpMembers floatRepr rest
termination_by structural members => members

def dumpMember (floatRepr : ℚ → String) : String × Json → String × List Char
  | (key, value) => (key, dumpChars floatRepr value)
termination_by structural member => member

end

/-- Stable JSON encoding for hashing. -/
def canonicalJson (prims : TextPrimitives) (value : Json) : String :=
  String.ofList (dumpChars prims.floatRepr value)

/-- A text as it is, any other value in its stable encoding. -/
def textOrCanonical (prims : TextPrimitives) : Json → String
  | .str value => value
  | value => canonicalJson prims value

/-- Deterministic digest of raw content; absent content hashes like the empty text. -/
def hashContent (prims : TextPrimitives) (content : Option String) : String :=
  prims.sha256 (content.getD "")

/-- Order-independent digest of the tool schemas. -/
def toolsSetHash (prims : TextPrimitives) (tools : Option (List Json)) : String :=
  match tools with
  | none => hashContent prims none
  | some tools =>
      let members := ((tools.map (canonicalJson prims)).dedup).insertionSort (· ≤ ·)
      hashContent prims (some ("\x1f".intercalate members))

/-! ### Canonical requests -/

/-- Provider API mode. -/
inductive ApiMode where
  | chat
  | completion
  | responses
deriving DecidableEq, Repr

def ApiMode.value : ApiMode → String
  | .chat => "chat"
  | .completion => "completion"
  | .responses => "responses"

theorem ApiMode.value_ne_empty (mode : ApiMode) : mode.value ≠ "" := by
  cases mode <;> decide

/-- Physical cache identity. -/
structure CacheIdentity where
  provider : String
  model : String
  apiMode : ApiMode
  endpoint : String
  authScope : String
  route : Option String
  promptKey : String
  systemHash : String
  toolsHash : String
  named : ∀ name ∈ [provider, model, endpoint, authScope, promptKey, systemHash, toolsHash], name ≠ ""
deriving DecidableEq

/-- Full canonical request: the cache identity and the fields that only bound the output. -/
structure CanonicalRequest extends CacheIdentity where
  maxTokens : Option ℕ
  stream : Bool
  timeoutS : Option ℚ
  toolsSetHash : Option String
  maxTokens_pos : ∀ n ∈ maxTokens, 1 ≤ n
  timeoutS_pos : ∀ s ∈ timeoutS, 0 < s
deriving DecidableEq

/-- What the validator of an optional integer makes of a value: null, an integer, a truth value, a float
    without a fraction or a numeral; anything else is refused. -/
def optionalInt (prims : TextPrimitives) : Json → Option (Option ℤ)
  | .null => some none
  | .int value => some (some value)
  | .bool value => some (some (if value then 1 else 0))
  | .float (.finite value) => if value.den = 1 then some (some value.num) else none
  | .float _ => none
  | .str value => (prims.parseInt value).map some
  | .arr _ => none
  | .obj _ => none

/-- The optional output bound: an integer of at least one. -/
def outputBound (prims : TextPrimitives) (value : Json) :
    Option { bound : Option ℕ // ∀ n ∈ bound, 1 ≤ n } :=
  match optionalInt prims value with
  | none => none
  | some none => some ⟨none, by simp⟩
  | some (some n) => if positive : 1 ≤ n then some ⟨some n.toNat, by simp; omega⟩ else none

theorem noTimeout_pos : ∀ s ∈ (none : Option ℚ), 0 < s := by simp

/-- Build a canonical request from raw content; only hashes stay. A model that is no text and an output bound
    that is none are refused, and so is a name that is empty. -/
def CanonicalRequest.fromContent (prims : TextPrimitives) (provider : String) (model : Json)
    (apiMode : ApiMode) (endpoint authScope : String) (promptPrefix system : Option String)
    (tools : Option (List Json)) (route : Option String) (maxTokens : Json) (stream : Bool) :
    Option CanonicalRequest :=
  match model, outputBound prims maxTokens with
  | .str model, some bound =>
      let promptKey := hashContent prims promptPrefix
      let systemHash := hashContent prims system
      let toolsHash := hashContent prims (tools.map fun tools => canonicalJson prims (.arr tools))
      if named : ∀ name ∈
          [provider, model, endpoint, authScope, promptKey, systemHash, toolsHash], name ≠ "" then
        some
          { provider, model, apiMode, endpoint, authScope, route, promptKey, systemHash, toolsHash
            named
            maxTokens := bound.val
            stream
            timeoutS := none
            toolsSetHash := some (CachePilot.toolsSetHash prims tools)
            maxTokens_pos := bound.property
            timeoutS_pos := noTimeout_pos }
      else none
  | _, _ => none

/-- What a canonical request holds of the content that it was built from. -/
structure CanonicalRequest.BuiltFrom (prims : TextPrimitives) (provider : String) (model : Json)
    (apiMode : ApiMode) (endpoint authScope : String) (promptPrefix system : Option String)
    (tools : Option (List Json)) (route : Option String) (maxTokens : Json) (c : CanonicalRequest) : Prop where
  provider : c.provider = provider
  model : model = .str c.model
  apiMode : c.apiMode = apiMode
  endpoint : c.endpoint = endpoint
  authScope : c.authScope = authScope
  route : c.route = route
  promptKey : c.promptKey = hashContent prims promptPrefix
  systemHash : c.systemHash = hashContent prims system
  toolsHash : c.toolsHash = hashContent prims (tools.map fun tools => canonicalJson prims (.arr tools))
  maxTokens : (outputBound prims maxTokens).map Subtype.val = some c.maxTokens

theorem CanonicalRequest.builtFrom_of_fromContent {prims : TextPrimitives} {provider : String} {model : Json}
    {apiMode : ApiMode} {endpoint authScope : String} {promptPrefix system : Option String}
    {tools : Option (List Json)} {route : Option String} {maxTokens : Json} {stream : Bool}
    {c : CanonicalRequest}
    (accepted : fromContent prims provider model apiMode endpoint authScope promptPrefix system tools route
      maxTokens stream = some c) :
    c.BuiltFrom prims provider model apiMode endpoint authScope promptPrefix system tools route maxTokens := by
  unfold fromContent at accepted
  split at accepted
  · rename_i bound valid
    dsimp only at accepted
    split at accepted
    · cases accepted
      exact ⟨rfl, rfl, rfl, rfl, rfl, rfl, rfl, rfl, rfl, by rw [valid]; rfl⟩
    · cases accepted
  · cases accepted

/-! ### Fingerprints -/

/-- A text or null. -/
def Json.ofText (text : Option String) : Json := text.elim .null .str

/-- The fields that participate in the cache identity, as they are dumped. -/
def CacheIdentity.members (c : CacheIdentity) : List (String × Json) :=
  [("provider", .str c.provider), ("model", .str c.model), ("api_mode", .str c.apiMode.value),
    ("endpoint", .str c.endpoint), ("auth_scope", .str c.authScope),
    ("route", Json.ofText c.route), ("prompt_key", .str c.promptKey),
    ("system_hash", .str c.systemHash), ("tools_hash", .str c.toolsHash)]

/-- Hash of only the prefix-cache-relevant fields. -/
def cacheFingerprint (prims : TextPrimitives) (request : CanonicalRequest) : String :=
  prims.sha256 (canonicalJson prims (.obj request.toCacheIdentity.members))

/-- Hash of the entire canonical request, without the derived tool-set digest. -/
def requestFingerprint (prims : TextPrimitives) (request : CanonicalRequest) : String :=
  prims.sha256 (canonicalJson prims (.obj (request.toCacheIdentity.members ++
    [("max_tokens", request.maxTokens.elim .null fun n => .int n),
      ("stream", .bool request.stream),
      ("timeout_s", request.timeoutS.elim .null fun s => .float (.finite s))])))

/-- The primitives, for floats without a fractional part and numerals without underscores. -/
def samplePrimitives : TextPrimitives where
  sha256 := Sha256.hexdigest
  floatRepr := fun value => toString value.num ++ ".0"
  parseInt := String.toInt?

/-- The sample digest of an encoding, without building its text. -/
theorem sha256_canonicalJson (value : Json) :
    samplePrimitives.sha256 (canonicalJson samplePrimitives value) =
      Sha256.hexOfBytes
        ((dumpChars samplePrimitives.floatRepr value).flatMap String.utf8EncodeChar) :=
  Sha256.hexdigest_ofList _

end CachePilot
