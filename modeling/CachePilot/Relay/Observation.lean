/-
Module: CachePilot.Relay.Observation
Layer: Relay
Purpose: How the relay reads a physical request: the identity form of an upstream URL, the provider label, the
  credential scope, the route, the API mode, the system and the other messages, and the canonical request built
  from them. The parser of request bodies is a parameter. Lower case is that of ASCII, which is what the compared
  words and the hosts are made of.
Trusted boundary: the reading of observation.py; the body parser is a parameter, and compared words are ASCII
Main exports: endpointIdentity, providerFromUpstream, deriveAuthScope, requestRouteIdentity,
  extractRouteIdentity, inferApiMode, systemContent, nonSystemMessages, buildCanonicalRequest,
  extractHistoryHash
-/
import CachePilot.Core.Adapters
import CachePilot.Core.Identity

namespace CachePilot

/-! ### URLs -/

/-- The text before the first occurrence of a separator and the text after it. -/
def splitFirst (separator : List Char) : List Char → Option (List Char × List Char)
  | [] => if separator = [] then some ([], []) else none
  | c :: rest =>
      if separator.isPrefixOf (c :: rest) then some ([], (c :: rest).drop separator.length)
      else (splitFirst separator rest).map fun parts => (c :: parts.1, parts.2)

/-- The text contains another one. -/
def containsText (part text : List Char) : Bool := (splitFirst part text).isSome

/-- The text before the first occurrence of a character, or all of it. -/
def beforeFirst (c : Char) (text : List Char) : List Char := text.takeWhile (· ≠ c)

/-- The text before the last occurrence of a character, or all of it. -/
def beforeLast (c : Char) (text : List Char) : List Char :=
  if c ∈ text then (text.reverse.dropWhile (· ≠ c)).tail.reverse else text

/-- The text after the last occurrence of a character, or all of it. -/
def afterLast (c : Char) (text : List Char) : List Char :=
  (text.reverse.takeWhile (· ≠ c)).reverse

/-- The identity and persistence form of an upstream URL: scheme, host and path. -/
def endpointIdentity (url : String) : String :=
  let withoutQuery := beforeFirst '?' (beforeFirst '#' url.toList)
  let (scheme, separator, rest) :=
    match splitFirst "://".toList withoutQuery with
    | some (scheme, rest) => (scheme, "://".toList, rest)
    | none => ([], [], withoutQuery)
  let authority := beforeFirst '/' rest
  let path := rest.drop authority.length
  String.ofList (scheme ++ separator ++ afterLast '@' authority ++ path)

/-- The labels of well-known gateways. -/
def knownGateways : List (String × String) :=
  [("api.openai.com", "openai"), ("api.anthropic.com", "anthropic"),
    ("openrouter.ai", "openrouter"), ("api.deepseek.com", "deepseek")]

/-- Provider label derived from the host of the upstream URL. -/
def providerFromUpstream (url : String) : String :=
  let afterScheme :=
    match splitFirst "://".toList url.toList with
    | some (_, rest) => rest
    | none => url.toList
  let host := (String.ofList (beforeLast ':' (beforeFirst '/' afterScheme))).toLower
  (knownGateways.lookup host).getD host

/-! ### Credentials -/

/-- The value of the first header with this lower-case name. -/
def getHeader (headers : List (String × String)) (name : String) : Option String :=
  (headers.find? fun header => header.1.toLower = name).map Prod.snd

/-- A scope label from the digest of the authorization header, or the default without one. -/
def deriveAuthScope (prims : TextPrimitives) (headers : List (String × String)) : String :=
  match getHeader headers "authorization" with
  | some auth =>
      if auth = "" then "relay-default"
      else "auth-" ++ String.ofList ((prims.sha256 auth).toList.take 16)
  | none => "relay-default"

/-- The authorization that the scope is derived from: the first header of that name, unless it is empty. -/
def scopedAuthorization (headers : List (String × String)) : Option String :=
  (getHeader headers "authorization").filter fun auth => auth ≠ ""

theorem deriveAuthScope_eq (prims : TextPrimitives) (headers : List (String × String)) :
    deriveAuthScope prims headers =
      (scopedAuthorization headers).elim "relay-default" fun auth =>
        "auth-" ++ String.ofList ((prims.sha256 auth).toList.take 16) := by
  unfold deriveAuthScope scopedAuthorization
  cases getHeader headers "authorization" with
  | none => rfl
  | some auth =>
      by_cases empty : auth = ""
      · simp [Option.filter, empty]
      · simp [Option.filter, empty]

/-! ### Routes -/

/-- Cache route identity: the fields that are observable are set, the rest are none. -/
structure RouteIdentity where
  gateway : Option String := none
  upstreamProvider : Option String := none
  endpoint : Option String := none
  region : Option String := none
  deployment : Option String := none
deriving DecidableEq

namespace RouteIdentity

def members (route : RouteIdentity) : List (String × Json) :=
  [("gateway", Json.ofText route.gateway), ("upstream_provider", Json.ofText route.upstreamProvider),
    ("endpoint", Json.ofText route.endpoint), ("region", Json.ofText route.region),
    ("deployment", Json.ofText route.deployment)]

/-- A field that is set to a text that is not empty. -/
def observable (field : Option String) : Bool := field.elim false fun text => text ≠ ""

/-- Stable digest of the route fields, none when nothing is observable. -/
def routeHash (prims : TextPrimitives) (route : RouteIdentity) : Option String :=
  if [route.gateway, route.upstreamProvider, route.endpoint, route.region, route.deployment].any
      observable then
    some (prims.sha256 (canonicalJson prims (.obj route.members)))
  else none

end RouteIdentity

/-- Route identity that is observable at request time: the gateway and the endpoint. -/
def requestRouteIdentity (upstreamUrl : String) : RouteIdentity :=
  let endpoint := endpointIdentity upstreamUrl
  { gateway := some (providerFromUpstream endpoint), endpoint := some endpoint }

/-- The headers in which a response names its upstream provider, in order of preference. -/
def headerUpstreamProvider : List String := ["x-provider", "x-cachepilot-provider"]

/-- The headers in which a response names its region. -/
def headerRegion : List String := ["x-region", "x-cachepilot-region"]

/-- The headers in which a response names its deployment. -/
def headerDeployment : List String := ["x-served-by", "x-cachepilot-deployment"]

/-- The value of the first of these names that the response has; a repeated name keeps its last value. -/
def responseHeader (responseHeaders : List (String × String)) (names : List String) : Option String :=
  names.findSome? fun name =>
    (responseHeaders.reverse.find? fun header => header.1.toLower = name).map Prod.snd

/-- Route identity that is observable from the request and the response headers. -/
def extractRouteIdentity (upstreamUrl : String) (responseHeaders : List (String × String)) : RouteIdentity :=
  let endpoint := endpointIdentity upstreamUrl
  { gateway := some (providerFromUpstream endpoint)
    upstreamProvider := responseHeader responseHeaders headerUpstreamProvider
    endpoint := some endpoint
    region := responseHeader responseHeaders headerRegion
    deployment := responseHeader responseHeaders headerDeployment }

/-- The response names no part of its route. -/
def NoRouteHeaders (responseHeaders : List (String × String)) : Prop :=
  ∀ header ∈ responseHeaders,
    header.1.toLower ∉ headerUpstreamProvider ++ headerRegion ++ headerDeployment

instance (responseHeaders : List (String × String)) : Decidable (NoRouteHeaders responseHeaders) :=
  inferInstanceAs (Decidable (∀ header ∈ responseHeaders, _))

theorem responseHeader_eq_none {responseHeaders : List (String × String)} {names : List String}
    (absent : ∀ header ∈ responseHeaders, header.1.toLower ∉ names) :
    responseHeader responseHeaders names = none := by
  unfold responseHeader
  rw [List.findSome?_eq_none_iff]
  intro name listed
  rw [Option.map_eq_none_iff, List.find?_eq_none]
  intro header member same
  rw [List.mem_reverse] at member
  apply absent header member
  rw [of_decide_eq_true same]
  exact listed

/-- Without route headers the response shows what the request did. -/
theorem extractRouteIdentity_of_noRouteHeaders {responseHeaders : List (String × String)}
    (silent : NoRouteHeaders responseHeaders) (upstreamUrl : String) :
    extractRouteIdentity upstreamUrl responseHeaders = requestRouteIdentity upstreamUrl := by
  have absent : ∀ names, (∀ name ∈ names, name ∈ headerUpstreamProvider ++ headerRegion ++ headerDeployment) →
      responseHeader responseHeaders names = none := by
    intro names listed
    apply responseHeader_eq_none
    intro header member named
    exact silent header member (listed _ named)
  unfold extractRouteIdentity requestRouteIdentity
  rw [absent headerUpstreamProvider (by simp +contextual), absent headerRegion (by simp +contextual),
    absent headerDeployment (by simp +contextual)]

/-- An endpoint that is not empty is observable. -/
theorem routeHash_extractRouteIdentity {prims : TextPrimitives} {upstreamUrl : String}
    (named : endpointIdentity upstreamUrl ≠ "") (responseHeaders : List (String × String)) :
    ∃ hash, (extractRouteIdentity upstreamUrl responseHeaders).routeHash prims = some hash := by
  unfold RouteIdentity.routeHash
  rw [if_pos]
  · exact ⟨_, rfl⟩
  · rw [List.any_eq_true]
    refine ⟨some (endpointIdentity upstreamUrl), by simp [extractRouteIdentity], ?_⟩
    simpa [RouteIdentity.observable] using named

/-! ### Bodies -/

/-- API mode from the physical request path and body. -/
def inferApiMode (path : String) (payload : List (String × Json)) : ApiMode :=
  let lowered := path.toLower.toList
  if containsText "responses".toList lowered then .responses
  else if containsText "chat".toList lowered then .chat
  else if "/completions".toList.isSuffixOf lowered then .completion
  else if "messages" ∈ memberKeys payload then .chat
  else if "prompt" ∈ memberKeys payload then .completion
  else .chat

/-- The messages of a body, none when the field is missing or false. A field that cannot be iterated over
    raises. -/
def messagesOf (payload : List (String × Json)) : Option (List Json) :=
  ((getOrNull payload "messages").orElse (.arr [])).iterate

/-- System prompt text: the top-level field, or the system-role messages joined by line breaks. -/
def systemContent (prims : TextPrimitives) (payload : List (String × Json)) :
    Option (Option String) :=
  match getOrNull payload "system" with
  | .null =>
      (messagesOf payload).map fun messages =>
        let texts := (messages.filter isSystemMessage).map fun message =>
          textOrCanonical prims (messageContent message)
        if texts = [] then none else some ("\n".intercalate texts)
  | system => some (some (textOrCanonical prims system))

def nonSystemMessages (payload : List (String × Json)) : Option (List Json) :=
  (messagesOf payload).map fun messages => messages.filter fun message => !isSystemMessage message

/-- A parser of request bodies, and the encoder that a warm is sent with. -/
structure BodyText (B : Type) where
  loads : B → Option Json
  serialise : List (String × Json) → Option B

/-- Bodies that are parsed already. -/
def sampleText : BodyText (List (String × Json)) where
  loads := fun members => some (.obj members)
  serialise := some

/-- The members of a body that is a JSON object. -/
def jsonOrNone {B : Type} (text : BodyText B) (body : B) : Option (List (String × Json)) :=
  match text.loads body with
  | some (.obj members) => some members
  | _ => none

/-- The tools of a body, or its functions. -/
def toolsOf (payload : List (String × Json)) : Option (List Json) :=
  match (getOrNull payload "tools").orElse (getOrNull payload "functions") with
  | .arr tools => some tools
  | _ => none

/-- The canonical request of a parsed body; an empty object reads like no object. -/
def canonicalOfPayload (prims : TextPrimitives) (payload : List (String × Json))
    (path upstreamUrl : String) (routeHash : Option String) (authScope : String) :
    Option CanonicalRequest :=
  let endpoint := endpointIdentity upstreamUrl
  match nonSystemMessages payload, systemContent prims payload with
  | some messages, some system =>
      CanonicalRequest.fromContent prims (providerFromUpstream endpoint)
        ((getOrNull payload "model").orElse (.str "unknown")) (inferApiMode path payload) endpoint
        authScope (if messages = [] then none else some (canonicalJson prims (.arr messages))) system
        (toolsOf payload) routeHash (getOrNull payload "max_tokens")
        ((getMember payload "stream").elim false Json.truthy)
  | _, _ => none

/-- What the canonical request of a payload is built from. -/
theorem canonicalOfPayload_spec {prims : TextPrimitives} {payload : List (String × Json)}
    {path upstreamUrl : String} {routeHash : Option String} {authScope : String} {c : CanonicalRequest}
    (accepted : canonicalOfPayload prims payload path upstreamUrl routeHash authScope = some c) :
    ∃ messages ∈ nonSystemMessages payload, ∃ system ∈ systemContent prims payload,
      c.BuiltFrom prims (providerFromUpstream (endpointIdentity upstreamUrl))
        ((getOrNull payload "model").orElse (.str "unknown")) (inferApiMode path payload)
        (endpointIdentity upstreamUrl) authScope
        (if messages = [] then none else some (canonicalJson prims (.arr messages))) system (toolsOf payload)
        routeHash (getOrNull payload "max_tokens") := by
  unfold canonicalOfPayload at accepted
  dsimp only at accepted
  split at accepted
  · rename_i messages system others read
    exact ⟨messages, others, system, read, CanonicalRequest.builtFrom_of_fromContent accepted⟩
  · cases accepted

/-- Build the canonical request from the physical request; a body that is no JSON object has no content. -/
def buildCanonicalRequest {B : Type} (prims : TextPrimitives) (text : BodyText B) (body : B)
    (path upstreamUrl : String) (routeHash : Option String) (authScope : String) :
    Option CanonicalRequest :=
  canonicalOfPayload prims ((jsonOrNone text body).getD []) path upstreamUrl routeHash authScope

/-- Digest of the conversation history of a parsed body, absent without messages; an empty object reads like no
    object. Messages that cannot be iterated over raise. -/
def historyHashOfPayload (prims : TextPrimitives) (payload : List (String × Json)) : Option (Option String) :=
  (nonSystemMessages payload).map fun messages =>
    if messages = [] then none else some (hashContent prims (some (canonicalJson prims (.arr messages))))

/-- Digest of the conversation history for storage. -/
def extractHistoryHash {B : Type} (prims : TextPrimitives) (text : BodyText B) (body : B) :
    Option (Option String) :=
  historyHashOfPayload prims ((jsonOrNone text body).getD [])

end CachePilot
