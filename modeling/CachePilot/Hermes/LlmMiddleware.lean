/-
Module: CachePilot.Hermes.LlmMiddleware
Layer: Hermes
Purpose: The llm-request middleware: the correlation headers are merged into a copy of a request that has a
  headers mapping, and every other request passes through unchanged. The digest behind a turn id is an argument,
  and so is the fresh id of the request. Log lines are left out.
Trusted boundary: the reading of llm_middleware.py; the turn digest and the request id are parameters
Main exports: makeCorrelationHeaders, attachCorrelationHeaders, llmRequest, HermesPlugin.llmRequest
-/
import CachePilot.Hermes.Lifecycle

namespace CachePilot

def correlationHeaderSession : String := "X-CachePilot-Session"

def correlationHeaderRequest : String := "X-CachePilot-Request"

def correlationHeaderTurn : String := "X-CachePilot-Turn"

def correlationHeaderTargets : String := "X-CachePilot-Targets"

/-- The three correlation header values of one request. -/
def makeCorrelationHeaders (computeTurnId : String → String → String) (sessionId requestId : String) :
    List (String × Json) :=
  [(correlationHeaderSession, .str sessionId), (correlationHeaderRequest, .str requestId),
    (correlationHeaderTurn, .str (computeTurnId sessionId requestId))]

/-- One mapping merged over another: its values win. -/
def mergeMembers (base update : List (String × Json)) : List (String × Json) :=
  update.foldl (fun members entry => setMember members entry.1 entry.2) base

/-- The headers mapping of a request. -/
def requestHeaders : Json → Option (List (String × Json))
  | .obj members =>
      match getMember members "headers" with
      | some (.obj headers) => some headers
      | _ => none
  | _ => none

/-- Merge the correlation headers into a copy of a request that has a headers mapping. The headers that the
    request already has win. -/
def attachCorrelationHeaders (computeTurnId : String → String → String) (request : Json)
    (sessionId requestId : String) (extraHeaders : List (String × Json)) :
    Option (List (String × Json)) :=
  match request, requestHeaders request with
  | .obj members, some headers =>
      let correlation := makeCorrelationHeaders computeTurnId sessionId requestId
      let merged := mergeMembers (mergeMembers correlation extraHeaders) headers
      some (setMember members "headers" (.obj merged))
  | _, _ => none

/-- The llm-request middleware: the request with the correlation headers, or no change. With a registry the
    count of the session's active targets is among the headers. -/
def llmRequest (computeTurnId : String → String → String) (correlationHeaders : Bool)
    (targetsRegistry : Option BackgroundTargetRegistry) (request : Json) (sessionId requestId : String) :
    Option (List (String × Json)) :=
  if !correlationHeaders then none
  else
    let extraHeaders :=
      match targetsRegistry with
      | some registry =>
          [(correlationHeaderTargets,
            Json.str (toString (BackgroundTargetRegistry.activeCount registry (some sessionId))))]
      | none => []
    attachCorrelationHeaders computeTurnId request sessionId requestId extraHeaders

/-- The llm-request middleware of the plugin, under its current session and with its registry. -/
def HermesPlugin.llmRequest (p : HermesPlugin) (computeTurnId : String → String → String)
    (correlationHeaders : Bool) (processSessionId : String) (request : Json) (requestId : String) :
    Option (List (String × Json)) :=
  CachePilot.llmRequest computeTurnId correlationHeaders (some p.targets) request
    (p.currentSessionId processSessionId) requestId

/-! ### What a request carries -/

/-- Assigning to a key is seen under the key. -/
theorem getMember_setMember_self (members : List (String × Json)) (key : String) (value : Json) :
    getMember (setMember members key value) key = some value := by
  unfold setMember
  split
  · rename_i present
    obtain ⟨old, found⟩ := Option.isSome_iff_exists.1 (mem_memberKeys_iff.1 present)
    rw [getMember_replaceMember, if_pos rfl, found, Option.map_some]
  · rename_i absent
    have missing : getMember members key = none := by
      rw [mem_memberKeys_iff, Bool.not_eq_true, Option.isSome_eq_false_iff] at absent
      exact Option.isNone_iff_eq_none.1 absent
    rw [getMember] at missing
    simp [getMember, List.lookup_append, missing]

/-- A merge leaves alone what the update does not name. -/
theorem getMember_mergeMembers_of_notMem {update : List (String × Json)} {key : String}
    (unnamed : key ∉ memberKeys update) (base : List (String × Json)) :
    getMember (mergeMembers base update) key = getMember base key := by
  induction update generalizing base with
  | nil => rfl
  | cons entry update ih =>
      simp only [memberKeys, List.map_cons, List.mem_cons, not_or] at unnamed
      have rest := ih unnamed.2 (setMember base entry.1 entry.2)
      rw [getMember_setMember_of_ne _ _ unnamed.1] at rest
      exact rest

/-- The header that a request carries under a name. -/
def carriedHeader (request : Json) (name : String) : Option Json :=
  (requestHeaders request).bind fun headers => getMember headers name

/-- The headers of the request that a correlated one is. -/
theorem requestHeaders_setMember (members merged : List (String × Json)) :
    requestHeaders (.obj (setMember members "headers" (.obj merged))) = some merged := by
  rw [requestHeaders, getMember_setMember_self]

/-- A header that the request leaves to the middleware is carried with its correlation value. -/
theorem carriedHeader_attach (computeTurnId : String → String → String) {request : Json}
    {headers : List (String × Json)} (mapping : requestHeaders request = some headers) {name : String}
    (free : name ∉ memberKeys headers) (sessionId requestId : String)
    (extraHeaders : List (String × Json)) :
    ∃ attached, attachCorrelationHeaders computeTurnId request sessionId requestId extraHeaders =
        some attached ∧
      carriedHeader (.obj attached) name =
        getMember (mergeMembers (makeCorrelationHeaders computeTurnId sessionId requestId) extraHeaders)
          name := by
  cases request with
  | obj members =>
      refine ⟨setMember members "headers" (.obj (mergeMembers (mergeMembers
        (makeCorrelationHeaders computeTurnId sessionId requestId) extraHeaders) headers)), ?_, ?_⟩
      · simp only [attachCorrelationHeaders, mapping]
      · rw [carriedHeader, requestHeaders_setMember, Option.bind_some,
          getMember_mergeMembers_of_notMem free]
  | _ => cases mapping

/-- The request that goes to the provider: the one with the correlation headers, else the original. -/
def effectiveRequest (request : Json) (attached : Option (List (String × Json))) : Json :=
  (attached.map Json.obj).getD request

/-- The middleware leaves its two session headers to no one else: it is on, and the request has a headers
    mapping without them. -/
def attachable (correlationHeaders : Bool) (request : Json) : Bool :=
  match requestHeaders request with
  | some headers =>
      correlationHeaders && decide (correlationHeaderSession ∉ memberKeys headers) &&
        decide (correlationHeaderTargets ∉ memberKeys headers)
  | none => false

/-- What the middleware of the plugin makes of such a request: the current session and its count are carried. -/
theorem carriedHeader_llmRequest {correlationHeaders : Bool} {request : Json}
    (free : attachable correlationHeaders request = true) (p : HermesPlugin)
    (computeTurnId : String → String → String) (processSessionId requestId : String) :
    carriedHeader (effectiveRequest request
        (p.llmRequest computeTurnId correlationHeaders processSessionId request requestId))
          correlationHeaderSession =
        some (.str (p.currentSessionId processSessionId)) ∧
      carriedHeader (effectiveRequest request
        (p.llmRequest computeTurnId correlationHeaders processSessionId request requestId))
          correlationHeaderTargets =
        some (.str (toString (BackgroundTargetRegistry.activeCount p.targets
          (some (p.currentSessionId processSessionId))))) := by
  unfold attachable at free
  cases mapping : requestHeaders request with
  | none =>
      rw [mapping] at free
      cases free
  | some headers =>
      rw [mapping] at free
      simp only [Bool.and_eq_true, decide_eq_true_eq] at free
      obtain ⟨⟨on, session⟩, targets⟩ := free
      unfold HermesPlugin.llmRequest CachePilot.llmRequest
      simp only [on, Bool.not_true, Bool.false_eq_true, if_false]
      constructor
      · obtain ⟨attached, answer, carried⟩ :=
          carriedHeader_attach computeTurnId mapping session
            (p.currentSessionId processSessionId) requestId _
        rw [answer, effectiveRequest, Option.map_some, Option.getD_some, carried]
        rfl
      · obtain ⟨attached, answer, carried⟩ :=
          carriedHeader_attach computeTurnId mapping targets
            (p.currentSessionId processSessionId) requestId _
        rw [answer, effectiveRequest, Option.map_some, Option.getD_some, carried]
        rfl

end CachePilot
