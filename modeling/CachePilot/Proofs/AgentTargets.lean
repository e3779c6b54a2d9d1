/-
Module: CachePilot.Proofs.AgentTargets
Layer: Proofs
Purpose: The plugin and the relay together. The plugin counts the background targets of its sessions, a request of the
  agent carries the count of the session in a header, and the relay reads it back and gives the lease of the request
  that many targets. Hooks, requests of other clients, ends of requests and the scheduler come in any order. Each lease
  has the targets of its last request, and for a request of the agent these are as many as the plugin had counted.
Trusted boundary: none
Main exports: Transport, LinkConfig, AgentRelay, AgentAction, linkStep, AgentRelay.Attaches, lastReported,
  plugin_counts_reach_leases
-/
import CachePilot.Proofs.Credentials
import CachePilot.Proofs.SessionAttribution
import CachePilot.Proofs.TargetReconciliation
import CachePilot.Relay.Correlation

namespace CachePilot

/-! ### The agent and the relay -/

/-- A text that a header carries as it is: its characters are those of ASCII that are visible. -/
def Visible (text : String) : Prop := ∀ c ∈ text.toList, 33 ≤ c.toNat ∧ c.toNat ≤ 126

instance (text : String) : Decidable (Visible text) :=
  List.decidableBAll (fun c : Char => 33 ≤ c.toNat ∧ c.toNat ≤ 126) text.toList

/-- What takes the requests of the agent to the relay. It has headers of its own, and delivers those of a request: a
    visible text under the name of a correlation header arrives, unless another header has that name in other case. -/
structure Transport where
  deliver : List (String × String) → List (String × Json) → List (String × String)
  delivers : ∀ own headers name text, name.toLower ∈ correlationHeaderNames →
    getMember headers name = some (.str text) → Visible text →
      (∀ other ∈ memberKeys headers, other.toLower = name.toLower → other = name) →
        getHeader (deliver own headers) name.toLower = some text

/-- A request has a headers mapping, without a name of a correlation header in any case. -/
def leavesCorrelation (json : Json) : Bool :=
  (requestHeaders json).any fun headers =>
    (memberKeys headers).all fun name => decide (name.toLower ∉ correlationHeaderNames)

/-- The plugin and the relay as they are set up, and what is between them. -/
structure LinkConfig (B : Type) where
  setup : PluginSetup
  controller : ControllerConfig
  prims : TextPrimitives
  text : BodyText B
  transport : Transport

/-- The plugin in the process of the agent, and the relay. -/
structure AgentRelay where
  plugin : HermesPlugin := HermesPlugin.start
  relay : Relay := {}

/-- A hook of the plugin is called, the agent sends a request, or the relay does anything else: it gets a request of
    another client, ends one, or its scheduler and clock move. -/
inductive AgentAction (B : Type) where
  | callback (c : SessionCallback)
  | request (json : Json) (requestId : String) (wire : PhysicalRequest B)
  | other (a : PhysicalAction B)

namespace AgentRelay

variable {B : Type} (cfg : LinkConfig B) (x : AgentRelay)

/-- The session that the plugin takes a request for. -/
def session : String := x.plugin.currentSessionId cfg.setup.processSessionId

/-- The active targets of that session. -/
def count : ℕ := BackgroundTargetRegistry.activeCount x.plugin.targets (some (x.session cfg))

/-- The request as the middleware leaves it. -/
def sent (json : Json) (requestId : String) : Json :=
  effectiveRequest json (x.plugin.llmRequest cfg.setup.computeTurnId cfg.setup.correlationHeaders
    cfg.setup.processSessionId json requestId)

/-- The request as it arrives at the relay. -/
def arriving (json : Json) (requestId : String) (wire : PhysicalRequest B) : PhysicalRequest B :=
  let headers := (requestHeaders (x.sent cfg json requestId)).getD []
  PhysicalRequest.correlated { wire with headers := cfg.transport.deliver wire.headers headers }

/-- The context that a request gets, when it is tracked. -/
def tracked (request : PhysicalRequest B) : Option LeaseRequestContext :=
  (request.startRequest cfg.prims cfg.text).bind fun r => (x.relay.controller.onRequestStart cfg.controller r).2

/-- A request of the agent leaves the correlation headers to the plugin, which is to attach them; the count has no
    more digits than the relay reads. -/
def Attaches : AgentAction B → Prop
  | .request json _ _ =>
      cfg.setup.correlationHeaders = true ∧ leavesCorrelation json = true ∧
        (toString (x.count cfg)).length ≤ maxDigits
  | .callback _ => True
  | .other _ => True

instance : DecidablePred (x.Attaches cfg)
  | .request json _ _ =>
      inferInstanceAs (Decidable (cfg.setup.correlationHeaders = true ∧ leavesCorrelation json = true ∧
        (toString (x.count cfg)).length ≤ maxDigits))
  | .callback _ => .isTrue trivial
  | .other _ => .isTrue trivial

/-- What a step says about a lease: a request of the agent says what the plugin has counted, a request of another
    client what its header claims. -/
def reported (id : LeaseId) : AgentAction B → Option ℕ
  | .request json requestId wire =>
      ((x.tracked cfg (x.arriving cfg json requestId wire)).filter fun ctx => ctx.leaseId = id).map fun _ => x.count cfg
  | .other (.arrives request) =>
      ((x.tracked cfg request).filter fun ctx => ctx.leaseId = id).map fun _ => request.targetsCount
  | _ => none

end AgentRelay

section Steps

variable {B : Type} (cfg : LinkConfig B)

/-- One step of the plugin or of the relay. -/
def linkStep (x : AgentRelay) : AgentAction B → Option AgentRelay
  | .callback c => some { x with plugin := sessionStep cfg.setup x.plugin c }
  | .request json requestId wire =>
      (physicalStep cfg.controller cfg.prims cfg.text x.relay
        (.arrives (x.arriving cfg json requestId wire))).map fun relay => { x with relay }
  | .other a => (physicalStep cfg.controller cfg.prims cfg.text x.relay a).map fun relay => { x with relay }

/-- What the last request of a lease said; nothing was said yet about a new lease. -/
def lastReported (start : AgentRelay) (acts : List (AgentAction B)) (id : LeaseId) : ℕ :=
  (Execution.trace (linkStep cfg) (fun x => x.reported cfg id) start acts).getLast?.getD 0

variable {cfg}

theorem lastReported_snoc {start u v : AgentRelay} {acts : List (AgentAction B)} {a : AgentAction B}
    (run : Execution.exec (linkStep cfg) start acts = some u) (stepped : linkStep cfg u a = some v) (id : LeaseId) :
    lastReported cfg start (acts ++ [a]) id = (u.reported cfg id a).getD (lastReported cfg start acts id) := by
  unfold lastReported
  rw [Execution.trace_snoc run stepped, List.getLast?_append]
  cases u.reported cfg id a with
  | none => rfl
  | some count => rfl

end Steps

/-! ### What a request carries to the relay -/

theorem mem_memberKeys_setMember {members : List (String × Json)} {key name : String} {value : Json}
    (listed : name ∈ memberKeys (setMember members key value)) : name ∈ memberKeys members ∨ name = key := by
  unfold setMember at listed
  split at listed
  · rw [memberKeys_replaceMember] at listed
    exact Or.inl listed
  · rw [memberKeys, List.map_append, List.mem_append, List.map_singleton, List.mem_singleton] at listed
    exact listed

/-- A merge has the names of the two mappings. -/
theorem mem_memberKeys_mergeMembers {base update : List (String × Json)} {name : String}
    (listed : name ∈ memberKeys (mergeMembers base update)) : name ∈ memberKeys base ∨ name ∈ memberKeys update := by
  induction update generalizing base with
  | nil => exact Or.inl listed
  | cons entry update ih =>
      rcases @ih (setMember base entry.1 entry.2) listed with before | later
      · rcases mem_memberKeys_setMember before with own | same
        · exact Or.inl own
        · exact Or.inr (List.mem_cons.mpr (Or.inl same))
      · exact Or.inr (List.mem_cons_of_mem _ later)

theorem visible_toString (count : ℕ) : Visible (toString count) := by
  intro c listed
  rw [Nat.toString_eq_ofList_toDigits, String.toList_ofList] at listed
  have digit := List.all_eq_true.mp (all_toDigits count) c listed
  rw [Char.isDigit_iff_toNat] at digit
  change 48 ≤ c.toNat ∧ c.toNat ≤ 57 at digit
  omega

theorem headers_of_leavesCorrelation {json : Json} (leaves : leavesCorrelation json = true) :
    ∃ headers, requestHeaders json = some headers ∧
      ∀ name ∈ memberKeys headers, name.toLower ∉ correlationHeaderNames := by
  unfold leavesCorrelation at leaves
  cases mapping : requestHeaders json with
  | none =>
      rw [mapping] at leaves
      cases leaves
  | some headers =>
      rw [mapping, Option.any_some, List.all_eq_true] at leaves
      exact ⟨headers, rfl, fun name listed => of_decide_eq_true (leaves name listed)⟩

/-- The names under which the session and its count are carried are those of correlation headers. -/
theorem lower_of_carried : ∀ name ∈ [correlationHeaderSession, correlationHeaderTargets],
    name.toLower ∈ correlationHeaderNames := by
  decide +kernel

/-- Among the names that the middleware adds they are the only ones, in any case. -/
theorem sole_of_added : ∀ name ∈ [correlationHeaderSession, correlationHeaderTargets],
    ∀ other ∈ [correlationHeaderSession, correlationHeaderRequest, correlationHeaderTurn, correlationHeaderTargets],
      other.toLower = name.toLower → other = name := by
  decide +kernel

theorem toLower_session : correlationHeaderSession.toLower = "x-cachepilot-session" := by decide +kernel

theorem toLower_targets : correlationHeaderTargets.toLower = "x-cachepilot-targets" := by decide +kernel

namespace AgentRelay

variable {B : Type} {cfg : LinkConfig B} {x : AgentRelay} {json : Json} {requestId : String}
  {wire : PhysicalRequest B}

theorem attachable_of_attaches (attaches : x.Attaches cfg (.request json requestId wire)) :
    attachable cfg.setup.correlationHeaders json = true := by
  obtain ⟨on, leaves, -⟩ := attaches
  obtain ⟨headers, mapping, free⟩ := headers_of_leavesCorrelation leaves
  have absent : ∀ name ∈ [correlationHeaderSession, correlationHeaderTargets], name ∉ memberKeys headers :=
    fun name known listed => free name listed (lower_of_carried name known)
  rw [attachable, mapping]
  simp [on, absent correlationHeaderSession, absent correlationHeaderTargets]

variable (cfg x requestId) in
/-- The headers of the request as it is sent. -/
theorem requestHeaders_sent (on : cfg.setup.correlationHeaders = true) {headers : List (String × Json)}
    (mapping : requestHeaders json = some headers) :
    requestHeaders (x.sent cfg json requestId) =
      some (mergeMembers (mergeMembers
        (makeCorrelationHeaders cfg.setup.computeTurnId (x.session cfg) requestId)
        [(correlationHeaderTargets, .str (toString (x.count cfg)))]) headers) := by
  cases json with
  | obj members =>
      rw [sent, HermesPlugin.llmRequest, llmRequest, on, Bool.not_true, if_neg Bool.false_ne_true]
      unfold attachCorrelationHeaders
      rw [mapping]
      exact requestHeaders_setMember _ _
  | _ => cases mapping

/-- A correlation header of the request arrives at the relay. -/
theorem getHeader_arriving (attaches : x.Attaches cfg (.request json requestId wire)) {name text : String}
    (known : name ∈ [correlationHeaderSession, correlationHeaderTargets])
    (carried : carriedHeader (x.sent cfg json requestId) name = some (.str text)) (visible : Visible text) :
    getHeader (x.arriving cfg json requestId wire).headers name.toLower = some text := by
  obtain ⟨on, leaves, -⟩ := attaches
  obtain ⟨headers, mapping, free⟩ := headers_of_leavesCorrelation leaves
  have sent := requestHeaders_sent cfg x requestId on mapping
  rw [carriedHeader, sent, Option.bind_some] at carried
  unfold arriving
  rw [sent, Option.getD_some]
  refine cfg.transport.delivers wire.headers _ name text (lower_of_carried name known) carried visible ?_
  intro other listed same
  rcases mem_memberKeys_mergeMembers listed with added | own
  · exact sole_of_added name known other added same
  · have correlation := lower_of_carried name known
    rw [← same] at correlation
    exact absurd correlation (free other own)

/-- A request of the agent arrives with the count of the plugin. -/
theorem targetsCount_arriving (attaches : x.Attaches cfg (.request json requestId wire)) :
    (x.arriving cfg json requestId wire).targetsCount = x.count cfg := by
  have short : (toString (x.count cfg)).length ≤ maxDigits := attaches.2.2
  have carried := (carriedHeader_llmRequest (attachable_of_attaches attaches) x.plugin cfg.setup.computeTurnId
    cfg.setup.processSessionId requestId).2
  have arrives := getHeader_arriving attaches (List.mem_cons_of_mem _ List.mem_cons_self) carried (visible_toString _)
  rw [toLower_targets] at arrives
  exact (congrArg parseTargetsCount arrives).trans (parseTargetsCount_toString short)

/-- A request of the agent arrives under the session that the plugin took it for. -/
theorem sessionHeader_arriving (attaches : x.Attaches cfg (.request json requestId wire))
    (visible : Visible (x.session cfg)) : (x.arriving cfg json requestId wire).sessionHeader = x.session cfg := by
  have carried := (carriedHeader_llmRequest (attachable_of_attaches attaches) x.plugin cfg.setup.computeTurnId
    cfg.setup.processSessionId requestId).1
  have arrives := getHeader_arriving attaches List.mem_cons_self carried visible
  rw [toLower_session] at arrives
  exact congrArg (fun value => Option.getD value "") arrives

/-! ### One step -/

/-- A request that starts says its count to the lease that it gets. -/
theorem headerCount_requestStart (request : StartRequest) (id : LeaseId) :
    headerCount cfg.controller id x.relay (.requestStart request) =
      ((x.relay.controller.onRequestStart cfg.controller request).2.filter fun ctx => ctx.leaseId = id).map fun _ =>
        request.targetsCount := by
  cases began : x.relay.controller.onRequestStart cfg.controller request with
  | mk controller ctx =>
      rw [headerCount, began]
      cases ctx with
      | none => rfl
      | some ctx =>
          have count := targetsCount_onRequestStart began
          by_cases own : ctx.leaseId = id
          · simp [own, count]
          · simp [own]

/-- A request can arrive at any time. -/
theorem physicalStep_arrives (cfg : LinkConfig B) (x : AgentRelay) (request : PhysicalRequest B) :
    ∃ r, physicalStep cfg.controller cfg.prims cfg.text x.relay (.arrives request) = some r := by
  rw [physicalStep, PhysicalAction.read]
  cases request.startRequest cfg.prims cfg.text with
  | none => exact ⟨_, rfl⟩
  | some start => exact ⟨_, rfl⟩

/-- An arriving request is read, or it changes nothing. -/
theorem arrives_cases (cfg : LinkConfig B) (x : AgentRelay) (request : PhysicalRequest B) {r : Relay}
    (stepped : physicalStep cfg.controller cfg.prims cfg.text x.relay (.arrives request) = some r) :
    (r = x.relay ∧ x.tracked cfg request = none) ∨
      ∃ start : StartRequest, relayStep cfg.controller x.relay (.requestStart start) = some r ∧
        start.targetsCount = request.targetsCount ∧
        start.identity.sessionId = request.sessionHeader ∧
        x.tracked cfg request = (x.relay.controller.onRequestStart cfg.controller start).2 := by
  cases read : request.startRequest cfg.prims cfg.text with
  | none =>
      rw [physicalStep, PhysicalAction.read, read, Option.map_none] at stepped
      cases stepped
      exact Or.inl ⟨rfl, by rw [tracked, read, Option.bind_none]⟩
  | some start =>
      rw [physicalStep, PhysicalAction.read, read, Option.map_some] at stepped
      obtain ⟨c, -, same⟩ := Option.map_eq_some_iff.mp read
      subst same
      exact Or.inr ⟨_, stepped, rfl, rfl, by rw [tracked, read, Option.bind_some]⟩

/-- A step of the two is a step of the relay that says to each lease what is reported, or none. -/
theorem linkStep_cases {after : AgentRelay} {a : AgentAction B} (attaches : x.Attaches cfg a)
    (stepped : linkStep cfg x a = some after) :
    (after.relay = x.relay ∧ ∀ id, x.reported cfg id a = none) ∨
      ∃ b, relayStep cfg.controller x.relay b = some after.relay ∧
        ∀ id, headerCount cfg.controller id x.relay b = x.reported cfg id a := by
  cases a with
  | callback c =>
      cases stepped
      exact Or.inl ⟨rfl, fun _ => rfl⟩
  | request json requestId wire =>
      obtain ⟨relay, moved, rfl⟩ := Option.map_eq_some_iff.mp stepped
      rcases arrives_cases cfg x _ moved with ⟨same, none⟩ | ⟨start, began, count, -, context⟩
      · refine Or.inl ⟨same, fun id => ?_⟩
        rw [reported, none]
        rfl
      · refine Or.inr ⟨_, began, fun id => ?_⟩
        rw [headerCount_requestStart, count, targetsCount_arriving attaches, reported, context]
  | other a =>
      obtain ⟨relay, moved, rfl⟩ := Option.map_eq_some_iff.mp stepped
      cases a with
      | arrives request =>
          rcases arrives_cases cfg x _ moved with ⟨same, none⟩ | ⟨start, began, count, -, context⟩
          · refine Or.inl ⟨same, fun id => ?_⟩
            rw [reported, none]
            rfl
          · refine Or.inr ⟨_, began, fun id => ?_⟩
            rw [headerCount_requestStart, count, reported, context]
      | requestEnd ctx outcome usage routeHash answer =>
          exact Or.inr ⟨.requestEnd ctx outcome usage routeHash answer, moved, fun _ => rfl⟩
      | scheduler a => exact Or.inr ⟨.scheduler a, moved, fun _ => rfl⟩

end AgentRelay

/-! ### Runs -/

section Runs

variable {B : Type} {cfg : LinkConfig B} {start x : AgentRelay} {acts : List (AgentAction B)}

/-- The relay goes through a run of its own, in which every lease hears what is reported. -/
theorem relay_run_of_linkStep (attaches : Execution.Along (linkStep cfg) (AgentRelay.Attaches cfg) start acts)
    (run : Execution.exec (linkStep cfg) start acts = some x) :
    ∃ told, Execution.exec (relayStep cfg.controller) start.relay told = some x.relay ∧
      ∀ id, lastCount cfg.controller start.relay told id = lastReported cfg start acts id := by
  apply Execution.history_invariant (R := fun before u =>
    ∃ told, Execution.exec (relayStep cfg.controller) start.relay told = some u.relay ∧
      ∀ id, lastCount cfg.controller start.relay told id = lastReported cfg start before id) _ _ run
  · exact ⟨[], rfl, fun _ => rfl⟩
  · rintro before a after u v rfl reached stepped ⟨told, ran, heard⟩
    rcases AgentRelay.linkStep_cases (attaches.step reached) stepped with ⟨same, silent⟩ | ⟨b, moved, said⟩
    · refine ⟨told, same ▸ ran, fun id => ?_⟩
      rw [heard, lastReported_snoc reached stepped, silent, Option.getD_none]
    · refine ⟨told ++ [b], Execution.exec_snoc ran moved, fun id => ?_⟩
      rw [lastCount_snoc ran moved, lastReported_snoc reached stepped, said, heard]

/-- The lease of a request that starts has the session of the request. -/
theorem sessionId_onRequestStart {c c' : LeaseController} {ctx : LeaseRequestContext} {request : StartRequest}
    (starts : c.onRequestStart cfg.controller request = (c', some ctx)) :
    ∃ t, c'.world.lease? ctx.leaseId = some t ∧ t.lease.sessionId = request.identity.sessionId := by
  have begun := onRequestStart_cases cfg.controller c request
  rw [starts] at begun
  cases begun with
  | @started manager id enabled called =>
      obtain ⟨found, t, known, -⟩ := registered_of_called called
      obtain ⟨-, u, same, session⟩ := (findExisting_eq_some_iff (w := { c.world with manager })).mp found
      rw [lease?_startRealRequest, if_pos rfl, same]
      exact ⟨_, rfl, (congrArg LeaseIdentity.sessionId (reconciled_identity cfg.controller _ _ u)).trans session⟩

/-- In every run of the relay each lease has the targets of its last header count. -/
theorem relay_run_targets {cfg : ControllerConfig} {start r : Relay} {acts : List RelayAction} (initial : start.Initial)
    (run : Execution.exec (relayStep cfg) start acts = some r) (id : LeaseId) :
    ∀ t ∈ r.controller.world.lease? id,
      t.lease.activeTargets = (backgroundTargets (lastCount cfg start acts id)).toFinset := by
  intro t known
  obtain ⟨count, current, active⟩ := relay_run_synced initial run id
  rw [← targetsOf_eq known, active, ← current, currentTargets_eq_lastCount initial run]

/-- In every run of the plugin and the relay in which the agent leaves the correlation headers to the plugin, each lease
    has as many synthetic targets as its last request said. A request of the agent that is tracked, for a session that a
    header can name, gets a lease of this session, which the plugin took it for, with as many targets as the plugin has
    counted for it. -/
theorem plugin_counts_reach_leases (cfg : LinkConfig B) {start x : AgentRelay} {acts : List (AgentAction B)}
    (initial : start.relay.Initial) (run : Execution.exec (linkStep cfg) start acts = some x)
    (attaches : Execution.Along (linkStep cfg) (AgentRelay.Attaches cfg) start acts) :
    (∀ id, ∀ t ∈ x.relay.controller.world.lease? id,
        t.lease.activeTargets = (backgroundTargets (lastReported cfg start acts id)).toFinset) ∧
      ∀ json requestId wire, x.Attaches cfg (.request json requestId wire) → Visible (x.session cfg) →
        ∀ ctx ∈ x.tracked cfg (x.arriving cfg json requestId wire),
          ∃ after, linkStep cfg x (.request json requestId wire) = some after ∧
            ∃ t, after.relay.controller.world.lease? ctx.leaseId = some t ∧ t.lease.sessionId = x.session cfg ∧
              t.lease.activeTargets = (backgroundTargets (x.count cfg)).toFinset := by
  obtain ⟨told, ran, heard⟩ := relay_run_of_linkStep attaches run
  refine ⟨fun id t known => heard id ▸ relay_run_targets initial ran id t known, ?_⟩
  intro json requestId wire own visible ctx listed
  have moves : ∃ r, physicalStep cfg.controller cfg.prims cfg.text x.relay
      (.arrives (x.arriving cfg json requestId wire)) = some r := AgentRelay.physicalStep_arrives cfg x _
  obtain ⟨r, moved⟩ := moves
  rcases AgentRelay.arrives_cases cfg x _ moved with ⟨-, none⟩ | ⟨request, began, count, session, context⟩
  · rw [none] at listed
    cases listed
  · refine ⟨{ x with relay := r }, by rw [linkStep, moved, Option.map_some], ?_⟩
    rw [context] at listed
    have starts : x.relay.controller.onRequestStart cfg.controller request = (r.controller, some ctx) := by
      cases began
      exact Prod.ext rfl listed
    obtain ⟨t, known, served⟩ := sessionId_onRequestStart starts
    refine ⟨t, known, ?_, ?_⟩
    · rw [served, session, AgentRelay.sessionHeader_arriving own visible]
    · rw [relay_run_targets initial (Execution.exec_snoc ran began) ctx.leaseId t known, lastCount_snoc ran began,
        AgentRelay.headerCount_requestStart, listed, count, AgentRelay.targetsCount_arriving own]
      simp [Option.filter]

end Runs

/-! ### A parent with a child -/

/-- The headers of a request that are texts. -/
def textHeaders (headers : List (String × Json)) : List (String × String) :=
  headers.filterMap fun header =>
    match header.2 with
    | .str text => some (header.1, text)
    | _ => none

theorem getHeader_textHeaders (own : List (String × String)) {headers : List (String × Json)} {name text : String}
    (carried : getMember headers name = some (.str text))
    (sole : ∀ other ∈ memberKeys headers, other.toLower = name.toLower → other = name) :
    getHeader (textHeaders headers ++ own) name.toLower = some text := by
  induction headers with
  | nil => cases carried
  | cons header headers ih =>
      obtain ⟨key, value⟩ := header
      rw [getMember, List.lookup_cons] at carried
      by_cases same : key = name
      · subst same
        rw [beq_self_eq_true] at carried
        cases carried
        simp [getHeader, textHeaders]
      · have different : key.toLower ≠ name.toLower := fun lower => same (sole key List.mem_cons_self lower)
        rw [beq_false_of_ne (Ne.symm same)] at carried
        have later := ih carried fun other listed => sole other (List.mem_cons_of_mem _ listed)
        rw [← later]
        cases value <;> simp [getHeader, textHeaders, different]

/-- A transport that puts the headers of the request in front of those of the client. -/
def sampleTransport : Transport where
  deliver := fun own headers => textHeaders headers ++ own
  delivers := fun own _ _ _ _ carried _ sole => getHeader_textHeaders own carried sole

def sampleLinkConfig : LinkConfig (List (String × Json)) where
  setup := samplePluginSetup
  controller := sampleDryConfig
  prims := samplePrimitives
  text := sampleText
  transport := sampleTransport

/-- The session of the parent sends a request. -/
def sampleAgentRequest : AgentAction (List (String × Json)) :=
  .request bareRequest "r" (sampleCompletion "" "key")

/-- The parent starts a child. -/
def sampleDelegated : List (AgentAction (List (String × Json))) := [.callback (.subagentStart "parent" "child" "" 0)]

def sampleDelegatedRelay : AgentRelay := Execution.final (linkStep sampleLinkConfig) {} sampleDelegated

/-- The parent starts a child and sends a request, the child ends, and the scheduler evaluates the lease. -/
def sampleLinked : List (AgentAction (List (String × Json))) :=
  sampleDelegated ++ [sampleAgentRequest, .callback (.subagentStop "child"), .other (.scheduler (.tick 0))]

def sampleLinkedRelay : AgentRelay := Execution.final (linkStep sampleLinkConfig) {} sampleLinked

/-- With the request of the parent its lease gets the target that the plugin had counted, and keeps it when the child
    has ended. -/
theorem plugin_counts_reach_leases_sample :
    (∃ after id t, linkStep sampleLinkConfig sampleDelegatedRelay sampleAgentRequest = some after ∧
        after.relay.controller.world.lease? id = some t ∧ t.lease.sessionId = "parent" ∧
        t.lease.activeTargets = {"bg-1"}) ∧
      ∃ t, sampleLinkedRelay.relay.controller.world.lease? 0 = some t ∧ t.lease.activeTargets = {"bg-1"} := by
  constructor
  · have run : Execution.exec (linkStep sampleLinkConfig) {} sampleDelegated = some sampleDelegatedRelay :=
      Execution.exec_eq_final (by decide +kernel)
    have own : sampleDelegatedRelay.Attaches sampleLinkConfig sampleAgentRequest := by decide +kernel
    have counted : sampleDelegatedRelay.session sampleLinkConfig = "parent" ∧
        sampleDelegatedRelay.count sampleLinkConfig = 1 := by
      decide +kernel
    have visible : Visible (sampleDelegatedRelay.session sampleLinkConfig) := by decide +kernel
    have tracked : (sampleDelegatedRelay.tracked sampleLinkConfig (sampleDelegatedRelay.arriving sampleLinkConfig
        bareRequest "r" (sampleCompletion "" "key"))).isSome = true := by
      decide +kernel
    obtain ⟨ctx, tracked⟩ := Option.isSome_iff_exists.mp tracked
    obtain ⟨after, moved, t, known, served, targets⟩ := (plugin_counts_reach_leases sampleLinkConfig
      Relay.initial_empty run ⟨trivial, fun _ _ => trivial⟩).2 _ _ _ own visible ctx tracked
    rw [counted.1] at served
    rw [counted.2] at targets
    exact ⟨after, ctx.leaseId, t, moved, known, served, targets.trans (by decide)⟩
  · have run : Execution.exec (linkStep sampleLinkConfig) {} sampleLinked = some sampleLinkedRelay :=
      Execution.exec_eq_final (by decide +kernel)
    have attaches :
        Execution.Along (linkStep sampleLinkConfig) (AgentRelay.Attaches sampleLinkConfig) {} sampleLinked := by
      decide +kernel
    have said : lastReported sampleLinkConfig {} sampleLinked 0 = 1 := by decide +kernel
    have known : (sampleLinkedRelay.relay.controller.world.lease? 0).isSome = true := by decide +kernel
    obtain ⟨t, known⟩ := Option.isSome_iff_exists.mp known
    have targets := (plugin_counts_reach_leases sampleLinkConfig Relay.initial_empty run attaches).1 0 t known
    rw [said] at targets
    exact ⟨t, known, targets.trans (by decide)⟩

/-- A session id with a blank is not carried as it is. -/
example : Visible "parent" ∧ ¬ Visible "the parent" := by
  decide +kernel

end CachePilot
