/-
Module: CachePilot.Proofs.SessionAttribution
Layer: Proofs
Purpose: The sessions that requests are attributed to when the hooks of a parent and of its child agents come in
  any order. The plugin has one published session id: a request carries the id of the session whose callback
  published last, with the count of that session's targets. Requests are attributed to their issuers in every
  order in which that session is the issuer.
Trusted boundary: none
Main exports: SessionCallback, lastPublished, ownTargets, KeepsAttribution, Attributed, requests_attributed
-/
import CachePilot.Hermes.LlmMiddleware
import CachePilot.Lib.Execution

namespace CachePilot

/-- The plugin as it is set up: its settings, the text primitives, the digest of a turn id and the id of the
    process. -/
structure PluginSetup where
  prims : CommandPrimitives
  settings : LongTasksSettings := {}
  correlationHeaders : Bool := true
  computeTurnId : String → String → String := fun sessionId requestId => sessionId ++ ":" ++ requestId
  processSessionId : String := ""

/-- A callback of the plugin. Hooks carry the session id of their payload; the middleware is called without one,
    for the session that issues the request. -/
inductive SessionCallback where
  | onSessionStart (sessionId : String)
  | onSessionReset (sessionId : String)
  | postToolCall (sessionId toolName : String) (args : Json)
  | subagentStart (parentSessionId childSessionId childSubagentId : String) (now : ℚ)
  | subagentStop (childSessionId : String)
  | toolRequest (issuer toolName : String) (args : Json)
      (learned : String → Option CommandDurationStats) (now : ℚ)
  | llmRequest (issuer : String) (request : Json) (requestId : String)

/-- One callback. -/
def sessionStep (cfg : PluginSetup) (p : HermesPlugin) : SessionCallback → HermesPlugin
  | .onSessionStart sessionId => p.onSessionStart sessionId
  | .onSessionReset sessionId => p.onSessionReset sessionId
  | .postToolCall sessionId toolName args => p.postToolCall cfg.prims cfg.settings toolName args sessionId
  | .subagentStart parentSessionId childSessionId childSubagentId now =>
      p.subagentStart cfg.settings parentSessionId childSessionId childSubagentId now
  | .subagentStop childSessionId => p.subagentStop cfg.settings childSessionId
  | .toolRequest _ toolName args learned now =>
      (p.toolRequest cfg.prims cfg.settings learned cfg.processSessionId toolName args now).1
  | .llmRequest _ _ _ => p

/-- The plugin after a sequence of callbacks. -/
def pluginAfter (cfg : PluginSetup) (callbacks : List SessionCallback) : HermesPlugin :=
  callbacks.foldl (sessionStep cfg) HermesPlugin.start

/-! ### What the callbacks say -/

/-- The session id that a callback publishes; empty for none. -/
def SessionCallback.publishes : SessionCallback → String
  | .onSessionStart sessionId => sessionId
  | .onSessionReset sessionId => sessionId
  | .postToolCall sessionId _ _ => sessionId
  | .subagentStart parentSessionId _ _ _ => parentSessionId
  | .subagentStop _ => ""
  | .toolRequest _ _ _ _ _ => ""
  | .llmRequest _ _ _ => ""

/-- The session whose callback published last. -/
def lastPublished (callbacks : List SessionCallback) : Option String :=
  ((callbacks.map SessionCallback.publishes).filter (· ≠ "")).getLast?

/-- The session that the plugin takes the next request for: the last one that published, else the process. -/
def servedSession (cfg : PluginSetup) (callbacks : List SessionCallback) : String :=
  (lastPublished callbacks).getD cfg.processSessionId

/-- One callback on the targets of the sessions themselves: a promoted command counts for the session that issued
    the call, everything else is as in the plugin. A target is active while its reference count in the registry is
    positive, so a process id that two runs share counts as ended once the other run has released it. -/
def ownTargetsStep (cfg : PluginSetup) (registry : BackgroundTargetRegistry) :
    SessionCallback → BackgroundTargetRegistry
  | .toolRequest issuer toolName args learned now =>
      (toolRequest cfg.prims cfg.settings learned registry toolName args issuer now).1
  | callback => (sessionStep cfg { targets := registry } callback).targets

/-- The targets of the sessions after a sequence of callbacks. -/
def ownTargets (cfg : PluginSetup) (callbacks : List SessionCallback) : BackgroundTargetRegistry :=
  callbacks.foldl (ownTargetsStep cfg) ∅

/-- The middleware promotes a call; neither the registry nor the session has a part in this. -/
def promotes (cfg : PluginSetup) (learned : String → Option CommandDurationStats) (toolName : String)
    (args : Json) : Bool :=
  (toolRequest cfg.prims cfg.settings learned ∅ toolName args "" 0).2.isSome

/-! ### Attribution -/

/-- A request carries the id of its issuer and the count of the issuer's own targets. -/
def Attributed (cfg : PluginSetup) (past : List SessionCallback) : SessionCallback → Prop
  | .llmRequest issuer request requestId =>
      let sent := effectiveRequest request ((pluginAfter cfg past).llmRequest cfg.computeTurnId
        cfg.correlationHeaders cfg.processSessionId request requestId)
      carriedHeader sent correlationHeaderSession = some (.str issuer) ∧
        carriedHeader sent correlationHeaderTargets =
          some (.str (toString (BackgroundTargetRegistry.activeCount (ownTargets cfg past) (some issuer))))
  | _ => True

/-- The session that published last issues each request and each promoted call, and the requests leave the
    session headers to the plugin. -/
def KeepsAttribution (cfg : PluginSetup) (past : List SessionCallback) : SessionCallback → Prop
  | .toolRequest issuer toolName args learned _ =>
      promotes cfg learned toolName args = true → servedSession cfg past = issuer
  | .llmRequest issuer request _ =>
      attachable cfg.correlationHeaders request = true ∧ servedSession cfg past = issuer
  | _ => True

instance (cfg : PluginSetup) (past : List SessionCallback) :
    DecidablePred (KeepsAttribution cfg past)
  | .toolRequest issuer toolName args learned _ =>
      inferInstanceAs (Decidable
        (promotes cfg learned toolName args = true → servedSession cfg past = issuer))
  | .llmRequest issuer request _ =>
      inferInstanceAs (Decidable
        (attachable cfg.correlationHeaders request = true ∧ servedSession cfg past = issuer))
  | .onSessionStart _ => .isTrue trivial
  | .onSessionReset _ => .isTrue trivial
  | .postToolCall _ _ _ => .isTrue trivial
  | .subagentStart _ _ _ _ => .isTrue trivial
  | .subagentStop _ => .isTrue trivial

/-- The session that published last issues each request that leaves the session headers to the plugin. -/
def ServesIssuer (cfg : PluginSetup) (past : List SessionCallback) : SessionCallback → Prop
  | .llmRequest issuer request _ =>
      attachable cfg.correlationHeaders request = true → servedSession cfg past = issuer
  | _ => True

/-! ### The published session -/

section Published

variable {cfg : PluginSetup} {past : List SessionCallback} {callback : SessionCallback}

theorem pluginAfter_snoc :
    pluginAfter cfg (past ++ [callback]) = sessionStep cfg (pluginAfter cfg past) callback := by
  simp [pluginAfter]

theorem ownTargets_snoc :
    ownTargets cfg (past ++ [callback]) = ownTargetsStep cfg (ownTargets cfg past) callback := by
  simp [ownTargets]

theorem lastPublished_snoc :
    lastPublished (past ++ [callback]) =
      if callback.publishes = "" then lastPublished past else some callback.publishes := by
  unfold lastPublished
  by_cases silent : callback.publishes = ""
  · simp [silent]
  · simp [silent]

theorem sessionId_publishSessionId (p : HermesPlugin) (sessionId : String) :
    (p.publishSessionId sessionId).sessionId = if sessionId = "" then p.sessionId else some sessionId := by
  unfold HermesPlugin.publishSessionId
  split <;> rfl

/-- A callback changes the session id to what it publishes, and by nothing else. -/
theorem sessionId_sessionStep (p : HermesPlugin) :
    (sessionStep cfg p callback).sessionId =
      if callback.publishes = "" then p.sessionId else some callback.publishes := by
  cases callback with
  | onSessionStart sessionId => exact sessionId_publishSessionId p sessionId
  | onSessionReset sessionId => exact sessionId_publishSessionId p sessionId
  | postToolCall sessionId toolName args =>
      rw [← sessionId_publishSessionId p]
      simp only [sessionStep, HermesPlugin.postToolCall]
      split
      · split <;> rfl
      · rfl
  | subagentStart parentSessionId childSessionId childSubagentId now =>
      rw [← sessionId_publishSessionId p]
      simp only [sessionStep, HermesPlugin.subagentStart]
      split
      · rfl
      · split <;> rfl
  | subagentStop childSessionId =>
      simp only [sessionStep, HermesPlugin.subagentStop]
      split
      · rfl
      · split <;> rfl
  | toolRequest issuer toolName args learned now => rfl
  | llmRequest issuer request requestId => rfl

/-- The plugin's session is the one whose callback published last. -/
theorem sessionId_pluginAfter (cfg : PluginSetup) (past : List SessionCallback) :
    (pluginAfter cfg past).sessionId = lastPublished past := by
  induction past using List.reverseRecOn with
  | nil => rfl
  | append_singleton past callback ih =>
      rw [pluginAfter_snoc, sessionId_sessionStep, lastPublished_snoc, ih]

theorem currentSessionId_pluginAfter (cfg : PluginSetup) (past : List SessionCallback) :
    (pluginAfter cfg past).currentSessionId cfg.processSessionId = servedSession cfg past := by
  rw [HermesPlugin.currentSessionId, sessionId_pluginAfter, servedSession]

end Published

/-! ### The targets -/

section Targets

variable {cfg : PluginSetup} {past : List SessionCallback}

/-- A call that is not promoted registers nothing. -/
theorem toolRequest_of_not_promotes {learned : String → Option CommandDurationStats}
    {toolName : String} {args : Json} (passed : ¬ promotes cfg learned toolName args = true)
    (registry : BackgroundTargetRegistry) (sessionId : String) (now : ℚ) :
    (toolRequest cfg.prims cfg.settings learned registry toolName args sessionId now).1 = registry := by
  unfold promotes toolRequest at passed
  unfold toolRequest
  split
  · rfl
  · rename_i candidate
    rw [if_neg candidate] at passed
    cases args with
    | obj members =>
        dsimp only at passed ⊢
        split
        · rename_i reason long
          rw [long] at passed
          exact absurd rfl passed
        · rfl
    | _ => rfl

/-- A callback other than a misattributed promotion does to the plugin's targets what it does to the targets of
    the sessions. -/
theorem targets_sessionStep {callback : SessionCallback} (kept : KeepsAttribution cfg past callback) :
    (sessionStep cfg (pluginAfter cfg past) callback).targets =
      ownTargetsStep cfg (pluginAfter cfg past).targets callback := by
  cases callback with
  | onSessionStart sessionId => simp [sessionStep, ownTargetsStep, HermesPlugin.onSessionStart]
  | onSessionReset sessionId => simp [sessionStep, ownTargetsStep, HermesPlugin.onSessionReset]
  | postToolCall sessionId toolName args =>
      simp only [sessionStep, ownTargetsStep, HermesPlugin.targets_postToolCall]
  | subagentStart parentSessionId childSessionId childSubagentId now =>
      simp only [sessionStep, ownTargetsStep, HermesPlugin.subagentStart]
      cases cfg.settings.enabled with
      | false => simp
      | true =>
          by_cases unnamed : HermesPlugin.subagentTargetId childSessionId childSubagentId = ""
          · simp [unnamed]
          · simp [unnamed]
  | subagentStop childSessionId =>
      simp only [sessionStep, ownTargetsStep, HermesPlugin.subagentStop]
      cases cfg.settings.enabled with
      | false => rfl
      | true =>
          by_cases unnamed : childSessionId = ""
          · simp [unnamed]
          · simp [unnamed]
  | toolRequest issuer toolName args learned now =>
      simp only [sessionStep, ownTargetsStep, HermesPlugin.toolRequest, currentSessionId_pluginAfter]
      by_cases promoted : promotes cfg learned toolName args = true
      · rw [kept promoted]
      · rw [toolRequest_of_not_promotes promoted, toolRequest_of_not_promotes promoted]
  | llmRequest issuer request requestId => rfl

/-- While attribution is kept, the plugin holds the targets of the sessions. -/
theorem targets_pluginAfter (kept : Execution.AtEach (KeepsAttribution cfg) [] past) :
    (pluginAfter cfg past).targets = ownTargets cfg past := by
  induction past using List.reverseRecOn with
  | nil => rfl
  | append_singleton past callback ih =>
      obtain ⟨before, last⟩ := Execution.atEach_snoc.1 kept
      rw [List.nil_append] at last
      rw [pluginAfter_snoc, targets_sessionStep last, ih before, ownTargets_snoc]

end Targets

/-! ### The requests -/

/-- What a request carries when it leaves the session headers to the plugin. -/
theorem carried_of_attachable {cfg : PluginSetup} {request : Json}
    (free : attachable cfg.correlationHeaders request = true) (past : List SessionCallback)
    (requestId : String) :
    let sent := effectiveRequest request ((pluginAfter cfg past).llmRequest cfg.computeTurnId
      cfg.correlationHeaders cfg.processSessionId request requestId)
    carriedHeader sent correlationHeaderSession = some (.str (servedSession cfg past)) ∧
      carriedHeader sent correlationHeaderTargets =
        some (.str (toString (BackgroundTargetRegistry.activeCount (pluginAfter cfg past).targets
          (some (servedSession cfg past))))) := by
  have carried := carriedHeader_llmRequest free (pluginAfter cfg past) cfg.computeTurnId
    cfg.processSessionId requestId
  rwa [currentSessionId_pluginAfter] at carried

/-- Each request carries the id of its issuer and the count of the issuer's own targets when each request and each
    promoted call comes from the session that published last. A request that carries its issuer's id is issued
    by the session that published last. -/
theorem requests_attributed (cfg : PluginSetup) (callbacks : List SessionCallback) :
    (Execution.AtEach (KeepsAttribution cfg) [] callbacks →
        Execution.AtEach (Attributed cfg) [] callbacks) ∧
      (Execution.AtEach (Attributed cfg) [] callbacks →
        Execution.AtEach (ServesIssuer cfg) [] callbacks) := by
  constructor
  · intro kept
    rw [Execution.atEach_iff]
    intro past callback within
    obtain ⟨rest, rfl⟩ := within
    have through : Execution.AtEach (KeepsAttribution cfg) [] (past ++ [callback]) :=
      Execution.atEach_iff.2 fun before c prior =>
        Execution.atEach_iff.1 kept before c (prior.trans (List.prefix_append _ _))
    obtain ⟨earlier, last⟩ := Execution.atEach_snoc.1 through
    rw [List.nil_append] at last
    cases callback with
    | llmRequest issuer request requestId =>
        obtain ⟨free, served⟩ := last
        have carried := carried_of_attachable free past requestId
        rwa [targets_pluginAfter earlier, served] at carried
    | _ => trivial
  · intro attributed
    rw [Execution.atEach_iff] at attributed ⊢
    intro past callback within
    have here := attributed past callback within
    cases callback with
    | llmRequest issuer request requestId =>
        intro free
        have carried := (carried_of_attachable free past requestId).1
        rw [here.1] at carried
        cases carried
        rfl
    | _ => trivial

/-! ### A child in the process of its parent -/

def samplePluginSetup : PluginSetup := { prims := sampleCommandPrimitives }

/-- A request without headers of its own. -/
def bareRequest : Json := .obj [("model", .str "m"), ("headers", .obj [])]

/-- The parent starts a child, the child completes a tool call, and the parent completes one of its own before it
    issues its request. -/
theorem requests_attributed_sample :
    Execution.AtEach (Attributed samplePluginSetup) []
      [.subagentStart "parent" "child" "" 0, .postToolCall "child" "read_file" (.obj []),
        .postToolCall "parent" "delegate" (.obj []), .llmRequest "parent" bareRequest "r"] :=
  (requests_attributed samplePluginSetup _).1 (by decide +kernel)

/-- Without the parent's own callback its request carries the id of the child, and counts none of the parent's
    targets. -/
theorem child_callback_takes_attribution :
    let callbacks : List SessionCallback :=
      [.subagentStart "parent" "child" "" 0, .postToolCall "child" "read_file" (.obj [])]
    let sent := effectiveRequest bareRequest ((pluginAfter samplePluginSetup callbacks).llmRequest
      samplePluginSetup.computeTurnId true "" bareRequest "r")
    carriedHeader sent correlationHeaderSession = some (.str "child") ∧
      carriedHeader sent correlationHeaderTargets = some (.str "0") ∧
      BackgroundTargetRegistry.activeCount (ownTargets samplePluginSetup callbacks) (some "parent") = 1 ∧
      ¬ Execution.AtEach (Attributed samplePluginSetup) []
        (callbacks ++ [.llmRequest "parent" bareRequest "r"]) := by
  intro callbacks sent
  have free : attachable samplePluginSetup.correlationHeaders bareRequest = true := by decide +kernel
  have carried := carried_of_attachable free callbacks "r"
  have served : servedSession samplePluginSetup callbacks = "child" := by decide +kernel
  have none : BackgroundTargetRegistry.activeCount (pluginAfter samplePluginSetup callbacks).targets
      (some "child") = 0 := by decide +kernel
  rw [served, none] at carried
  refine ⟨carried.1, carried.2, by decide +kernel, ?_⟩
  intro attributed
  have last := (Execution.atEach_snoc.1 attributed).2
  have own : carriedHeader sent correlationHeaderSession = some (.str "parent") := last.1
  have same : some (Json.str "child") = some (Json.str "parent") := carried.1.symm.trans own
  simp at same

end CachePilot
