/-
Module: CachePilot.Proofs.ConversationWarms
Layer: Proofs
Purpose: How many warms a conversation can have when nothing ever verifies its cache. The circuit belongs to a
  lease, and the lease to one cache identity: an unverified turn never closes the circuit of its lease, so a
  lease has at most two executed warms. A turn that appends a message has another cache identity, and with it
  a new lease whose circuit is closed, so what bounds a session is the number of its cache identities.
Trusted boundary: none
Main exports: PhysicalAction.Unverified, executedWarm, executedWarms, cacheIdentities, run_warmsCounted,
  run_soleSession, warms_bounded_by_identities, Continues
-/
import Mathlib.Data.List.Chain
import CachePilot.Proofs.CircuitBreaker
import CachePilot.Proofs.Credentials

namespace CachePilot

/-! ### Executed warms -/

section Runs

variable {B : Type}

/-- The step verifies no cache touch: a request that ends is a success without telemetry, and a warm that
    returns is no confirmed hit. -/
def PhysicalAction.Unverified : PhysicalAction B → Prop
  | .requestEnd _ outcome _ _ _ => outcome = .successUnverified
  | .scheduler (.executeReturns _ answer) => answer.toWarmResult.outcome ≠ some .confirmedHit
  | _ => True

instance (a : PhysicalAction B) : Decidable a.Unverified := by
  unfold PhysicalAction.Unverified
  split <;> infer_instance

/-- The lease whose warm ends in this step with an outcome. -/
def executedWarm (r : Relay) : PhysicalAction B → Option LeaseId
  | .scheduler (.executeReturns tid answer) =>
      if answer.toWarmResult.outcome = none then none else r.controller.world.inFlight tid
  | _ => none

/-- The leases of the executed warms of a run, in order. -/
def executedWarms (cfg : ControllerConfig) (prims : TextPrimitives) (text : BodyText B) (start : Relay)
    (acts : List (PhysicalAction B)) : List LeaseId :=
  Execution.trace (physicalStep cfg prims text) executedWarm start acts

/-- The cache identities of the requests that the controller correlates, each once. -/
def cacheIdentities (cfg : ControllerConfig) (prims : TextPrimitives) (text : BodyText B)
    (requests : List (PhysicalRequest B)) : List String :=
  (requests.filterMap (PhysicalRequest.slot? cfg prims text)).dedup

end Runs

/-! ### The circuits over turns that verify nothing -/

theorem finishTargets_breaker (targets : List String) (t : TrackedLease) :
    (finishTargets targets t).breaker = t.breaker := by
  apply List.foldlRecOn targets (motive := fun u : TrackedLease => u.breaker = t.breaker)
  · rfl
  · intro u same x listed
    rw [TrackedLease.targetFinished_frame]
    exact same

theorem startTargets_breaker (targets : List String) (t : TrackedLease) :
    (startTargets targets t).breaker = t.breaker := by
  apply List.foldlRecOn targets (motive := fun u : TrackedLease => u.breaker = t.breaker)
  · rfl
  · intro u same x listed
    rw [TrackedLease.targetStarted_frame]
    exact same

theorem reconciled_breaker (cfg : ControllerConfig) (current : List String) (count : ℕ) (t : TrackedLease) :
    (reconciled cfg current count t).breaker = t.breaker := by
  unfold reconciled
  rw [startTargets_breaker, finishTargets_breaker]

/-- An operation on one lease that leaves its circuit as it is leaves every circuit as it is. -/
theorem breakerOf_kept {w w' : World} {id : LeaseId} {f : TrackedLease → TrackedLease}
    (lookup : ∀ j, w'.lease? j = if j = id then (w.lease? id).map f else w.lease? j)
    (kept : ∀ t, (f t).breaker = t.breaker) (j : LeaseId) : w'.breakerOf j = w.breakerOf j := by
  unfold World.breakerOf
  rw [lookup]
  split
  · rename_i own
    subst own
    cases w.lease? j with
    | none => rfl
    | some t => exact kept t
  · rfl

section Controller

variable {cfg : ControllerConfig} {c : LeaseController}

/-- A request that starts leaves every circuit as it is; a lease that it creates has a closed one. -/
theorem onRequestStart_breaker (request : StartRequest) (id : LeaseId) :
    (c.onRequestStart cfg request).1.world.breakerOf id = c.world.breakerOf id := by
  have registered : ∀ manager found,
      c.world.manager.findOrCreateLease cfg.manager request.identity none (1 / 2) request.answer =
        (manager, found) →
      World.breakerOf { c.world with manager } id = c.world.breakerOf id :=
    fun manager found called => step_breaker id (step_of_called called)
  have begun := onRequestStart_cases cfg c request
  generalize c.onRequestStart cfg request = result at begun
  cases begun with
  | untracked => rfl
  | raised called => exact registered _ _ called
  | @started manager j enabled called =>
      rw [← registered _ _ called]
      apply breakerOf_kept fun i =>
        lease?_startRealRequest cfg { c with world := { c.world with manager } } j i request
      intro t
      exact reconciled_breaker cfg _ _ t

theorem ended_breaker {cfg : ManagerConfig} (now : ℚ) (usage : Option TokenUsage) (routeHash : Option String)
    (answer : ResolverAnswer) (t : TrackedLease) :
    (ended cfg now .successUnverified usage routeHash answer t).breaker = t.breaker := by
  have kept : (t.afterNormalRequest now .successUnverified).breaker = t.breaker := by
    rcases TrackedLease.afterNormalRequest_cases now .successUnverified t with ⟨-, same⟩ | ⟨-, same⟩
    · rw [same]
      rfl
    · rw [same]
      rfl
  rw [← kept]
  unfold ended
  generalize t.afterNormalRequest now .successUnverified = u
  dsimp only
  rw [TrackedLease.refreshTtl_frame]
  cases routeHash with
  | none =>
      cases usage with
      | none => rfl
      | some usage =>
          dsimp only
          split
          · rw [TrackedLease.updateCostEstimates_frame]
            rfl
          · rfl
  | some hash =>
      cases usage with
      | none => rfl
      | some usage =>
          dsimp only
          split
          · rw [TrackedLease.updateCostEstimates_frame]
            rfl
          · rfl

/-- A request that ends as an unverified success leaves every circuit as it is. -/
theorem onRequestEnd_breaker (ctx : LeaseRequestContext) (usage : Option TokenUsage)
    (routeHash : Option String) (answer : ResolverAnswer) (id : LeaseId) :
    (c.onRequestEnd cfg ctx .successUnverified usage routeHash answer).world.breakerOf id =
      c.world.breakerOf id := by
  cases enabled : cfg.enabled with
  | false =>
      unfold LeaseController.onRequestEnd
      rw [enabled]
      rfl
  | true =>
      apply breakerOf_kept (onRequestEnd_frame cfg c ctx .successUnverified usage routeHash answer enabled).1
      intro t
      exact ended_breaker _ usage routeHash answer t

end Controller

section Conversation

variable {B : Type} {cfg : ControllerConfig} {prims : TextPrimitives} {text : BodyText B} {start r r' : Relay}
  {acts : List (PhysicalAction B)} {a : PhysicalAction B}

/-- Whoever is warmed in the step has a warm in flight. -/
theorem flying_of_executedWarm {id : LeaseId} (executed : executedWarm r a = some id) :
    ∃ tid answer, a = .scheduler (.executeReturns tid answer) ∧ answer.toWarmResult.outcome ≠ none ∧
      r.controller.world.inFlight tid = some id := by
  unfold executedWarm at executed
  split at executed
  · rename_i tid answer
    split at executed
    · cases executed
    · rename_i ran
      exact ⟨tid, answer, rfl, ran, executed⟩
  · cases executed

/-- A step that verifies nothing is a failure for the circuit of the lease whose warm it ends, and no signal for
    any other. -/
theorem physicalStep_breaker (id : LeaseId) (stepped : physicalStep cfg prims text r a = some r')
    (unverified : a.Unverified) :
    r'.controller.world.breakerOf id = observeCircuit (r.controller.world.breakerOf id)
      (if executedWarm r a = some id then some .failure else none) := by
  cases a with
  | arrives q =>
      rcases arrives_cases stepped with same | ⟨request, -, -, -, same⟩
      · rw [same]
        rfl
      · rw [same]
        exact onRequestStart_breaker request id
  | requestEnd ctx outcome usage routeHash answer =>
      have plain : outcome = .successUnverified := unverified
      subst plain
      rw [requestEnd_cases stepped]
      exact onRequestEnd_breaker ctx usage routeHash answer id
  | scheduler b =>
      obtain ⟨scheduled, moved⟩ := scheduler_cases stepped
      rw [step_breaker id moved]
      congr 1
      cases b with
      | executeReturns tid answer =>
          have missed : answer.toWarmResult.outcome ≠ some .confirmedHit := unverified
          rcases Option.eq_none_or_eq_some answer.toWarmResult.outcome with declined | ⟨outcome, ran⟩
          · simp [World.circuitSignal, executedWarm, declined]
          · rw [ran] at missed
            cases outcome with
            | confirmedHit => exact absurd rfl missed
            | _ => simp [World.circuitSignal, executedWarm, ran]
      | _ => first | rfl | cases scheduled

/-- The misses of every circuit are the executed warms of its lease, and there are at most two of them. -/
structure WarmsCounted (r : Relay) (executed : List LeaseId) : Prop where
  counted : ∀ id, (r.controller.world.breakerOf id).failures = executed.count id
  bounded : ∀ id, executed.count id ≤ 2

/-- The world of a run over physical requests is one that the event loop reaches. -/
theorem physical_run_reachable (initial : start.Initial)
    (run : Execution.exec (physicalStep cfg prims text) start acts = some r) :
    Reachable cfg.manager r.controller.world := by
  rw [exec_physicalStep] at run
  exact relay_run_reachable initial run

/-- A lease with a warm in flight has missed at most once. -/
theorem failures_of_flying (initial : start.Initial)
    (run : Execution.exec (physicalStep cfg prims text) start acts = some r) {tid : TaskId} {id : LeaseId}
    (flying : r.controller.world.inFlight tid = some id) :
    (r.controller.world.breakerOf id).failures ≤ 1 := by
  obtain ⟨origin, steps, empty, reached⟩ := physical_run_reachable initial run
  obtain ⟨closed, consistent⟩ := run_circuitConsistent empty reached
  cases known : r.controller.world.lease? id with
  | none =>
      unfold World.breakerOf
      rw [known]
      exact Nat.zero_le 1
  | some t =>
      have shut : (r.controller.world.breakerOf id).isOpen = false := by
        rw [breakerOf_eq known]
        exact closed tid id t flying known
      have below : ¬ 2 ≤ (r.controller.world.breakerOf id).failures := by
        intro reached
        rw [(consistent id).2 reached] at shut
        cases shut
      omega

theorem step_warmsCounted {executed : List LeaseId} (initial : start.Initial)
    (reached : Execution.exec (physicalStep cfg prims text) start acts = some r)
    (stepped : physicalStep cfg prims text r a = some r') (unverified : a.Unverified)
    (counts : WarmsCounted r executed) : WarmsCounted r' (executed ++ (executedWarm r a).toList) := by
  have counted : ∀ id, (r'.controller.world.breakerOf id).failures =
      (executed ++ (executedWarm r a).toList).count id := by
    intro id
    rw [physicalStep_breaker id stepped unverified, List.count_append, ← counts.counted id]
    by_cases own : executedWarm r a = some id
    · rw [if_pos own, own]
      simp [Breaker.observe]
    · rw [if_neg own, List.count_eq_zero_of_not_mem fun listed => own (Option.mem_toList.1 listed)]
      rfl
  refine ⟨counted, ?_⟩
  intro id
  rw [List.count_append]
  by_cases own : executedWarm r a = some id
  · obtain ⟨tid, answer, -, -, flying⟩ := flying_of_executedWarm own
    have once := failures_of_flying initial reached flying
    rw [counts.counted id] at once
    rw [own]
    simp only [Option.toList_some, List.count_singleton_self]
    omega
  · rw [List.count_eq_zero_of_not_mem fun listed => own (Option.mem_toList.1 listed)]
    exact counts.bounded id

/-- Over every run that verifies nothing the circuits count the executed warms. -/
theorem run_warmsCounted (initial : start.Initial) (unverified : ∀ a ∈ acts, a.Unverified)
    (run : Execution.exec (physicalStep cfg prims text) start acts = some r) :
    WarmsCounted r (executedWarms cfg prims text start acts) := by
  apply Execution.history_invariant
    (R := fun past u => WarmsCounted u (executedWarms cfg prims text start past)) _ _ run
  · constructor
    · intro id
      have absent : start.controller.world.lease? id = none := by
        rw [World.lease?, initial.1.1]
        rfl
      unfold World.breakerOf
      rw [absent]
      rfl
    · intro id
      exact Nat.zero_le 2
  · intro past b later u v split reached stepped counts
    have listed : b ∈ acts := by
      rw [split]
      simp
    have next := step_warmsCounted initial reached stepped (unverified b listed) counts
    rw [executedWarms, Execution.trace_snoc reached stepped]
    exact next

/-! ### One session -/

/-- All leases are of one session, the index holds each of them, and their cache identities are listed. -/
structure SoleSession (session : String) (identities : List String) (r : Relay) : Prop where
  indexed : r.controller.world.Indexed
  owned : ∀ id t, r.controller.world.lease? id = some t → t.lease.sessionId = session
  entry : ∀ id t, r.controller.world.lease? id = some t →
    r.controller.world.manager.byCacheFingerprint.get? t.lease.cacheFingerprint = some id
  listed : ∀ id t, r.controller.world.lease? id = some t → t.lease.cacheFingerprint ∈ identities

/-- What the start of a request does to the registry: nothing appears, or a fresh lease under the fingerprint that
    no lease of the session was found for. -/
theorem onRequestStart_registers (cfg : ControllerConfig) (c : LeaseController) (request : StartRequest) :
    let w' := (c.onRequestStart cfg request).1.world
    (w'.manager.byCacheFingerprint = c.world.manager.byCacheFingerprint ∧
        ∀ id, c.world.lease? id = none → w'.lease? id = none) ∨
      c.world.manager.findExisting request.identity = none ∧
        w'.manager.byCacheFingerprint =
          c.world.manager.byCacheFingerprint.set request.identity.cacheFingerprint c.world.manager.freshId ∧
        ∀ id, c.world.lease? id = none → w'.lease? id ≠ none → id = c.world.manager.freshId := by
  by_cases tracked : cfg.enabled = true ∧ request.identity.sessionId ≠ ""
  · cases existing : c.world.manager.findExisting request.identity with
    | some id =>
        rw [onRequestStart_reused tracked.1 tracked.2 existing]
        refine Or.inl ⟨index_startRealRequest cfg c id request, ?_⟩
        intro j absent
        rw [lease?_startRealRequest]
        split
        · rename_i own
          rw [← own, absent]
          rfl
        · exact absent
    | none =>
        cases resolved : LeaseManager.initialTtl cfg.manager none (1 / 2) request.answer with
        | none =>
            rw [onRequestStart_raised tracked.1 tracked.2 existing resolved]
            refine Or.inl ⟨rfl, ?_⟩
            intro j absent
            exact (lease?_switched request.identity j).trans (by rw [absent]; rfl)
        | some pair =>
            rw [onRequestStart_created tracked.1 tracked.2 existing resolved]
            refine Or.inr ⟨rfl, ?_, ?_⟩
            · rw [index_startRealRequest]
              change (c.world.manager.byCacheFingerprint.set _
                (c.world.manager.invalidateSuperseded request.identity).freshId) = _
              rw [freshId_invalidateSuperseded]
            · intro j absent appears
              by_contra old
              apply appears
              rw [lease?_startRealRequest, if_neg old]
              exact (lease?_created request.identity pair.1 pair.2 j).trans (by rw [if_neg old, absent]; rfl)
  · rw [onRequestStart_untracked tracked]
    exact Or.inl ⟨rfl, fun id absent => absent⟩

/-- In one session every lease that is found for its cache identity is reused, so no other lease has it. -/
theorem SoleSession.entry_arrives {session : String} {identities : List String} {request : StartRequest}
    (sole : SoleSession session identities r) (own : request.identity.sessionId = session)
    (same : r'.controller = (r.controller.onRequestStart cfg request).1) {id : LeaseId} {t : TrackedLease}
    (known : r'.controller.world.lease? id = some t) :
    r'.controller.world.manager.byCacheFingerprint.get? t.lease.cacheFingerprint = some id := by
  have reaches := onRequestStart_reaches cfg r.controller request
  have registers := onRequestStart_registers cfg r.controller request
  rw [← same] at reaches registers
  have kept : ∀ x, r.controller.world.lease? id = some x →
      r.controller.world.manager.byCacheFingerprint.get? t.lease.cacheFingerprint = some id := by
    intro x before
    obtain ⟨t', known', -, -, fingerprint⟩ := reaches.sameLease before
    rw [known] at known'
    cases known'
    rw [fingerprint]
    exact sole.entry id x before
  rcases registers with ⟨index, absent⟩ | ⟨missing, index, fresh⟩
  · rw [index]
    cases before : r.controller.world.lease? id with
    | some x => exact kept x before
    | none =>
        rw [absent id before] at known
        cases known
  · rw [index, Dict.get?_set]
    cases before : r.controller.world.lease? id with
    | some x =>
        have other : t.lease.cacheFingerprint ≠ request.identity.cacheFingerprint := by
          intro fingerprint
          have found : r.controller.world.manager.findExisting request.identity = some id :=
            findExisting_eq_some_iff.2 ⟨fingerprint ▸ kept x before, x, before, (sole.owned id x before).trans own.symm⟩
          rw [missing] at found
          cases found
        rw [if_neg other]
        exact kept x before
    | none =>
        have new : (r.controller.onRequestStart cfg request).1.world.lease? id = some t := by
          rw [← same]
          exact known
        rw [if_pos (congrArg LeaseIdentity.cacheFingerprint (onRequestStart_creates before new)),
          fresh id before (by rw [known]; simp)]

/-- The index changes only when a request arrives. -/
theorem index_physicalStep (stepped : physicalStep cfg prims text r a = some r')
    (quiet : ∀ q, a ≠ .arrives q) :
    r'.controller.world.manager.byCacheFingerprint = r.controller.world.manager.byCacheFingerprint := by
  cases a with
  | arrives q => exact absurd rfl (quiet q)
  | requestEnd ctx outcome usage routeHash answer =>
      rw [requestEnd_cases stepped]
      cases enabled : cfg.enabled with
      | false =>
          unfold LeaseController.onRequestEnd
          rw [enabled]
          rfl
      | true => exact (onRequestEnd_frame cfg r.controller ctx outcome usage routeHash answer enabled).2.1
  | scheduler b =>
      obtain ⟨scheduled, moved⟩ := scheduler_cases stepped
      exact step_index moved scheduled

/-- A step of the session keeps to the session. -/
theorem step_soleSession {session : String} {identities : List String}
    (stepped : physicalStep cfg prims text r a = some r')
    (own : ∀ q, a = .arrives q → q.sessionHeader = session ∧
      ∀ fp ∈ q.slot? cfg prims text, fp ∈ identities)
    (sole : SoleSession session identities r) : SoleSession session identities r' := by
  have reaches := physicalStep_reaches stepped
  have stays : ∀ id x t, r.controller.world.lease? id = some x → r'.controller.world.lease? id = some t →
      SameLease x t := by
    intro id x t before known
    obtain ⟨t', known', same⟩ := reaches.sameLease before
    rw [known] at known'
    cases known'
    exact same
  refine ⟨reaches.indexed sole.indexed, ?_, ?_, ?_⟩
  · intro id t known
    cases before : r.controller.world.lease? id with
    | some x => exact (stays id x t before known).session.trans (sole.owned id x before)
    | none =>
        obtain ⟨q, arrived, created, -⟩ := physicalStep_creates stepped before known
        exact created.trans (own q arrived).1
  · intro id t known
    have quietly : (∀ q, a ≠ .arrives q) →
        r'.controller.world.manager.byCacheFingerprint.get? t.lease.cacheFingerprint = some id := by
      intro quiet
      rw [index_physicalStep stepped quiet]
      cases before : r.controller.world.lease? id with
      | some x =>
          rw [(stays id x t before known).fingerprint]
          exact sole.entry id x before
      | none =>
          obtain ⟨q, arrived, -⟩ := physicalStep_creates stepped before known
          exact absurd arrived (quiet q)
    cases a with
    | arrives q =>
        rcases arrives_cases stepped with same | ⟨request, -, session, -, same⟩
        · rw [same] at known ⊢
          exact sole.entry id t known
        · exact sole.entry_arrives (session.trans (own q rfl).1) same known
    | requestEnd ctx outcome usage routeHash answer =>
        apply quietly
        intro q arrived
        cases arrived
    | scheduler b =>
        apply quietly
        intro q arrived
        cases arrived
  · intro id t known
    cases before : r.controller.world.lease? id with
    | some x =>
        rw [(stays id x t before known).fingerprint]
        exact sole.listed id x before
    | none =>
        obtain ⟨q, arrived, -, slot⟩ := physicalStep_creates stepped before known
        exact (own q arrived).2 _ slot

/-- In a run whose requests are all of one session, the registry holds one lease for each cache identity. -/
theorem run_soleSession {session : String} (initial : start.Initial)
    (own : ∀ q ∈ requestsOf acts, q.sessionHeader = session)
    (run : Execution.exec (physicalStep cfg prims text) start acts = some r) :
    SoleSession session (cacheIdentities cfg prims text (requestsOf acts)) r := by
  apply Execution.history_invariant
    (R := fun _ u => SoleSession session (cacheIdentities cfg prims text (requestsOf acts)) u) _ _ run
  · have untracked : ∀ id, start.controller.world.lease? id = none := by
      intro id
      rw [World.lease?, initial.1.1]
      rfl
    refine ⟨?_, ?_, ?_, ?_⟩
    · intro fp id found
      rw [initial.1.1] at found
      cases found
    all_goals
      intro id t known
      rw [untracked id] at known
      cases known
  · intro past b later u v split reached stepped sole
    apply step_soleSession stepped _ sole
    rintro q rfl
    have listed : q ∈ requestsOf acts := by
      rw [split, requestsOf_append]
      exact List.mem_append_right _ (by simp [requestsOf])
    refine ⟨own q listed, ?_⟩
    intro fp slot
    exact List.mem_dedup.2 (List.mem_filterMap.2 ⟨q, listed, slot⟩)

/-! ### The bound -/

/-- The cache identity of a tracked lease. -/
def World.identityOf (w : World) (id : LeaseId) : Option String :=
  (w.lease? id).map fun t => t.lease.cacheFingerprint

/-- A list whose members are all in another one, each at most `n` times, has at most `n` members for each entry of
    the other. -/
theorem length_le_of_count_le {α : Type} [BEq α] [LawfulBEq α] {xs ys : List α} {n : ℕ}
    (listed : ∀ x ∈ xs, x ∈ ys) (bounded : ∀ x, xs.count x ≤ n) : xs.length ≤ n * ys.length := by
  induction ys generalizing xs with
  | nil =>
      cases xs with
      | nil => exact Nat.zero_le _
      | cons x xs => exact absurd (listed x List.mem_cons_self) List.not_mem_nil
  | cons y ys ih =>
      have others : (xs.filter fun x => !(x == y)).length ≤ n * ys.length := by
        apply ih
        · intro x member
          obtain ⟨inside, other⟩ := List.mem_filter.1 member
          exact (List.mem_cons.1 (listed x inside)).resolve_left (by simpa using other)
        · intro x
          exact (List.filter_sublist.count_le x).trans (bounded x)
      have split := List.length_eq_countP_add_countP (· == y) (l := xs)
      calc xs.length = xs.count y + (xs.filter fun x => !(x == y)).length := by
            rw [split, List.count, ← List.countP_eq_length_filter]
            simp
        _ ≤ n + n * ys.length := Nat.add_le_add (bounded y) others
        _ = n * (y :: ys).length := by rw [List.length_cons, Nat.mul_succ, Nat.add_comm]

/-- A lease whose warm was executed is tracked. -/
theorem WarmsCounted.tracked {executed : List LeaseId} (counts : WarmsCounted r executed) {id : LeaseId}
    (listed : id ∈ executed) : ∃ t, r.controller.world.lease? id = some t := by
  have some := List.count_pos_iff.2 listed
  rw [← counts.counted id] at some
  cases known : r.controller.world.lease? id with
  | some t => exact ⟨t, rfl⟩
  | none =>
      unfold World.breakerOf at some
      rw [known] at some
      cases some

/-- In one session the warms of a cache identity are those of one lease. -/
theorem SoleSession.count_identity {session : String} {identities : List String} {executed : List LeaseId}
    (sole : SoleSession session identities r) (counts : WarmsCounted r executed) (fp : String) :
    (executed.map r.controller.world.identityOf).count (some fp) ≤ 2 := by
  rw [List.count, List.countP_map]
  cases entry : r.controller.world.manager.byCacheFingerprint.get? fp with
  | none =>
      have none : ∀ id ∈ executed, ¬ ((· == some fp) ∘ r.controller.world.identityOf) id := by
        intro id listed same
        obtain ⟨t, known⟩ := counts.tracked listed
        have found := sole.entry id t known
        simp only [Function.comp_apply, World.identityOf, known, Option.map_some, beq_iff_eq,
          Option.some.injEq] at same
        rw [same, entry] at found
        cases found
      rw [List.countP_eq_zero.2 none]
      exact Nat.zero_le 2
  | some j =>
      refine le_trans (List.countP_mono_left ?_) (counts.bounded j)
      intro id listed same
      obtain ⟨t, known⟩ := counts.tracked listed
      have found := sole.entry id t known
      simp only [Function.comp_apply, World.identityOf, known, Option.map_some, beq_iff_eq,
        Option.some.injEq] at same
      rw [same, entry] at found
      cases found
      exact beq_self_eq_true j

/-- In every run from an empty relay in which no request and no warm verifies a cache touch, at most two warms are
    executed for a lease, the second of them with no other in flight. When all requests are of one session, at most
    two are executed for a cache identity, so at most twice as many as the session has cache identities. -/
theorem warms_bounded_by_identities (initial : start.Initial) (unverified : ∀ a ∈ acts, a.Unverified)
    (run : Execution.exec (physicalStep cfg prims text) start acts = some r) :
    (∀ id, (executedWarms cfg prims text start acts).count id ≤ 2) ∧
      (∀ tid id, r.controller.world.inFlight tid = some id →
        (executedWarms cfg prims text start acts).count id ≤ 1) ∧
      ∀ session, (∀ q ∈ requestsOf acts, q.sessionHeader = session) →
        (∀ fp, ((executedWarms cfg prims text start acts).map r.controller.world.identityOf).count
          (some fp) ≤ 2) ∧
        (executedWarms cfg prims text start acts).length ≤
          2 * (cacheIdentities cfg prims text (requestsOf acts)).length := by
  have counts := run_warmsCounted initial unverified run
  refine ⟨counts.bounded, ?_, ?_⟩
  · intro tid id flying
    rw [← counts.counted id]
    exact failures_of_flying initial run flying
  · intro session own
    have sole := run_soleSession initial own run
    have each := sole.count_identity counts
    refine ⟨each, ?_⟩
    have listed : ∀ identity ∈ (executedWarms cfg prims text start acts).map r.controller.world.identityOf,
        identity ∈ (cacheIdentities cfg prims text (requestsOf acts)).map some := by
      intro identity member
      obtain ⟨id, executed, rfl⟩ := List.mem_map.1 member
      obtain ⟨t, known⟩ := counts.tracked executed
      rw [World.identityOf, known]
      exact List.mem_map.2 ⟨_, sole.listed id t known, rfl⟩
    have bounded : ∀ identity,
        ((executedWarms cfg prims text start acts).map r.controller.world.identityOf).count identity ≤ 2 := by
      intro identity
      cases identity with
      | some fp => exact each fp
      | none =>
          have absent : none ∉
              (executedWarms cfg prims text start acts).map r.controller.world.identityOf := by
            intro member
            obtain ⟨fp, -, same⟩ := List.mem_map.1 (listed none member)
            cases same
          rw [List.count_eq_zero_of_not_mem absent]
          exact Nat.zero_le 2
    have total := length_le_of_count_le listed bounded
    rw [List.length_map, List.length_map] at total
    exact total

end Conversation

/-! ### A conversation of two turns -/

/-- The next request of a conversation: the same session, URL and headers, and the same body except that messages
    were appended to the list. -/
def Continues {B : Type} (text : BodyText B) (q q' : PhysicalRequest B) : Prop :=
  q'.sessionHeader = q.sessionHeader ∧ q'.path = q.path ∧ q'.upstreamUrl = q.upstreamUrl ∧
    q'.headers = q.headers ∧
    ∃ members ∈ jsonOrNone text q.body, ∃ members' ∈ jsonOrNone text q'.body, ∃ messages more,
      getMember members "messages" = some (.arr messages) ∧
      getMember members' "messages" = some (.arr (messages ++ more)) ∧
      ∀ name, name ≠ "messages" → getMember members' name = getMember members name

/-- A chat message. -/
def sampleMessage (role content : String) : Json := .obj [("role", .str role), ("content", .str content)]

/-- The task of a session. -/
def sampleTask : List Json := [sampleMessage "user" "a"]

/-- The task, its answer and the next one. -/
def sampleFollowUp : List Json := sampleTask ++ [sampleMessage "assistant" "b", sampleMessage "user" "c"]

/-- A turn of the session, with one background target. -/
def sampleTurn (messages : List Json) : PhysicalRequest (List (String × Json)) where
  body := [("model", .str "m"), ("max_tokens", .int 100), ("messages", .arr messages)]
  path := "/v1/chat/completions"
  upstreamUrl := "https://upstream/v1/chat/completions"
  sessionHeader := "s"
  targetsCount := 1

theorem sampleTurn_named {promptKey : String} (named : promptKey ≠ "") :
    ∀ name ∈ ["upstream", "m", "https://upstream/v1/chat/completions", "relay-default", promptKey,
      sampleEmptyHash, sampleEmptyHash], name ≠ "" := by
  have others : ∀ name ∈ ["upstream", "m", "https://upstream/v1/chat/completions", "relay-default",
      sampleEmptyHash], name ≠ "" := by
    decide +kernel
  intro name listed
  by_cases key : name = promptKey
  · rw [key]
    exact named
  · apply others name
    simp only [List.mem_cons, List.not_mem_nil, or_false] at listed ⊢
    tauto

/-- The canonical request of a turn, by the digest of its messages. -/
def sampleTurnContent (promptKey : String) (named : promptKey ≠ "") : CanonicalRequest :=
  { sampleContent with promptKey, named := sampleTurn_named named }

/-- The digest of the messages of the first turn. -/
def sampleTaskKey : String := "5168bd634e48454dad7ce9e90c521bba8b23340bd1b1b4f735486e46964a996a"

/-- The digest of the messages of the second turn. -/
def sampleFollowUpKey : String := "b8db1b4cab425406add44e9a4bac481db63554a9388ecaf8cd6ff0109f42e48a"

theorem sampleTaskKey_ne : sampleTaskKey ≠ "" := by decide

theorem sampleFollowUpKey_ne : sampleFollowUpKey ≠ "" := by decide

/-- What the controller starts with for a turn, its cache fingerprint written out. -/
def sampleTurnRead (messages : List Json) (content : CanonicalRequest) (cacheFingerprint : String) :
    StartRequest where
  identity := { leaseIdentity samplePrimitives "s" content with cacheFingerprint }
  targetsCount := 1
  body := some [("model", .str "m"), ("max_tokens", .int 100), ("messages", .arr messages)]
  upstreamUrl := "https://upstream/v1/chat/completions"

theorem read_sampleTurn {messages : List Json} {content : CanonicalRequest} {fp : String}
    (canonical : (sampleTurn messages).canonical samplePrimitives sampleText = some content)
    (fingerprint : cacheFingerprint samplePrimitives content = fp) :
    (PhysicalAction.arrives (sampleTurn messages)).read samplePrimitives sampleText =
      some (.requestStart (sampleTurnRead messages content fp)) := by
  unfold PhysicalAction.read PhysicalRequest.startRequest
  dsimp only
  rw [canonical, ← fingerprint]
  rfl

/-- The first turn, as the controller starts with it. -/
def sampleTaskRead : StartRequest :=
  sampleTurnRead sampleTask (sampleTurnContent sampleTaskKey sampleTaskKey_ne)
    "78cf0fe1279cf4a5f39af3a72e03b65d9f8cee2354a406e7ee72457c0cd7ec75"

/-- The second turn, as the controller starts with it. -/
def sampleFollowUpRead : StartRequest :=
  sampleTurnRead sampleFollowUp (sampleTurnContent sampleFollowUpKey sampleFollowUpKey_ne)
    "8ee29ebbfaa2399c3cb84d6a578a17252168f9f8a59d973c54542ac053eb603b"

theorem read_sampleTask :
    (PhysicalAction.arrives (sampleTurn sampleTask)).read samplePrimitives sampleText =
      some (.requestStart sampleTaskRead) := by
  apply read_sampleTurn
  · decide +kernel
  · change samplePrimitives.sha256 _ = _
    rw [sha256_canonicalJson]
    decide +kernel

theorem read_sampleFollowUp :
    (PhysicalAction.arrives (sampleTurn sampleFollowUp)).read samplePrimitives sampleText =
      some (.requestStart sampleFollowUpRead) := by
  apply read_sampleTurn
  · decide +kernel
  · change samplePrimitives.sha256 _ = _
    rw [sha256_canonicalJson]
    decide +kernel

/-- A warm of a due lease that verifies nothing. -/
def sampleMissedWarm (tid : TaskId) (id : LeaseId) : List Action :=
  [.evaluateLease tid id, .resume tid,
    .executeReturns tid (.returned { outcome := some .successUnverified })]

/-- The end of a turn, streamed. -/
def sampleStreamed {B : Type} (id : LeaseId) : PhysicalAction B :=
  .requestEnd { leaseId := id, targetsCount := 1 } .successUnverified none none .noResolver

/-- The lease of the first turn is warmed twice, and that of the second one once. -/
def sampleConversation : List (PhysicalAction (List (String × Json))) :=
  [.arrives (sampleTurn sampleTask), sampleStreamed 0] ++
    (.setClock 1000 :: sampleMissedWarm 0 0 ++ sampleMissedWarm 1 0).map .scheduler ++
    [.arrives (sampleTurn sampleFollowUp), sampleStreamed 1] ++
    (.setClock 2000 :: sampleMissedWarm 2 1).map .scheduler

/-- What the controller does then. -/
def sampleConversationRead : List RelayAction :=
  [.requestStart sampleTaskRead,
      .requestEnd { leaseId := 0, targetsCount := 1 } .successUnverified none none .noResolver] ++
    (.setClock 1000 :: sampleMissedWarm 0 0 ++ sampleMissedWarm 1 0).map .scheduler ++
    [.requestStart sampleFollowUpRead,
      .requestEnd { leaseId := 1, targetsCount := 1 } .successUnverified none none .noResolver] ++
    (.setClock 2000 :: sampleMissedWarm 2 1).map .scheduler

theorem exec_sampleConversation :
    Execution.exec (physicalStep sampleRelayConfig samplePrimitives sampleText) {} sampleConversation =
      some (sampleRelayAt sampleConversationRead) := by
  have read : sampleConversation.filterMap (PhysicalAction.read samplePrimitives sampleText) =
      sampleConversationRead := by
    unfold sampleConversation sampleConversationRead sampleMissedWarm
    simp only [List.map_cons, List.map_nil, List.cons_append, List.nil_append, List.filterMap_cons,
      read_sampleTask, read_sampleFollowUp]
    rfl
  rw [exec_physicalStep, read]
  exact exec_sampleRelayAt (by decide +kernel)

theorem requestsOf_sampleConversation :
    requestsOf sampleConversation = [sampleTurn sampleTask, sampleTurn sampleFollowUp] := rfl

theorem unverified_sampleConversation : ∀ a ∈ sampleConversation, a.Unverified := by
  decide +kernel

theorem continues_sampleFollowUp : Continues sampleText (sampleTurn sampleTask) (sampleTurn sampleFollowUp) := by
  refine ⟨rfl, rfl, rfl, rfl, _, rfl, _, rfl, sampleTask, _, rfl, rfl, ?_⟩
  intro name other
  have last : (name == "messages") = false := beq_eq_false_iff_ne.2 other
  simp only [sampleTurn, getMember, List.lookup_cons, last]

/-- The circuits of the two leases at the end of the conversation. -/
theorem failures_sampleConversation :
    ((sampleRelayAt sampleConversationRead).controller.world.breakerOf 0).failures = 2 ∧
      ((sampleRelayAt sampleConversationRead).controller.world.breakerOf 1).failures = 1 := by
  decide +kernel

/-- The bound is reached by the first lease of the conversation. -/
theorem warms_bounded_by_identities_sample :
    (executedWarms sampleRelayConfig samplePrimitives sampleText {} sampleConversation).count 0 = 2 ∧
      (executedWarms sampleRelayConfig samplePrimitives sampleText {} sampleConversation).length ≤
        2 * (cacheIdentities sampleRelayConfig samplePrimitives sampleText
          (requestsOf sampleConversation)).length := by
  have counts := run_warmsCounted Relay.initial_empty unverified_sampleConversation exec_sampleConversation
  refine ⟨?_, ((warms_bounded_by_identities Relay.initial_empty unverified_sampleConversation
    exec_sampleConversation).2.2 "s" ?_).2⟩
  · rw [← counts.counted 0]
    exact failures_sampleConversation.1
  · intro q listed
    rw [requestsOf_sampleConversation] at listed
    rcases List.mem_pair.1 listed with rfl | rfl
    · rfl
    · rfl

/-- Two different values take up different places of a list. -/
theorem count_add_count_le {α : Type} [DecidableEq α] {a b : α} (differ : a ≠ b) (xs : List α) :
    xs.count a + xs.count b ≤ xs.length := by
  induction xs with
  | nil => exact Nat.le_refl 0
  | cons x xs ih =>
      rw [List.count_cons, List.count_cons, List.length_cons]
      by_cases first : x = a
      · subst first
        simp [differ]
        omega
      · simp only [beq_iff_eq, first, if_false]
        split <;> omega

/-- A conversation in which one message list continues the other and nothing is ever verified has three executed
    warms: the second turn has another cache identity, and the circuit of its lease is closed. -/
theorem appended_turn_warms_again :
    (requestsOf sampleConversation).IsChain (Continues sampleText) ∧
      (∀ a ∈ sampleConversation, a.Unverified) ∧
      (Execution.exec (physicalStep sampleRelayConfig samplePrimitives sampleText) {}
        sampleConversation).isSome = true ∧
      2 < (executedWarms sampleRelayConfig samplePrimitives sampleText {} sampleConversation).length := by
  have counts := run_warmsCounted Relay.initial_empty unverified_sampleConversation exec_sampleConversation
  have first := counts.counted 0
  have second := counts.counted 1
  rw [failures_sampleConversation.1] at first
  rw [failures_sampleConversation.2] at second
  refine ⟨?_, unverified_sampleConversation, ?_, ?_⟩
  · rw [requestsOf_sampleConversation]
    exact List.isChain_pair.2 continues_sampleFollowUp
  · rw [exec_sampleConversation, Option.isSome_some]
  · have both := count_add_count_le (show (0 : LeaseId) ≠ 1 by decide)
      (executedWarms sampleRelayConfig samplePrimitives sampleText {} sampleConversation)
    rw [← first, ← second] at both
    exact both

end CachePilot
