/-
Module: CachePilot.Relay.Persistence
Layer: Relay
Purpose: The relay with the lease table that its controller writes. A request that starts or ends writes the row of
  its own lease; a tick writes rows when it has evaluated every lease, for the decisions that change durable fields.
  Writes succeed. Single leases are evaluated inside ticks only.
Trusted boundary: the reading of the controller's writes; all writes succeed
Main exports: persistOn, PersistedRelay, persist, completedTick, persistedStep
-/
import CachePilot.Core.Storage
import CachePilot.Relay.LeaseController

namespace CachePilot

/-- Decisions that change durable lease fields and so need the stored snapshot refreshed. -/
def persistOn : List LeaseDecision :=
  [.scheduled, .warmedConfirmedHit, .warmedMissRebuilt, .warmedUnverified, .warmedFailed]

/-- The relay and the lease table. -/
structure PersistedRelay where
  relay : Relay := {}
  store : LeaseTable := .empty

def PersistedRelay.world (r : PersistedRelay) : World := r.relay.controller.world

/-- Snapshot a tracked lease to the store. -/
def persist (prims : TextPrimitives) (w : World) (store : LeaseTable) (id : LeaseId) : LeaseTable :=
  match w.lease? id with
  | none => store
  | some t => (store.updateLease (leaseRowValues prims t.lease w.clock)).getD store

/-- The results of a task that has evaluated its whole queue. -/
def EvaluationTask.done? : EvaluationTask → Option (List (LeaseId × LeaseDecision))
  | ⟨[], .ready, results⟩ => some results
  | _ => none

/-- The task that a tick starts, or goes on in. -/
def Action.ticking? : Action → Option TaskId
  | .tick tid | .resume tid | .executeReturns tid _ => some tid
  | _ => none

/-- The results of the tick that the action has just completed. -/
def completedTick (a : Action) (w : World) : Option (List (LeaseId × LeaseDecision)) :=
  (a.ticking?.bind w.task?).bind EvaluationTask.done?

/-- The leases whose decisions changed durable fields. -/
def toPersist (results : List (LeaseId × LeaseDecision)) : List LeaseId :=
  (results.filter fun result => result.2 ∈ persistOn).map Prod.fst

/-- What a call of the controller writes when it completes: nothing for a request without a context or with a
    resolver that raised, and nothing while a tick goes on. -/
def storeAfter (cfg : ControllerConfig) (prims : TextPrimitives) (r : PersistedRelay) (relay : Relay) :
    RelayAction → LeaseTable
  | .requestStart request =>
      match (r.relay.controller.onRequestStart cfg request).2 with
      | some ctx => persist prims relay.controller.world r.store ctx.leaseId
      | none => r.store
  | .requestEnd ctx _ _ _ answer =>
      if cfg.enabled = true ∧ answer ≠ .raised then
        persist prims relay.controller.world r.store ctx.leaseId
      else r.store
  | .scheduler a =>
      match completedTick a relay.controller.world with
      | some results => (toPersist results).foldl (persist prims relay.controller.world) r.store
      | none => r.store

/-- The controller has no call that evaluates a single lease. -/
def RelayAction.evaluatesOne : RelayAction → Bool
  | .scheduler (.evaluateLease _ _) => true
  | _ => false

/-- One step of the relay and of the table. -/
def persistedStep (cfg : ControllerConfig) (prims : TextPrimitives) (r : PersistedRelay) (a : RelayAction) :
    Option PersistedRelay :=
  if a.evaluatesOne then none
  else (relayStep cfg r.relay a).map fun relay => { relay, store := storeAfter cfg prims r relay a }

/-- The step completes a call of the controller: a request has started or ended, or a tick is over. -/
def CompletesCall : RelayAction → PersistedRelay → Bool
  | .requestStart _, _ => true
  | .requestEnd _ _ _ _ _, _ => true
  | .scheduler a, after => (completedTick a after.world).isSome

end CachePilot
