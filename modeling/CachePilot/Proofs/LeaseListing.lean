/-
Module: CachePilot.Proofs.LeaseListing
Layer: Proofs
Purpose: Which leases the command line lists. It filters the newest rows, so a live lease is listed exactly when its
  row is one of them; rows of finished leases are never pruned and can stand before it.
Trusted boundary: none
Main exports: liveLeases, ListsEveryLive, listLeases_limit, front_listsEveryLive_iff, cmd_leases_lists_live_iff,
  live_lease_not_listed
-/
import CachePilot.Cli.Leases
import CachePilot.Proofs.StoreRoundTrip

namespace CachePilot

open Execution SqlTable

variable (cli : CliTexts) (texts : StorageTexts) (now : StoredLeaseRow → ℚ)

/-- The stored rows of leases that are not finished. -/
def liveLeases (stored : List StoredLeaseRow) : List StoredLeaseRow :=
  stored.filter fun lease => !isTerminal cli lease

/-- The lines list every live lease once and no other one; without a live lease they say so. -/
def ListsEveryLive (stored : List StoredLeaseRow) (lines : List String) : Prop :=
  ∃ listed, listed.Perm (liveLeases cli stored) ∧ lines = leaseListing cli now listed

/-- A listing has a line for each lease and a heading; without a lease it has one line. -/
theorem length_leaseListing (leases : List StoredLeaseRow) :
    (leaseListing cli now leases).length = if leases = [] then 1 else leases.length + 1 := by
  unfold leaseListing
  split
  · rfl
  · rw [List.length_cons, List.length_map]

/-- Listings of the same length list as many leases. -/
theorem length_eq_of_leaseListing {leases leases' : List StoredLeaseRow}
    (same : leaseListing cli now leases = leaseListing cli now leases') : leases.length = leases'.length := by
  have lengths := congrArg List.length same
  rw [length_leaseListing, length_leaseListing] at lengths
  cases leases with
  | nil =>
      cases leases' with
      | nil => rfl
      | cons lease rest => simp at lengths
  | cons lease rest =>
      cases leases' with
      | nil => simp at lengths
      | cons lease' rest' => simpa using lengths

/-- The newest rows are the front of all rows. -/
theorem listLeases_limit {store : TelemetryStore} {stored : List StoredLeaseRow}
    (readable : store.listLeases texts (-1) = some stored) (limit : ℕ) :
    store.listLeases texts limit = some (stored.take limit) := by
  have all : store.leases.newest (-1) = store.leases.rows.reverse :=
    limited_of_covers (Or.inl (by decide))
  have front : store.leases.newest limit = store.leases.rows.reverse.take limit := by
    rw [newest, limited, if_neg (by omega), Int.toNat_natCast]
  rw [TelemetryStore.listLeases, all] at readable
  rw [TelemetryStore.listLeases, front]
  exact mapM_take readable limit

/-- What the command prints are the live leases among the newest rows. -/
theorem cmdLeases_printed {store : TelemetryStore} {stored : List StoredLeaseRow}
    (readable : store.listLeases texts (-1) = some stored) :
    cmdLeases cli texts (some store) false now =
      some (leaseListing cli now (liveLeases cli (stored.take leaseListLimit))) := by
  rw [cmdLeases, listLeases_limit texts readable]
  rfl

/-- The live leases among the newest rows are all of them exactly when none stands behind these rows. -/
theorem front_listsEveryLive_iff (stored : List StoredLeaseRow) (limit : ℕ) :
    ListsEveryLive cli now stored (leaseListing cli now (liveLeases cli (stored.take limit))) ↔
      ∀ lease ∈ stored.drop limit, isTerminal cli lease = true := by
  have split : liveLeases cli stored = liveLeases cli (stored.take limit) ++ liveLeases cli (stored.drop limit) := by
    rw [liveLeases, liveLeases, liveLeases, ← List.filter_append, List.take_append_drop]
  have behind : liveLeases cli (stored.drop limit) = [] ↔
      ∀ lease ∈ stored.drop limit, isTerminal cli lease = true := by
    rw [liveLeases, List.filter_eq_nil_iff]
    simp only [Bool.not_eq_true', Bool.not_eq_false]
  rw [← behind]
  constructor
  · rintro ⟨listed, perm, written⟩
    have lengths := (length_eq_of_leaseListing cli now written).trans perm.length_eq
    rw [split, List.length_append] at lengths
    exact List.eq_nil_of_length_eq_zero (by omega)
  · intro nothing
    refine ⟨_, ?_, rfl⟩
    rw [split, nothing, List.append_nil]

/-- The lines list every live lease exactly when none of them stands behind the newest rows. -/
theorem cmd_leases_lists_live_iff {store : TelemetryStore} {stored : List StoredLeaseRow}
    (readable : store.listLeases texts (-1) = some stored) :
    (∃ lines, cmdLeases cli texts (some store) false now = some lines ∧ ListsEveryLive cli now stored lines) ↔
      ∀ lease ∈ stored.drop leaseListLimit, isTerminal cli lease = true := by
  rw [← front_listsEveryLive_iff cli now stored leaseListLimit, cmdLeases_printed cli texts now readable]
  constructor
  · rintro ⟨lines, shown, lists⟩
    cases shown
    exact lists
  · intro lists
    exact ⟨_, rfl, lists⟩

/-! ### A store with history -/

/-- The forms of a text that has lower-case letters only. -/
def sampleCliTexts : CliTexts where
  lower := id
  upper := String.map Char.toUpper

/-- A lease of the sample history. -/
def historyLease (n : ℕ) (state : LeaseState) : LeaseSnapshot where
  sessionId := "s"
  provider := "p"
  model := "m"
  apiMode := "chat"
  baseUrl := "u"
  authScopeHash := "a"
  routeFingerprint := none
  requestFingerprint := "r"
  cacheFingerprint := "c"
  systemFingerprint := "y"
  toolsFingerprint := "t"
  historyPrefixFingerprint := "h"
  leaseId := String.ofList (List.replicate n 'x')
  lastRealRequestAt := 0
  estimatedTtlS := 300
  ttlConfidence := 1 / 2
  state := state

/-- A lease that is armed, and then so many that are finished. -/
def finishedBehindArmed (count : ℕ) : List StoreWrite :=
  .lease (historyLease 0 .armed) sampleTime ::
    (List.range count).map fun n => .lease (historyLease (n + 1) .inactive) sampleTime

/-- The states of the rows after this history, newest first. -/
theorem listLeases_history {count : ℕ} {store : TelemetryStore}
    (run : Execution.exec (storeWrite sampleStorageTexts) {} (finishedBehindArmed count) = some store)
    (distinct : KeyedLog.latest leaseKey ((finishedBehindArmed count).filterMap StoreWrite.lease?) =
      (finishedBehindArmed count).filterMap StoreWrite.lease?) :
    ∃ stored, store.listLeases sampleStorageTexts (-1) = some stored ∧
      stored.map (fun lease => lease.state) =
        List.replicate count "inactive" ++ ["armed"] := by
  have read := (holding_exec run).readsBack.leases (-1)
  rw [distinct, limited_of_covers (Or.inl (by decide))] at read
  obtain ⟨stored, found, records⟩ := Option.map_eq_some_iff.mp read
  refine ⟨stored, found, ?_⟩
  have states := congrArg (List.map LeaseRecord.state) records
  rw [List.map_map, List.map_map] at states
  have written : ((finishedBehindArmed count).filterMap StoreWrite.lease?).reverse.map
      (LeaseRecord.state ∘ fun entry => entry.1.record sampleStorageTexts.prims entry.2) =
        List.replicate count "inactive" ++ ["armed"] := by
    simp [finishedBehindArmed, Function.comp_def, StoreWrite.lease?, LeaseSnapshot.record, historyLease,
      LeaseState.value]
  exact states.trans written

/-- With little history the live lease is listed. -/
theorem cmd_leases_short_history : ∃ store stored,
    Execution.exec (storeWrite sampleStorageTexts) {} (finishedBehindArmed 1) = some store ∧
      store.listLeases sampleStorageTexts (-1) = some stored ∧
      ∃ lines, cmdLeases sampleCliTexts sampleStorageTexts (some store) false (fun _ => 0) = some lines ∧
        ListsEveryLive sampleCliTexts (fun _ => 0) stored lines := by
  obtain ⟨store, run⟩ := Option.isSome_iff_exists.mp
    (exec_isSome sampleStorageTexts {} (finishedBehindArmed 1))
  obtain ⟨stored, readable, states⟩ := listLeases_history run (by decide +kernel)
  have few : stored.length ≤ leaseListLimit := by
    rw [← List.length_map (f := fun lease => lease.state), states]
    decide
  refine ⟨store, stored, run, readable,
    (cmd_leases_lists_live_iff sampleCliTexts sampleStorageTexts (fun _ => 0) readable).mpr ?_⟩
  rw [List.drop_of_length_le few]
  exact fun lease listed => absurd listed List.not_mem_nil

/-- Fifty finished leases hide the armed one. -/
theorem live_lease_not_listed : ∃ store stored,
    Execution.exec (storeWrite sampleStorageTexts) {} (finishedBehindArmed 50) = some store ∧
      store.listLeases sampleStorageTexts (-1) = some stored ∧
      ¬∃ lines, cmdLeases sampleCliTexts sampleStorageTexts (some store) false (fun _ => 0) = some lines ∧
        ListsEveryLive sampleCliTexts (fun _ => 0) stored lines := by
  obtain ⟨store, run⟩ := Option.isSome_iff_exists.mp
    (exec_isSome sampleStorageTexts {} (finishedBehindArmed 50))
  obtain ⟨stored, readable, states⟩ := listLeases_history run (by decide +kernel)
  have behind : (stored.drop leaseListLimit).map (fun lease => lease.state) = ["armed"] := by
    rw [List.map_drop, states]
    decide
  refine ⟨store, stored, run, readable, ?_⟩
  rintro ⟨lines, shown, lists⟩
  rw [cmdLeases_printed _ _ _ readable] at shown
  cases shown
  have finished := (front_listsEveryLive_iff sampleCliTexts (fun _ => 0) stored leaseListLimit).mp lists
  have armed : "armed" ∈ (stored.drop leaseListLimit).map fun lease => lease.state := by
    rw [behind]
    exact List.mem_singleton_self _
  obtain ⟨lease, listed, state⟩ := List.mem_map.mp armed
  have terminal := finished lease listed
  rw [isTerminal, state] at terminal
  exact absurd terminal (by decide)

end CachePilot
