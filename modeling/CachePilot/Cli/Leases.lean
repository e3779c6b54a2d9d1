/-
Module: CachePilot.Cli.Leases
Layer: Cli
Purpose: The lease listing of the command line. The most recent rows of the lease table are read, and those of
  finished leases are left out unless all are asked for. The lower-case and upper-case forms of a text are
  parameters, and so is the clock, which is read for each line.
Trusted boundary: the reading of cmd_leases; letter case and the clock are parameters
Main exports: CliTexts, terminalLeaseStates, isTerminal, leaseLine, leaseListing, cmdLeases
-/
import CachePilot.Core.TelemetryStore
import Mathlib.Data.Rat.Floor

namespace CachePilot

/-- The lower-case and the upper-case form of a text. -/
structure CliTexts where
  lower : String → String
  upper : String → String

/-- Terminal lease states: the lease is finished, and its row is retained. -/
def terminalLeaseStates : List String := ["inactive", "invalidated"]

/-- The lease of a row is finished. -/
def isTerminal (cli : CliTexts) (lease : StoredLeaseRow) : Bool :=
  terminalLeaseStates.contains (cli.lower lease.state)

/-- The integer part of a number. -/
def integerPart (value : ℚ) : ℤ := if 0 ≤ value then ⌊value⌋ else ⌈value⌉

/-- A text with blanks behind it, up to a width. -/
def padRight (width : ℕ) (text : String) : String :=
  String.ofList (text.toList ++ List.replicate (width - text.length) ' ')

/-- Cache age: the time since the last cache touch. -/
def leaseAge (now : ℚ) (lease : StoredLeaseRow) : String :=
  match lease.lastCacheTouchAt with
  | none => "n/a"
  | some touched => toString (max 0 (integerPart (now - touched))) ++ "s"

def leaseTtl (lease : StoredLeaseRow) : String := toString (integerPart lease.estimatedTtlS) ++ "s"

/-- The heading of the listing. -/
def leaseHeading : String :=
  padRight 10 "LEASE" ++ " " ++ padRight 9 "TARGETS" ++ " " ++ padRight 11 "CACHE AGE" ++ " " ++
    padRight 8 "TTL" ++ " STATE"

/-- The line of a lease. -/
def leaseLine (cli : CliTexts) (now : ℚ) (lease : StoredLeaseRow) : String :=
  padRight 10 (String.ofList (lease.leaseId.toList.take 8)) ++ " " ++
    padRight 9 (toString lease.activeTargets.length) ++ " " ++ padRight 11 (leaseAge now lease) ++ " " ++
    padRight 8 (leaseTtl lease) ++ " " ++ cli.upper lease.state

/-- What is printed of these rows. -/
def leaseListing (cli : CliTexts) (now : StoredLeaseRow → ℚ) (leases : List StoredLeaseRow) : List String :=
  if leases = [] then ["no active leases"]
  else leaseHeading :: leases.map fun lease => leaseLine cli (now lease) lease

/-- The number of rows that the listing reads. -/
def leaseListLimit : ℕ := 50

/-- List leases from the telemetry store, if there is one; without `all` only those that are not finished. -/
def cmdLeases (cli : CliTexts) (texts : StorageTexts) (store : Option TelemetryStore) (all : Bool)
    (now : StoredLeaseRow → ℚ) : Option (List String) :=
  match store with
  | none => some ["no active leases"]
  | some store =>
      (store.listLeases texts leaseListLimit).map fun leases =>
        leaseListing cli now (if all then leases else leases.filter fun lease => !isTerminal cli lease)

end CachePilot
