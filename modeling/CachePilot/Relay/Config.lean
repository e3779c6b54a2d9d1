/-
Module: CachePilot.Relay.Config
Layer: Relay
Purpose: The relay settings read from environment variables and explicit arguments, which win over the environment.
  The addresses are validated: the upstream is an absolute URL, the listen address has a host and a port, and a
  wildcard host needs an override.
Trusted boundary: the reading of config.py; urlsplit and how texts read as numbers are parameters
Main exports: parseListen, RelayConfig, RelayConfig.validAddresses, RelayConfig.fromEnv
-/
import CachePilot.Core.Settings

namespace CachePilot

/-- Where the first occurrence of a character splits a text; the rest is empty when there is none. -/
def partitionAt (separator : Char) (text : List Char) : List Char × List Char :=
  let split := text.span (· ≠ separator)
  (split.1, split.2.tail)

/-- Where the last occurrence of a character splits a text; the front is empty when there is none. -/
def rpartitionAt (separator : Char) (text : List Char) : List Char × List Char :=
  let split := text.reverse.span (· ≠ separator)
  (split.2.tail.reverse, split.1.reverse)

/-- The host and the text of the port; a host in brackets ends at the closing one. -/
def listenParts : List Char → Option (List Char × List Char)
  | '[' :: text =>
      match partitionAt ']' text with
      | (host, ':' :: port) => some (host, port)
      | _ => none
  | text => some (rpartitionAt ':' text)

/-- Split a listen address into the host and the port. -/
def parseListen (rt : EnvRuntime) (value : String) : Option (String × ℤ) := do
  let (host, portText) ← listenParts (rt.strip value).toList
  if host = [] then none
  else if !rt.isDigit (String.ofList portText) then none
  else
    let port ← rt.parseInt (String.ofList portText)
    if 0 ≤ port ∧ port ≤ 65535 then some (String.ofList host, port) else none

/-- The hosts that are refused without an override. -/
def wildcardHosts : List String := ["0.0.0.0", "::"]

/-- The relay settings. -/
structure RelayConfig where
  listen : String
  upstream : String
  allowExternalBind : Bool
  telemetryDbPath : String
  observationEnabled : Bool
  routeIntelEnabled : Bool
  churnDetectionEnabled : Bool
  routeAffinityEnabled : Bool
  routeAffinityExtraCostUsd : JsonFloat
  routeAffinitySafetyMarginUsd : JsonFloat
  leaseSettings : EnvSettings
deriving DecidableEq

/-- A flag that is off unless it is a word for on. -/
def relayFlag (rt : EnvRuntime) (raw : Option String) : Bool :=
  match raw with
  | none => false
  | some raw => (rt.strip raw).toLower ∈ ["1", "true", "yes", "on"]

/-- A decimal variable, at least zero; the default when it does not read as one or does not compare. -/
def envDecimal (rt : EnvRuntime) (raw : Option String) (default : ℚ) : JsonFloat :=
  match raw with
  | none => .finite default
  | some raw =>
      match rt.parseDecimal (rt.strip raw) with
      | none => .finite default
      | some .nan => .finite default
      | some value => if value.below 0 then .finite 0 else value

/-- A text that is set and not empty. -/
def nonEmpty (text : Option String) : Option String := text.filter (· ≠ "")

namespace RelayConfig

def affinityBounds : FieldBounds := { minimum := 0 }

/-- The upstream is an absolute URL. -/
def validUpstream (rt : EnvRuntime) (upstream : String) : Bool :=
  match rt.urlsplit upstream with
  | none => false
  | some (scheme, netloc) => scheme ∈ ["http", "https"] && netloc ≠ ""

/-- The listen address has a host and a port, and binds a wildcard host only when that is allowed. -/
def validListen (rt : EnvRuntime) (allowExternalBind : Bool) (listen : String) : Bool :=
  match parseListen rt listen with
  | none => false
  | some (host, _) => !(host ∈ wildcardHosts && !allowExternalBind)

/-- The listen address that is in effect. -/
def effectiveListen (env : Environment) (listen : Option String) : String :=
  ((nonEmpty listen).or (nonEmpty (env "CACHEPILOT_RELAY_LISTEN"))).getD "127.0.0.1:8787"

/-- The upstream that is in effect. -/
def effectiveUpstream (env : Environment) (upstream : Option String) : Option String :=
  (nonEmpty upstream).or (nonEmpty (env "CACHEPILOT_UPSTREAM"))

/-- The override that is in effect. -/
def effectiveAllow (rt : EnvRuntime) (env : Environment) (allowExternalBind : Option Bool) : Bool :=
  allowExternalBind.getD (relayFlag rt (env "CACHEPILOT_RELAY_ALLOW_EXTERNAL_BIND"))

/-- The settings of an environment and explicit arguments; none when a helper or a check raises. -/
def fromEnv (rt : EnvRuntime) (env : Environment) (listen upstream : Option String)
    (allowExternalBind : Option Bool) : Option RelayConfig := do
  let listen := effectiveListen env listen
  let upstream ← effectiveUpstream env upstream
  let allowExternalBind := effectiveAllow rt env allowExternalBind
  let leaseSettings ← LeaseSettings.fromEnv rt env
  let extraCost ← decimalField affinityBounds (envDecimal rt (env "CACHEPILOT_ROUTE_AFFINITY_EXTRA_COST_USD") 0)
  let safetyMargin ←
    decimalField affinityBounds (envDecimal rt (env "CACHEPILOT_ROUTE_AFFINITY_SAFETY_MARGIN_USD") 0)
  if validUpstream rt upstream && validListen rt allowExternalBind listen then
    some {
      listen, upstream, allowExternalBind
      telemetryDbPath := (nonEmpty (env "CACHEPILOT_TELEMETRY_DB")).getD rt.defaultDbPath
      observationEnabled := relayFlag rt (some ((env "CACHEPILOT_RELAY_OBSERVATION_ENABLED").getD "true"))
      routeIntelEnabled := relayFlag rt (some ((env "CACHEPILOT_ROUTE_INTEL").getD "true"))
      churnDetectionEnabled := relayFlag rt (some ((env "CACHEPILOT_CHURN_DETECTION_ENABLED").getD "true"))
      routeAffinityEnabled := relayFlag rt (env "CACHEPILOT_ROUTE_AFFINITY")
      routeAffinityExtraCostUsd := extraCost
      routeAffinitySafetyMarginUsd := safetyMargin
      leaseSettings }
  else none

end RelayConfig

end CachePilot
