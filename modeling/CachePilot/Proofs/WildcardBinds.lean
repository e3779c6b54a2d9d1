/-
Module: CachePilot.Proofs.WildcardBinds
Layer: Proofs
Purpose: Which hosts of the unspecified address the relay refuses to bind. Two spellings are compared with; every other
  spelling of the same address passes, and these are told by their digits.
Trusted boundary: none
Main exports: Unspecified, otherZeroSpelling, unspecified_iff, WildcardRefused, wildcard_bind_refused_iff
-/
import CachePilot.Lib.InetText
import CachePilot.Proofs.EnvironmentSettings

namespace CachePilot

open InetText

/-- The groups are all zero, or map the IPv4 address zero. -/
def UnspecifiedGroups (groups : List ℕ) : Prop :=
  groups = List.replicate 8 0 ∨ groups = [0, 0, 0, 0, 0, 65535, 0, 0]

/-- The host denotes the unspecified address: its reading is all zero. -/
def Unspecified (host : String) : Prop :=
  inetAton host.toList = some 0 ∨ ∃ groups, inetPton6 host.toList = some groups ∧ UnspecifiedGroups groups

/-- The host is one of the two spellings that are refused. -/
def refusedSpelling (host : String) : Bool := host ∈ wildcardHosts

/-- Zeros in short, octal or hexadecimal IPv4 form, or in IPv6 form, in another spelling than the refused ones. -/
def otherZeroSpelling (host : String) : Bool :=
  !refusedSpelling host &&
    (zeroIpv4Text host.toList || (zeroIpv6Text host.toList || mappedZeroText host.toList))

/-- The unspecified address is told by the digits of the host. -/
theorem unspecified_iff (host : String) :
    Unspecified host ↔
      (zeroIpv4Text host.toList || (zeroIpv6Text host.toList || mappedZeroText host.toList)) = true := by
  rw [Unspecified, Bool.or_eq_true, Bool.or_eq_true, inetAton_eq_zero_iff, ← inetPton6_eq_zero_iff,
    ← inetPton6_eq_mapped_iff]
  refine or_congr_right ⟨?_, ?_⟩
  · rintro ⟨groups, read, rfl | rfl⟩
    · exact .inl read
    · exact .inr read
  · rintro (read | read)
    · exact ⟨_, read, .inl rfl⟩
    · exact ⟨_, read, .inr rfl⟩

/-- A listen address that is accepted without the override does not name the unspecified address. -/
def WildcardRefused (rt : EnvRuntime) (listen : String) : Prop :=
  RelayConfig.validListen rt false listen = true →
    ∀ parsed ∈ parseListen rt listen, ¬Unspecified parsed.1

/-- Without the override an address is accepted when it parses and its host is no refused spelling. -/
theorem validListen_iff (rt : EnvRuntime) (listen : String) :
    RelayConfig.validListen rt false listen = true ↔
      ∃ parsed ∈ parseListen rt listen, refusedSpelling parsed.1 = false := by
  unfold RelayConfig.validListen refusedSpelling
  cases parseListen rt listen with
  | none => simp
  | some parsed => simp

/-- The unspecified address is refused exactly when the host is no other spelling of zeros. -/
theorem wildcard_bind_refused_iff (rt : EnvRuntime) (listen : String) :
    WildcardRefused rt listen ↔ ∀ parsed ∈ parseListen rt listen, otherZeroSpelling parsed.1 = false := by
  constructor
  · intro refused parsed known
    rw [otherZeroSpelling, Bool.and_eq_false_iff, Bool.not_eq_false']
    cases spelled : refusedSpelling parsed.1 with
    | true => exact .inl rfl
    | false =>
        have accepted := (validListen_iff rt listen).mpr ⟨parsed, known, spelled⟩
        have other := refused accepted parsed known
        rw [unspecified_iff, Bool.not_eq_true] at other
        exact .inr other
  · intro plain accepted parsed known unspecified
    obtain ⟨found, known', spelled⟩ := (validListen_iff rt listen).mp accepted
    obtain rfl := Option.mem_unique known known'
    have none := plain parsed known
    rw [otherZeroSpelling, spelled, (unspecified_iff parsed.1).mp unspecified] at none
    cases none

/-- The short form of the unspecified IPv4 address is accepted. -/
theorem short_zero_accepted : ¬ ∀ (rt : EnvRuntime) (listen : String), WildcardRefused rt listen := by
  intro refused
  have parsed : parseListen sampleRuntime "0:8787" = some ("0", 8787) := by decide +kernel
  exact refused sampleRuntime "0:8787" (by decide +kernel) ("0", 8787) parsed (.inl (by decide +kernel))

end CachePilot
