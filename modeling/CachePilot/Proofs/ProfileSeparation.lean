/-
Module: CachePilot.Proofs.ProfileSeparation
Layer: Proofs
Purpose: The key of a route names one route. The provider holds no bar, and neither do the API mode and the two hashes
  behind the model, so a key is taken apart from both ends and what is left in the middle is the model, whatever it
  holds. An absent route and an empty one are the same. Profiles of different routes therefore never share a row.
Trusted boundary: none
Main exports: RouteContext.SameRoute, RouteKey, RouteKey.profileKey_eq_iff, KeyedWrite, lastOfRoute,
  profile_keys_separate
-/
import Mathlib.Data.List.Find
import CachePilot.Proofs.EndpointIdentity
import CachePilot.Proofs.StoreRoundTrip

namespace CachePilot

open KeyedLog

/-! ### Keys -/

/-- The route of two contexts is the same; an absent route hash is an empty one. -/
def RouteContext.SameRoute (a b : RouteContext) : Prop :=
  a.provider = b.provider ∧ a.model = b.model ∧ a.apiMode = b.apiMode ∧ a.endpointHash = b.endpointHash ∧
    a.routeHash.getD "" = b.routeHash.getD ""

instance (a b : RouteContext) : Decidable (a.SameRoute b) := inferInstanceAs (Decidable (_ ∧ _))

/-- The key of a context. -/
def RouteContext.profileKey (context : RouteContext) : String :=
  joinKey context.provider context.model context.apiMode context.endpointHash context.routeHash

/-- A text of hexadecimal digits. -/
def hexText (text : String) : Bool := text.toList.all (· ∈ "0123456789abcdefABCDEF".toList)

/-- A route as the relay names it. The model is any text. -/
structure RouteKey extends RouteContext where
  provider_plain : '|' ∉ provider.toList
  apiMode_known : ∃ mode : ApiMode, apiMode = mode.value
  endpointHash_hex : hexText endpointHash = true
  routeHash_hex : ∀ hash ∈ routeHash, hexText hash = true

/-- The part behind the last bar of a text, and the text in front of it. -/
theorem append_bar_inj {front front' part part' : List Char} (plain : '|' ∉ part) (plain' : '|' ∉ part')
    (same : front ++ '|' :: part = front' ++ '|' :: part') : front = front' ∧ part = part' := by
  have parts : part = part' := by
    rw [← afterLast_append_cons front plain, same, afterLast_append_cons front' plain']
  subst parts
  exact ⟨List.append_cancel_right same, rfl⟩

theorem hexText_plain {text : String} (hex : hexText text = true) : '|' ∉ text.toList := by
  intro listed
  have digit := List.all_eq_true.mp hex '|' listed
  exact absurd digit (by decide)

theorem apiMode_plain (mode : ApiMode) : '|' ∉ mode.value.toList := by
  cases mode <;> decide

/-- The characters of a key. -/
theorem joinKey_toList (provider model apiMode endpointHash : String) (routeHash : Option String) :
    (joinKey provider model apiMode endpointHash routeHash).toList =
      provider.toList ++ '|' ::
        (((model.toList ++ '|' :: apiMode.toList) ++ '|' :: endpointHash.toList) ++
          '|' :: (routeHash.getD "").toList) := by
  rw [joinKey, String.toList_intercalate]
  simp [List.intercalate]

namespace RouteKey

theorem route_plain (r : RouteKey) : '|' ∉ (r.routeHash.getD "").toList := by
  cases known : r.routeHash with
  | none => exact List.not_mem_nil
  | some hash => exact hexText_plain (r.routeHash_hex hash known)

theorem mode_plain (r : RouteKey) : '|' ∉ r.apiMode.toList := by
  obtain ⟨mode, known⟩ := r.apiMode_known
  rw [known]
  exact apiMode_plain mode

/-- Two routes have one key when they are the same route. -/
theorem profileKey_eq_iff (r s : RouteKey) : r.profileKey = s.profileKey ↔ r.SameRoute s.toRouteContext := by
  constructor
  · intro same
    have texts := congrArg String.toList same
    rw [RouteContext.profileKey, RouteContext.profileKey, joinKey_toList, joinKey_toList] at texts
    have providers : r.provider.toList = s.provider.toList := by
      rw [← beforeFirst_append_cons r.provider_plain, texts, beforeFirst_append_cons s.provider_plain]
    rw [providers, List.append_cancel_left_eq] at texts
    obtain ⟨texts, routes⟩ := append_bar_inj r.route_plain s.route_plain (List.cons.inj texts).2
    obtain ⟨texts, endpoints⟩ :=
      append_bar_inj (hexText_plain r.endpointHash_hex) (hexText_plain s.endpointHash_hex) texts
    obtain ⟨models, modes⟩ := append_bar_inj r.mode_plain s.mode_plain texts
    exact ⟨String.toList_inj.mp providers, String.toList_inj.mp models, String.toList_inj.mp modes,
      String.toList_inj.mp endpoints, String.toList_inj.mp routes⟩
  · rintro ⟨provider, model, apiMode, endpointHash, routeHash⟩
    rw [RouteContext.profileKey, RouteContext.profileKey, joinKey, joinKey, provider, model, apiMode, endpointHash,
      routeHash]

end RouteKey

/-! ### The profiles of the store -/

/-- The profile of a write, if it writes one, is that of a route as the relay names it. -/
def KeyedWrite (write : StoreWrite) : Prop :=
  ∀ entry ∈ write.profile?, ∃ r : RouteKey, r.toRouteContext = entry.1.toRouteContext

/-- The last profile that was written for a route. -/
def lastOfRoute (written : List (ProfileRecord × UtcTime)) (context : RouteContext) :
    Option (ProfileRecord × UtcTime) :=
  written.reverse.find? fun entry => entry.1.toRouteContext.SameRoute context

/-- What was learned of a route, without the names of the route. -/
def ProfileRecord.learned (profile : ProfileRecord) : ProfileRecord :=
  { profile with toRouteContext := { provider := "", model := "", apiMode := "", endpointHash := "" } }

section Routes

variable {written : List (ProfileRecord × UtcTime)}
  (keyed : ∀ entry ∈ written, ∃ r : RouteKey, r.toRouteContext = entry.1.toRouteContext) (r : RouteKey)

/-- A profile is stored under the key of a route when it is one of this route. -/
theorem key_matches_iff {entry : ProfileRecord × UtcTime}
    (own : ∃ s : RouteKey, s.toRouteContext = entry.1.toRouteContext) :
    profileKeyOf entry = r.profileKey ↔ entry.1.toRouteContext.SameRoute r.toRouteContext := by
  obtain ⟨s, known⟩ := own
  have keys : profileKeyOf entry = s.profileKey := by
    rw [profileKeyOf, ProfileRecord.profileKey, RouteContext.profileKey, known]
  rw [keys, RouteKey.profileKey_eq_iff, known]

include keyed

/-- The last profile under the key of a route is the last one of the route. -/
theorem lastFor_routeKey : lastFor profileKeyOf written r.profileKey = lastOfRoute written r.toRouteContext := by
  rw [lastFor, lastOfRoute]
  refine List.find?_congr fun entry listed => ?_
  exact decide_eq_decide.mpr (key_matches_iff r (keyed entry (List.mem_reverse.mp listed)))

/-- What is kept under the key of a route is what was learned last of this route. -/
theorem keptProfile_routeKey :
    (∀ entry ∈ keptProfile written r.profileKey, entry.1.toRouteContext.SameRoute r.toRouteContext) ∧
      (keptProfile written r.profileKey).map (fun entry => (entry.1.storedAt entry.2).learned) =
        (lastOfRoute written r.toRouteContext).map fun entry => (entry.1.storedAt entry.2).learned := by
  rw [keptProfile, lastFor_routeKey keyed]
  cases first : written.find? fun entry => profileKeyOf entry = r.profileKey with
  | none =>
      have unlisted : lastOfRoute written r.toRouteContext = none := by
        rw [← lastFor_routeKey keyed, lastFor, List.find?_eq_none]
        exact fun entry listed => List.find?_eq_none.mp first entry (List.mem_reverse.mp listed)
      rw [unlisted]
      exact ⟨fun entry kept => (Option.not_mem_none entry kept).elim, rfl⟩
  | some old =>
      rw [Option.bind_some, Option.map_map]
      refine ⟨fun entry kept => ?_, rfl⟩
      obtain ⟨last, -, rfl⟩ := Option.map_eq_some_iff.mp kept
      have matched := List.find?_some first
      exact (key_matches_iff r (keyed old (List.mem_of_find?_eq_some first))).mp (of_decide_eq_true matched)

end Routes

/-- Two routes have one key when they are the same route. Whatever is written, the profile that is read under the key
    of a route is one of this route, and has what was learned in the last profile of this route. -/
theorem profile_keys_separate (texts : StorageTexts) (writes : List {write // KeyedWrite write}) :
    (∀ r s : RouteKey, r.profileKey = s.profileKey ↔ r.SameRoute s.toRouteContext) ∧
      ∃ store, Execution.exec (storeWrite texts) {} (writes.map Subtype.val) = some store ∧
        ∀ r : RouteKey, ∃ kept, store.profileFor r.profileKey = some kept ∧
          (∀ profile ∈ kept, profile.toRouteContext.SameRoute r.toRouteContext) ∧
          kept.map ProfileRecord.learned =
            (lastOfRoute ((writes.map Subtype.val).filterMap StoreWrite.profile?) r.toRouteContext).map
              fun entry => (entry.1.storedAt entry.2).learned := by
  refine ⟨RouteKey.profileKey_eq_iff, ?_⟩
  obtain ⟨store, run⟩ := Option.isSome_iff_exists.mp (exec_isSome texts {} (writes.map Subtype.val))
  refine ⟨store, run, fun r => ⟨_, (holding_exec run).profiles.profileFor r.profileKey, ?_⟩⟩
  have keyed : ∀ entry ∈ (writes.map Subtype.val).filterMap StoreWrite.profile?,
      ∃ s : RouteKey, s.toRouteContext = entry.1.toRouteContext := by
    intro entry listed
    obtain ⟨write, member, wrote⟩ := List.mem_filterMap.mp listed
    obtain ⟨⟨_, own⟩, -, rfl⟩ := List.mem_map.mp member
    exact own entry wrote
  obtain ⟨same, learned⟩ := keptProfile_routeKey keyed r
  rw [Option.map_map]
  refine ⟨fun profile known => ?_, learned⟩
  obtain ⟨entry, kept, rfl⟩ := Option.map_eq_some_iff.mp known
  exact same entry kept

theorem sampleProvider_plain : '|' ∉ "upstream".toList := by decide

theorem sampleEndpointHash_hex : hexText "e3b0" = true := by decide

theorem noRouteHash_hex : ∀ hash ∈ (none : Option String), hexText hash = true := by decide

/-- The routes of one endpoint by their models. -/
def sampleRouteKey (model : String) : RouteKey where
  provider := "upstream"
  model := model
  apiMode := ApiMode.chat.value
  endpointHash := "e3b0"
  provider_plain := sampleProvider_plain
  apiMode_known := ⟨.chat, rfl⟩
  endpointHash_hex := sampleEndpointHash_hex
  routeHash_hex := noRouteHash_hex

/-- The write of a profile of a model with this many samples. -/
def sampleProfileWrite (model : String) (sampleCount : ℕ) : StoreWrite :=
  .profile { (sampleRouteKey model).toRouteContext with sampleCount := sampleCount, updatedAt := some sampleTime }
    sampleTime

theorem keyedWrite_sampleProfile (model : String) (sampleCount : ℕ) :
    KeyedWrite (sampleProfileWrite model sampleCount) := by
  rintro entry ⟨⟩
  exact ⟨sampleRouteKey model, rfl⟩

/-- A model whose name goes on with a bar and the API mode does not disturb the one whose name ends before it. -/
theorem profile_keys_separate_sample :
    (sampleRouteKey "m").profileKey ≠ (sampleRouteKey "m|chat").profileKey ∧
      ∃ store, Execution.exec (storeWrite sampleStorageTexts) {}
          [sampleProfileWrite "m" 1, sampleProfileWrite "m|chat" 2] = some store ∧
        ∃ kept, store.profileFor (sampleRouteKey "m").profileKey = some kept ∧
          kept.map (fun profile => profile.sampleCount) = some 1 := by
  obtain ⟨keys, store, run, read⟩ := profile_keys_separate sampleStorageTexts
    [⟨_, keyedWrite_sampleProfile "m" 1⟩, ⟨_, keyedWrite_sampleProfile "m|chat" 2⟩]
  refine ⟨fun same => absurd ((keys _ _).mp same) (by decide), store, run, ?_⟩
  obtain ⟨kept, found, -, learned⟩ := read (sampleRouteKey "m")
  refine ⟨kept, found, ?_⟩
  have counts := congrArg (Option.map fun profile : ProfileRecord => profile.sampleCount) learned
  rw [Option.map_map, Option.map_map] at counts
  exact counts.trans (by decide +kernel)

end CachePilot
