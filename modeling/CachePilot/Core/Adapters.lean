/-
Module: CachePilot.Core.Adapters
Layer: Core
Purpose: The bounded warm request of the OpenAI-compatible adapter. The body of a request is a mutable
  dictionary, so it is modelled at an address of a heap: the adapter copies it to a fresh address and edits the
  copy. Values inside a body are trees, which a deep copy does not share. Log lines are left out. What a body is
  read with, its members, truth values and messages, stands here too.
Trusted boundary: the reading of adapters.py; values inside a body are never shared
Main exports: getMember, Json.truthy, Json.iterate, isSystemMessage, ObjectHeap, outputBoundFields, buildWarmRequest
-/
import CachePilot.Core.Telemetry

namespace CachePilot

/-! ### JSON objects -/

/-- The keys of an object, in document order. -/
def memberKeys (members : List (String × Json)) : List String := members.map Prod.fst

/-- The value of a key. -/
def getMember (members : List (String × Json)) (key : String) : Option Json := members.lookup key

/-- Replace the value of a key that is present. -/
def replaceMember (members : List (String × Json)) (key : String) (value : Json) :
    List (String × Json) :=
  members.map fun member => (member.1, if member.1 = key then value else member.2)

@[simp] theorem memberKeys_replaceMember (members : List (String × Json)) (key : String)
    (value : Json) : memberKeys (replaceMember members key value) = memberKeys members := by
  simp [memberKeys, replaceMember]

theorem getMember_replaceMember (members : List (String × Json)) (key : String) (value : Json)
    (k : String) :
    getMember (replaceMember members key value) k =
      if k = key then (getMember members k).map fun _ => value else getMember members k := by
  induction members with
  | nil => simp [getMember, replaceMember]
  | cons member rest ih =>
      obtain ⟨name, old⟩ := member
      unfold getMember replaceMember at ih ⊢
      rw [List.map_cons, List.lookup_cons, List.lookup_cons, ih]
      by_cases here : k = name
      · subst here
        by_cases same : k = key
        · simp [same]
        · simp [same]
      · have miss : (k == name) = false := by simp [here]
        simp [miss]

theorem mem_memberKeys_iff {members : List (String × Json)} {key : String} :
    key ∈ memberKeys members ↔ (getMember members key).isSome = true := by
  induction members with
  | nil => simp [memberKeys, getMember]
  | cons member rest ih =>
      obtain ⟨name, value⟩ := member
      unfold memberKeys getMember at ih ⊢
      rw [List.map_cons, List.mem_cons, List.lookup_cons, ih]
      by_cases here : key = name
      · simp [here]
      · have miss : (key == name) = false := by simp [here]
        simp [here, miss]

/-! ### Reading a body -/

/-- The truth value of a JSON value. -/
def Json.truthy : Json → Bool
  | .null => false
  | .bool value => value
  | .int value => value ≠ 0
  | .float (.finite value) => value ≠ 0
  | .float _ => true
  | .str value => value ≠ ""
  | .arr items => !items.isEmpty
  | .obj members => !members.isEmpty

/-- What iterating over a value yields: the items of a list, the keys of an object, the characters of a text.
    Other values raise. -/
def Json.iterate : Json → Option (List Json)
  | .arr items => some items
  | .obj members => some (members.map fun member => .str member.1)
  | .str value => some (value.toList.map fun c => .str (String.singleton c))
  | _ => none

/-- The first of two values that is true, else the second. -/
def Json.orElse (value other : Json) : Json := if value.truthy then value else other

/-- The value of a key, null when it is missing. -/
def getOrNull (payload : List (String × Json)) (key : String) : Json :=
  (getMember payload key).getD .null

/-- The message is an object whose role is the system's. -/
def isSystemMessage : Json → Bool
  | .obj members =>
      match getMember members "role" with
      | some (.str role) => role = "system"
      | _ => false
  | _ => false

/-- The content of a message. -/
def messageContent : Json → Json
  | .obj members => getOrNull members "content"
  | _ => .null

/-! ### The heap -/

/-- The dictionaries of the program, by address. -/
abbrev ObjectHeap := Dict ℕ (List (String × Json))

namespace ObjectHeap

/-- An address that no dictionary has. -/
def fresh (h : ObjectHeap) : ℕ := (Dict.keys h).foldl max 0 + 1

/-- A new dictionary with this content. -/
def alloc (h : ObjectHeap) (members : List (String × Json)) : ObjectHeap × ℕ :=
  (Dict.set h h.fresh members, h.fresh)

/-- Assign to a key that the dictionary has. -/
def setItem (h : ObjectHeap) (address : ℕ) (key : String) (value : Json) : ObjectHeap :=
  match Dict.get? h address with
  | some members => Dict.set h address (replaceMember members key value)
  | none => h

end ObjectHeap

/-! ### The adapter -/

/-- The fields that bound the output, in the order in which they are looked for. -/
def outputBoundFields : List String := ["max_tokens", "max_completion_tokens", "max_output_tokens"]

/-- Bounded cache-equivalent replay: copy the body, turn streaming off where it was asked for, and set the
    first output bound that is present to one. Without an output bound nothing is built. A body that is no
    dictionary raises. -/
def buildWarmRequest (h : ObjectHeap) (original : ℕ) : Option (ObjectHeap × Option ℕ) :=
  match Dict.get? h original with
  | none => none
  | some members =>
      let (h, warm) := h.alloc members
      let h := if "stream" ∈ memberKeys members then h.setItem warm "stream" (.bool false) else h
      match outputBoundFields.find? fun field => field ∈ memberKeys members with
      | some field => some (h.setItem warm field (.int 1), some warm)
      | none => some (h, none)

end CachePilot
