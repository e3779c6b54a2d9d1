/-
Module: CachePilot.Proofs.IdentityText
Layer: Proofs
Purpose: What the fingerprints keep apart. The stable encoding of an object of texts can be read back field by
  field, so two cache identities have one encoding only when they are the same, and two credential scopes have
  one label only when the digests that they are cut from begin alike. Collisions of the digest are the only
  way for two different identities to share a cache fingerprint. The encoding of a list of any values can be read
  back item by item.
Trusted boundary: none
Main exports: Json.field, canonicalJson_fields_inj, CacheIdentity.eq_of_canonicalJson,
  scopedAuthorization_of_scope, FloatsPlain, canonicalJson_arr_eq_iff
-/
import CachePilot.Lib.NestedText
import CachePilot.Relay.Observation

namespace CachePilot

open QuotedText NestedText

/-! ### Objects of texts -/

/-- The texts that a field may be written as: a literal, or null. -/
def fieldTexts : Set (List Char) := insert "null".toList (Set.range quote)

theorem null_append_ne_quote {s rest rest' : List Char} : "null".toList ++ rest ≠ quote s ++ rest' := by
  intro same
  have heads := (List.cons.inj same).1
  revert heads
  decide

theorem delimited_fieldTexts : Delimited fieldTexts := by
  rintro s (rfl | known) t (rfl | known') rest rest' same
  · exact ⟨rfl, List.append_cancel_left same⟩
  · obtain ⟨u, rfl⟩ := known'
    exact absurd same null_append_ne_quote
  · obtain ⟨u, rfl⟩ := known
    exact absurd same.symm null_append_ne_quote
  · exact delimited_quote s known t known' rest rest' same

/-- The texts that a member of such an object may be written as. -/
def memberTexts : Set (List Char) :=
  { text | ∃ key value, value ∈ fieldTexts ∧ memberText (key, value) = text }

theorem memberText_append_inj {m m' : String × List Char} (known : m.2 ∈ fieldTexts)
    (known' : m'.2 ∈ fieldTexts) {rest rest' : List Char}
    (same : memberText m ++ rest = memberText m' ++ rest') : m = m' ∧ rest = rest' := by
  obtain ⟨keys, values, ends⟩ := keyed_append_inj delimited_fieldTexts known known' same
  exact ⟨Prod.ext (String.toList_inj.1 keys) values, ends⟩

theorem delimited_memberTexts : Delimited memberTexts := by
  rintro s ⟨key, value, known, rfl⟩ t ⟨key', value', known', rfl⟩ rest rest' same
  obtain ⟨members, ends⟩ := memberText_append_inj known known' same
  exact ⟨congrArg memberText members, ends⟩

/-- A member with a text, or null. -/
def Json.field (entry : String × Option String) : String × Json := (entry.1, Json.ofText entry.2)

/-- What a text, or null, is dumped as. -/
def fieldText (value : Option String) : List Char := value.elim "null".toList fun s => quote s.toList

theorem fieldText_mem (value : Option String) : fieldText value ∈ fieldTexts := by
  cases value with
  | none => exact Or.inl rfl
  | some s => exact Or.inr ⟨s.toList, rfl⟩

theorem fieldText_inj {value value' : Option String} (same : fieldText value = fieldText value') :
    value = value' := by
  have extended : fieldText value ++ [] = fieldText value' ++ [] := congrArg (· ++ []) same
  cases value with
  | none =>
      cases value' with
      | none => rfl
      | some t => exact absurd extended null_append_ne_quote
  | some s =>
      cases value' with
      | none => exact absurd extended.symm null_append_ne_quote
      | some t => exact congrArg some (String.toList_inj.1 (quote_inj same))

theorem dumpChars_ofText (floatRepr : ℚ → String) (value : Option String) :
    dumpChars floatRepr (Json.ofText value) = fieldText value := by
  cases value with
  | none => rfl
  | some s => rfl

theorem dumpMembers_fields (floatRepr : ℚ → String) (entries : List (String × Option String)) :
    dumpMembers floatRepr (entries.map Json.field) = entries.map fun e => (e.1, fieldText e.2) := by
  induction entries with
  | nil => rfl
  | cons entry rest ih =>
      rw [List.map_cons, List.map_cons, ← ih, ← dumpChars_ofText floatRepr entry.2]
      rfl

/-- Lists with the same distinct keys in the same order are equal when they are permutations. -/
theorem eq_of_perm_of_keys {V : Type*} {xs ys : List (String × V)} (perm : xs.Perm ys)
    (keys : xs.map Prod.fst = ys.map Prod.fst) (distinct : (xs.map Prod.fst).Nodup) : xs = ys := by
  induction xs generalizing ys with
  | nil => exact perm.nil_eq
  | cons x xs ih =>
      cases ys with
      | nil => cases keys
      | cons y ys =>
          obtain ⟨heads, tails⟩ := List.cons.inj keys
          have repeats : ((y :: ys).map Prod.fst).Nodup := keys ▸ distinct
          have listed : x ∈ y :: ys := perm.subset List.mem_cons_self
          have first : x = y := List.inj_on_of_nodup_map repeats listed List.mem_cons_self heads
          subst first
          rw [ih (perm.cons_inv) tails (List.Nodup.of_cons distinct)]

/-- How an entry is written. -/
def entryText (entry : String × Option String) : List Char := memberText (entry.1, fieldText entry.2)

theorem entryText_mem (entry : String × Option String) : entryText entry ∈ memberTexts :=
  ⟨entry.1, fieldText entry.2, fieldText_mem entry.2, rfl⟩

theorem entryText_injective : Function.Injective entryText := by
  intro entry entry' same
  have extended : entryText entry ++ [] = entryText entry' ++ [] := congrArg (· ++ []) same
  obtain ⟨members, -⟩ :=
    memberText_append_inj (fieldText_mem entry.2) (fieldText_mem entry'.2) extended
  obtain ⟨names, values⟩ := Prod.mk.inj members
  exact Prod.ext names (fieldText_inj values)

/-- An object of texts is written entry by entry, sorted by their names. -/
theorem dumpChars_fields (floatRepr : ℚ → String) (entries : List (String × Option String)) :
    dumpChars floatRepr (.obj (entries.map Json.field)) =
      '\x7b' :: (joinWith [','] ((entries.insertionSort fun a b => a.1 ≤ b.1).map entryText) ++
        ['\x7d']) := by
  have sorted := List.map_insertionSort (fun a b : String × Option String => a.1 ≤ b.1)
    (fun a b : String × List Char => a.1 ≤ b.1) (fun e => (e.1, fieldText e.2)) entries
    (fun a _ b _ => Iff.rfl)
  rw [dumpChars, dumpMembers_fields, ← sorted, List.map_map]
  rfl

theorem sorted_ne_nil {entries : List (String × Option String)} (filled : entries ≠ []) :
    (entries.insertionSort fun a b => a.1 ≤ b.1).map entryText ≠ [] := by
  intro nothing
  have perm := List.perm_insertionSort (fun a b : String × Option String => a.1 ≤ b.1) entries
  rw [List.map_eq_nil_iff.1 nothing] at perm
  exact filled perm.nil_eq.symm

/-- An object of texts can be read back from its stable encoding. -/
theorem canonicalJson_fields_inj {prims : TextPrimitives} {xs ys : List (String × Option String)}
    (keys : xs.map Prod.fst = ys.map Prod.fst) (distinct : (xs.map Prod.fst).Nodup)
    (same : canonicalJson prims (.obj (xs.map Json.field)) =
      canonicalJson prims (.obj (ys.map Json.field))) : xs = ys := by
  by_cases empty : xs = []
  · rw [empty] at keys ⊢
    exact (List.map_eq_nil_iff.1 keys.symm).symm
  have empty' : ys ≠ [] := by
    rintro rfl
    exact empty (List.map_eq_nil_iff.1 keys)
  have texts := String.ofList_injective same
  rw [dumpChars_fields, dumpChars_fields] at texts
  have written := joinWith_inj delimited_memberTexts (by decide) (sorted_ne_nil empty)
    (sorted_ne_nil empty')
    (List.forall_mem_map.2 fun entry _ => entryText_mem entry)
    (List.forall_mem_map.2 fun entry _ => entryText_mem entry) (List.cons.inj texts).2
  have sorted := entryText_injective.list_map written
  have perm := List.perm_insertionSort (fun a b : String × Option String => a.1 ≤ b.1) xs
  rw [sorted] at perm
  have permuted : xs.Perm ys := perm.symm.trans (List.perm_insertionSort _ ys)
  exact eq_of_perm_of_keys permuted keys distinct

/-! ### Lists of values -/

/-- No character of the text of a float has a meaning in JSON. -/
def FloatsPlain (prims : TextPrimitives) : Prop := ∀ value, Plain (prims.floatRepr value).toList

theorem ordinary_of_isDigit {c : Char} (digit : c.isDigit = true) : Ordinary c := by
  have differs : ∀ other : Char, other.isDigit = false → c ≠ other := by
    rintro other meaning rfl
    rw [digit] at meaning
    cases meaning
  exact ⟨differs _ rfl, not_or.2 ⟨differs _ rfl, differs _ rfl⟩, not_or.2 ⟨differs _ rfl, differs _ rfl⟩,
    differs _ rfl⟩

theorem plain_repr (n : ℕ) : Plain n.repr.toList := by
  rw [Nat.toList_repr]
  exact ⟨Nat.toDigits_ne_nil, fun c listed =>
    ordinary_of_isDigit (Nat.isDigit_of_mem_toDigits (by decide) (by decide) listed)⟩

theorem plain_toString (value : ℤ) : Plain (toString value).toList := by
  cases value with
  | ofNat n => exact plain_repr n
  | negSucc n =>
      have written : (toString (Int.negSucc n)).toList = '-' :: (n + 1).repr.toList := by
        change ("-" ++ (n + 1).repr).toList = _
        rw [String.toList_append]
        rfl
      rw [written]
      exact ⟨List.cons_ne_nil _ _, List.forall_mem_cons.2 ⟨by decide, (plain_repr (n + 1)).2⟩⟩

/-- The words of JSON. -/
theorem plain_words :
    ∀ word ∈ ["null", "true", "false", "Infinity", "-Infinity", "NaN"], Plain word.toList := by
  decide

theorem plain_floatText {prims : TextPrimitives} (plain : FloatsPlain prims) (value : JsonFloat) :
    Plain (value.text prims.floatRepr) := by
  cases value with
  | finite value => exact plain value
  | infinity => exact plain_words "Infinity" (by simp)
  | negInfinity => exact plain_words "-Infinity" (by simp)
  | nan => exact plain_words "NaN" (by simp)

mutual

/-- The encoding of a value is closed. -/
theorem closed_dumpChars {prims : TextPrimitives} (plain : FloatsPlain prims) :
    ∀ value, Closed (dumpChars prims.floatRepr value)
  | .null => (plain_words "null" (by simp)).closed
  | .bool true => (plain_words "true" (by simp)).closed
  | .bool false => (plain_words "false" (by simp)).closed
  | .int value => (plain_toString value).closed
  | .float value => (plain_floatText plain value).closed
  | .str value => closed_quote value.toList
  | .arr items => by
      rw [dumpChars]
      exact closed_bracketed (Or.inl rfl) (Or.inl rfl) (inner_joinWith (closed_dumpItems plain items))
  | .obj members => by
      rw [dumpChars]
      refine closed_bracketed (Or.inr rfl) (Or.inr rfl) (inner_joinWith ?_)
      intro text listed
      obtain ⟨member, sorted, rfl⟩ := List.mem_map.1 listed
      exact closed_dumpMembers plain members member ((List.mem_insertionSort _).1 sorted)

theorem closed_dumpItems {prims : TextPrimitives} (plain : FloatsPlain prims) :
    ∀ items, ∀ text ∈ dumpItems prims.floatRepr items, Closed text
  | [] => by
      intro text listed
      cases listed
  | item :: rest => by
      rw [dumpItems, List.forall_mem_cons]
      exact ⟨closed_dumpChars plain item, closed_dumpItems plain rest⟩

theorem closed_dumpMembers {prims : TextPrimitives} (plain : FloatsPlain prims) :
    ∀ members, ∀ member ∈ dumpMembers prims.floatRepr members, Closed (memberText member)
  | [] => by
      intro member listed
      cases listed
  | member :: rest => by
      rw [dumpMembers, List.forall_mem_cons]
      exact ⟨closed_dumpMember plain member, closed_dumpMembers plain rest⟩

theorem closed_dumpMember {prims : TextPrimitives} (plain : FloatsPlain prims) :
    ∀ member, Closed (memberText (dumpMember prims.floatRepr member))
  | (key, value) => by
      have colon : Closed [':'] := closed_singleton (by decide)
      exact (closed_quote key.toList).append (colon.append (closed_dumpChars plain value))

end

theorem dumpChars_ne_nil {prims : TextPrimitives} (plain : FloatsPlain prims) (value : Json) :
    dumpChars prims.floatRepr value ≠ [] := by
  cases value with
  | null => exact (plain_words "null" (by simp)).1
  | bool value =>
      cases value with
      | true => exact (plain_words "true" (by simp)).1
      | false => exact (plain_words "false" (by simp)).1
  | int value => exact (plain_toString value).1
  | float value => exact (plain_floatText plain value).1
  | str value => exact List.cons_ne_nil _ _
  | arr items =>
      rw [dumpChars]
      exact List.cons_ne_nil _ _
  | obj members =>
      rw [dumpChars]
      exact List.cons_ne_nil _ _

/-- The encoding of a list has brackets. -/
theorem canonicalJson_arr_ne_empty (prims : TextPrimitives) (items : List Json) :
    canonicalJson prims (.arr items) ≠ "" := by
  intro empty
  have nothing := congrArg String.toList empty
  rw [canonicalJson, String.toList_ofList, dumpChars] at nothing
  cases nothing

theorem dumpItems_eq_map (floatRepr : ℚ → String) (items : List Json) :
    dumpItems floatRepr items = items.map (dumpChars floatRepr) := by
  induction items with
  | nil => rfl
  | cons item rest ih => rw [dumpItems, List.map_cons, ih]

/-- Two lists have one encoding exactly when their items have. -/
theorem canonicalJson_arr_eq_iff {prims : TextPrimitives} (plain : FloatsPlain prims) {xs ys : List Json} :
    canonicalJson prims (.arr xs) = canonicalJson prims (.arr ys) ↔
      xs.map (canonicalJson prims) = ys.map (canonicalJson prims) := by
  have itemwise : xs.map (canonicalJson prims) = ys.map (canonicalJson prims) ↔
      dumpItems prims.floatRepr xs = dumpItems prims.floatRepr ys := by
    have composed : canonicalJson prims = String.ofList ∘ dumpChars prims.floatRepr := rfl
    rw [dumpItems_eq_map, dumpItems_eq_map, composed, ← List.map_map, ← List.map_map]
    exact (List.map_injective_iff.2 @String.ofList_injective).eq_iff
  have items : ∀ zs, ∀ text ∈ dumpItems prims.floatRepr zs, Closed text ∧ text ≠ [] := by
    intro zs text listed
    refine ⟨closed_dumpItems plain zs text listed, ?_⟩
    rw [dumpItems_eq_map] at listed
    obtain ⟨item, -, rfl⟩ := List.mem_map.1 listed
    exact dumpChars_ne_nil plain item
  rw [itemwise, canonicalJson, canonicalJson, dumpChars, dumpChars]
  constructor
  · intro same
    exact joined_inj (Or.inl rfl) (items xs) (items ys) (List.cons.inj (String.ofList_injective same)).2
  · intro same
    rw [same]

/-! ### Cache identities -/

/-- The fields of a cache identity. -/
def CacheIdentity.entries (c : CacheIdentity) : List (String × Option String) :=
  [("provider", some c.provider), ("model", some c.model), ("api_mode", some c.apiMode.value),
    ("endpoint", some c.endpoint), ("auth_scope", some c.authScope), ("route", c.route),
    ("prompt_key", some c.promptKey), ("system_hash", some c.systemHash),
    ("tools_hash", some c.toolsHash)]

theorem CacheIdentity.entries_keys (c : CacheIdentity) :
    c.entries.map Prod.fst =
      ["provider", "model", "api_mode", "endpoint", "auth_scope", "route", "prompt_key",
        "system_hash", "tools_hash"] := rfl

theorem CacheIdentity.members_eq (c : CacheIdentity) : c.members = c.entries.map Json.field := rfl

theorem ApiMode.value_injective : Function.Injective ApiMode.value := by
  intro mode mode' same
  cases mode <;> cases mode' <;> first | rfl | (revert same; decide)

/-- Two cache identities with one encoding are the same. -/
theorem CacheIdentity.eq_of_canonicalJson {prims : TextPrimitives} {c c' : CacheIdentity}
    (same : canonicalJson prims (.obj c.members) = canonicalJson prims (.obj c'.members)) : c = c' := by
  rw [members_eq, members_eq] at same
  have distinct : (c.entries.map Prod.fst).Nodup := by
    rw [entries_keys]
    decide
  have entries := canonicalJson_fields_inj (by rw [entries_keys, entries_keys]) distinct same
  cases c
  cases c'
  simp only [CacheIdentity.entries, List.cons.injEq, Prod.mk.injEq, Option.some.injEq, true_and,
    and_true] at entries
  obtain ⟨rfl, rfl, mode, rfl, rfl, rfl, rfl, rfl, rfl⟩ := entries
  cases ApiMode.value_injective mode
  rfl

/-- Two credential scopes with one label have the same authorization, unless the digests of two
    authorizations begin alike. -/
theorem scopedAuthorization_of_scope {prims : TextPrimitives} {headers headers' : List (String × String)}
    (distinct : ∀ auth ∈ scopedAuthorization headers, ∀ auth' ∈ scopedAuthorization headers',
      (prims.sha256 auth).toList.take 16 = (prims.sha256 auth').toList.take 16 → auth = auth')
    (same : deriveAuthScope prims headers = deriveAuthScope prims headers') :
    scopedAuthorization headers = scopedAuthorization headers' := by
  have labelled : ∀ digest : List Char, "auth-" ++ String.ofList digest ≠ "relay-default" := by
    intro digest equal
    have heads := congrArg (fun s : String => s.toList.head?) equal
    simp at heads
  rw [deriveAuthScope_eq, deriveAuthScope_eq] at same
  cases auth : scopedAuthorization headers with
  | none =>
      rw [auth] at same
      cases auth' : scopedAuthorization headers' with
      | none => rfl
      | some a' =>
          rw [auth'] at same
          exact absurd same.symm (labelled _)
  | some a =>
      rw [auth] at same
      cases auth' : scopedAuthorization headers' with
      | none =>
          rw [auth'] at same
          exact absurd same (labelled _)
      | some a' =>
          rw [auth'] at same
          have digests := String.ofList_injective (String.append_right_inj _ |>.1 same)
          exact congrArg some (distinct a auth a' auth' digests)

end CachePilot
