/-
Module: CachePilot.Lib.Dict
Layer: Lib
Purpose: Insertion-ordered dictionaries. An entry keeps its place when its value is replaced, a new key
  goes to the end, and no key occurs twice; the last fact is a field of the structure, so a dictionary
  with a repeated key cannot be built. Every operation has a lookup lemma for the key it touches and one
  for every other key.
Trusted boundary: none
Main exports: Dict, Dict.get?, Dict.set, Dict.erase, Dict.mapValues, Dict.get?_set, Dict.get?_mapValues,
  Dict.filterKeys, Dict.ofEntries, Dict.filterKeys_ofEntries, Dict.entries_ofEntries_eq_filter_iff
-/
import Mathlib.Data.List.Induction
import Mathlib.Data.List.Nodup

/-- A finite map that remembers the order in which its keys were first inserted. -/
structure Dict (K V : Type*) where
  entries : List (K × V)
  nodup : (entries.map Prod.fst).Nodup

namespace Dict

variable {K V : Type*}

/-- The empty dictionary. -/
def empty : Dict K V := ⟨[], List.nodup_nil⟩

instance : EmptyCollection (Dict K V) := ⟨empty⟩

/-- Keys in insertion order. -/
def keys (d : Dict K V) : List K := d.entries.map Prod.fst

/-- Values in insertion order. -/
def values (d : Dict K V) : List V := d.entries.map Prod.snd

/-- Replace every value, keeping keys and order. -/
def mapValues (f : V → V) (d : Dict K V) : Dict K V where
  entries := d.entries.map fun p => (p.1, f p.2)
  nodup := by simpa [List.map_map, Function.comp_def] using d.nodup

variable [DecidableEq K]

/-- The value stored under a key. -/
def get? (d : Dict K V) (k : K) : Option V :=
  (d.entries.find? fun p => p.1 = k).map Prod.snd

/-- Store a value: replace it in place when the key is known, append it otherwise. -/
def set (d : Dict K V) (k : K) (v : V) : Dict K V :=
  if known : k ∈ d.keys then
    { entries := d.entries.map fun p => (p.1, if p.1 = k then v else p.2)
      nodup := by simpa [List.map_map, Function.comp_def] using d.nodup }
  else
    { entries := d.entries ++ [(k, v)]
      nodup := by
        rw [List.map_append, List.nodup_append]
        refine ⟨d.nodup, List.nodup_singleton k, ?_⟩
        intro a ha b hb same
        rw [List.map_singleton, List.mem_singleton] at hb
        rw [same, hb] at ha
        exact known ha }

/-- Forget a key. -/
def erase (d : Dict K V) (k : K) : Dict K V where
  entries := d.entries.filter fun p => p.1 ≠ k
  nodup := d.nodup.sublist (List.filter_sublist.map Prod.fst)

@[simp] theorem get?_empty (k : K) : (∅ : Dict K V).get? k = none := rfl

/-- Looking a key up finds exactly its entry. -/
theorem get?_eq_some_iff {d : Dict K V} {k : K} {v : V} :
    d.get? k = some v ↔ (k, v) ∈ d.entries := by
  constructor
  · intro found
    obtain ⟨p, hp, rfl⟩ := Option.map_eq_some_iff.1 found
    have hkey : p.1 = k := by simpa using List.find?_some hp
    exact hkey ▸ List.mem_of_find?_eq_some hp
  · intro member
    obtain ⟨p, hp⟩ : ∃ p, d.entries.find? (fun p => p.1 = k) = some p :=
      Option.isSome_iff_exists.1 (List.find?_isSome.2 ⟨_, member, by simp⟩)
    have hkey : p.1 = k := by simpa using List.find?_some hp
    have same : p = (k, v) :=
      List.inj_on_of_nodup_map d.nodup (List.mem_of_find?_eq_some hp) member hkey
    rw [get?, hp, same]
    rfl

theorem mem_keys_iff {d : Dict K V} {k : K} : k ∈ d.keys ↔ ∃ v, d.get? k = some v := by
  simp [keys, get?_eq_some_iff]

theorem not_mem_keys_iff {d : Dict K V} {k : K} : k ∉ d.keys ↔ d.get? k = none := by
  rw [mem_keys_iff, ← Option.isSome_iff_exists, Option.not_isSome_iff_eq_none]

theorem mem_values_iff {d : Dict K V} {v : V} : v ∈ d.values ↔ ∃ k, d.get? k = some v := by
  simp [values, get?_eq_some_iff]

theorem get?_map_entries (d : Dict K V) (g : K → V → V) (k : K) :
    ((d.entries.map fun p => (p.1, g p.1 p.2)).find? fun p => p.1 = k).map Prod.snd =
      (d.get? k).map (g k) := by
  rw [List.find?_map, Option.map_map, get?, Option.map_map]
  change Option.map _ (d.entries.find? fun p => p.1 = k) =
    Option.map _ (d.entries.find? fun p => p.1 = k)
  cases hp : d.entries.find? fun p => p.1 = k with
  | none => rfl
  | some p =>
      have hkey : p.1 = k := by simpa using List.find?_some hp
      simp [hkey]

@[simp] theorem get?_mapValues (d : Dict K V) (f : V → V) (k : K) :
    (d.mapValues f).get? k = (d.get? k).map f :=
  get?_map_entries d (fun _ => f) k

theorem get?_set (d : Dict K V) (k : K) (v : V) (k' : K) :
    (d.set k v).get? k' = if k' = k then some v else d.get? k' := by
  by_cases known : k ∈ d.keys
  · rw [set, dif_pos known, get?, get?_map_entries d (fun key old => if key = k then v else old)]
    obtain ⟨old, hold⟩ := mem_keys_iff.1 known
    by_cases same : k' = k
    · simp [same, hold]
    · simp [same]
  · rw [set, dif_neg known, get?, List.find?_append]
    by_cases same : k' = k
    · subst same
      have absent : d.entries.find? (fun p => p.1 = k') = none := by
        simpa [get?] using not_mem_keys_iff.1 known
      simp [absent]
    · have differs : ¬ k = k' := fun eq => same eq.symm
      simp [same, differs, get?]

@[simp] theorem get?_set_self (d : Dict K V) (k : K) (v : V) : (d.set k v).get? k = some v := by
  simp [get?_set]

theorem get?_erase (d : Dict K V) (k k' : K) :
    (d.erase k).get? k' = if k' = k then none else d.get? k' := by
  by_cases same : k' = k
  · subst same
    rw [if_pos rfl, ← not_mem_keys_iff]
    simp [keys, erase]
  · rw [if_neg same]
    refine Option.ext fun v => ?_
    simp [get?_eq_some_iff, erase, same]

/-- A new key goes to the end. -/
theorem values_set_of_new {d : Dict K V} {k : K} (new : d.get? k = none) (v : V) :
    (d.set k v).values = d.values ++ [v] := by
  have unknown : k ∉ d.keys := not_mem_keys_iff.2 new
  rw [set, dif_neg unknown]
  simp [values]

/-- A list with one entry for each key is that entry and the entries of the other keys. -/
theorem perm_cons_filter {entries : List (K × V)}
    (nodup : (entries.map Prod.fst).Nodup) {k : K} {v : V} (member : (k, v) ∈ entries) :
    entries.Perm ((k, v) :: entries.filter fun p => p.1 ≠ k) := by
  induction entries with
  | nil => cases member
  | cons p rest ih =>
      rw [List.map_cons, List.nodup_cons] at nodup
      rcases List.mem_cons.1 member with here | later
      · subst here
        have others : ∀ q ∈ rest, decide (q.1 ≠ k) = true := by
          intro q listed
          have differs : q.1 ≠ k := fun same => nodup.1 (List.mem_map.2 ⟨q, listed, same⟩)
          simpa using differs
        rw [List.filter_cons_of_neg (by simp), List.filter_eq_self.2 others]
      · have differs : p.1 ≠ k := fun same => nodup.1 (List.mem_map.2 ⟨(k, v), later, same.symm⟩)
        rw [List.filter_cons_of_pos (by simpa using differs)]
        exact ((ih nodup.2 later).cons p).trans (List.Perm.swap _ _ _)

/-- The values are that of a key and those of the others. -/
theorem values_perm_erase {d : Dict K V} {k : K} {v : V} (found : d.get? k = some v) :
    d.values.Perm (v :: (d.erase k).values) :=
  (perm_cons_filter d.nodup (get?_eq_some_iff.1 found)).map Prod.snd

/-- Forgetting keys one after the other forgets them all. -/
theorem get?_foldl_erase (ks : List K) (d : Dict K V) (k : K) :
    (ks.foldl erase d).get? k = if k ∈ ks then none else d.get? k := by
  induction ks generalizing d with
  | nil => simp
  | cons j ks ih =>
      rw [List.foldl_cons, ih, get?_erase]
      by_cases later : k ∈ ks
      · simp [later]
      · by_cases same : k = j
        · simp [same]
        · simp [later, same]

theorem keys_set (d : Dict K V) (k : K) (v : V) :
    (d.set k v).keys = if k ∈ d.keys then d.keys else d.keys ++ [k] := by
  unfold set keys
  split
  · simp [List.map_map, Function.comp_def]
  · simp

/-! ### Dictionaries from entries -/

omit [DecidableEq K] in
/-- Keep the entries whose keys have a property. -/
def filterKeys (keep : K → Bool) (d : Dict K V) : Dict K V where
  entries := d.entries.filter fun p => keep p.1
  nodup := d.nodup.sublist (List.filter_sublist.map Prod.fst)

/-- Store the entries one after the other. -/
def ofEntries (entries : List (K × V)) : Dict K V := entries.foldl (fun d p => d.set p.1 p.2) ∅

theorem erase_eq_filterKeys (d : Dict K V) (k : K) : d.erase k = d.filterKeys fun key => key ≠ k := rfl

omit [DecidableEq K] in
theorem entries_filterKeys (keep : K → Bool) (d : Dict K V) :
    (d.filterKeys keep).entries = d.entries.filter fun p => keep p.1 := rfl

omit [DecidableEq K] in
theorem filterKeys_filterKeys (keep keep' : K → Bool) (d : Dict K V) :
    (d.filterKeys keep).filterKeys keep' = d.filterKeys fun k => keep' k && keep k := by
  simp only [filterKeys, List.filter_filter]

omit [DecidableEq K] in
theorem mem_keys_filterKeys {keep : K → Bool} {d : Dict K V} {k : K} :
    k ∈ (d.filterKeys keep).keys ↔ k ∈ d.keys ∧ keep k = true := by
  simp only [keys, filterKeys, List.mem_map, List.mem_filter]
  constructor
  · rintro ⟨p, ⟨listed, kept⟩, rfl⟩
    exact ⟨⟨p, listed, rfl⟩, kept⟩
  · rintro ⟨⟨p, listed, rfl⟩, kept⟩
    exact ⟨p, ⟨listed, kept⟩, rfl⟩

theorem entries_set (d : Dict K V) (k : K) (v : V) :
    (d.set k v).entries =
      if k ∈ d.keys then d.entries.map (fun p => (p.1, if p.1 = k then v else p.2)) else d.entries ++ [(k, v)] := by
  unfold set
  split <;> rfl

/-- A key that is stored is filtered like the others. -/
theorem filterKeys_set (keep : K → Bool) (d : Dict K V) (k : K) (v : V) :
    (d.set k v).filterKeys keep = if keep k then (d.filterKeys keep).set k v else d.filterKeys keep := by
  have entries : ((d.set k v).filterKeys keep).entries =
      (if keep k then (d.filterKeys keep).set k v else d.filterKeys keep).entries := by
    rw [entries_filterKeys, entries_set]
    by_cases kept : keep k = true
    · rw [if_pos kept, entries_set, entries_filterKeys]
      by_cases known : k ∈ d.keys
      · rw [if_pos known, if_pos (mem_keys_filterKeys.mpr ⟨known, kept⟩), List.filter_map]
        rfl
      · rw [if_neg known, if_neg fun listed => known (mem_keys_filterKeys.mp listed).1,
          List.filter_append, List.filter_singleton, kept]
        rfl
    · rw [if_neg kept, entries_filterKeys]
      by_cases known : k ∈ d.keys
      · rw [if_pos known, List.filter_map]
        refine (List.map_congr_left fun p listed => ?_).trans (List.map_id _)
        have differs : p.1 ≠ k := fun same => kept (same ▸ (List.mem_filter.mp listed).2)
        rw [if_neg differs, id_eq]
      · rw [if_neg known, List.filter_append, List.filter_singleton, Bool.eq_false_iff.mpr kept]
        exact List.append_nil _
  cases left : (d.set k v).filterKeys keep
  cases right : if keep k then (d.filterKeys keep).set k v else d.filterKeys keep
  rw [left, right] at entries
  cases entries
  rfl

theorem ofEntries_append (entries : List (K × V)) (p : K × V) :
    ofEntries (entries ++ [p]) = (ofEntries entries).set p.1 p.2 := by
  rw [ofEntries, List.foldl_append, List.foldl_cons, List.foldl_nil, ofEntries]

/-- Entries can be filtered before they are stored. -/
theorem filterKeys_ofEntries (keep : K → Bool) (entries : List (K × V)) :
    (ofEntries entries).filterKeys keep = ofEntries (entries.filter fun p => keep p.1) := by
  induction entries using List.reverseRecOn with
  | nil => rfl
  | append_singleton entries p ih =>
      rw [ofEntries_append, filterKeys_set, ih, List.filter_append, List.filter_singleton]
      cases keep p.1 with
      | true => rw [if_pos rfl, cond_true, ofEntries_append]
      | false => rw [if_neg Bool.false_ne_true, cond_false, List.append_nil]

/-- The keys are those of the entries. -/
theorem mem_keys_ofEntries {entries : List (K × V)} {k : K} :
    k ∈ (ofEntries entries).keys ↔ k ∈ entries.map Prod.fst := by
  induction entries using List.reverseRecOn with
  | nil => exact Iff.rfl
  | append_singleton entries p ih =>
      rw [ofEntries_append, keys_set, List.map_append, List.mem_append, ← ih, List.map_singleton,
        List.mem_singleton]
      split
      · rename_i known
        constructor
        · exact Or.inl
        · rintro (listed | rfl)
          · exact listed
          · exact known
      · rw [List.mem_append, List.mem_singleton]

/-- Entries with different keys stay as they are. -/
theorem entries_ofEntries {entries : List (K × V)} (nodup : (entries.map Prod.fst).Nodup) :
    (ofEntries entries).entries = entries := by
  induction entries using List.reverseRecOn with
  | nil => rfl
  | append_singleton entries p ih =>
      rw [List.map_append, List.map_singleton] at nodup
      have new : p.1 ∉ (ofEntries entries).keys := by
        rw [mem_keys_ofEntries]
        exact fun listed => (List.disjoint_of_nodup_append nodup) listed (List.mem_singleton_self _)
      rw [ofEntries_append, entries_set, if_neg new, ih (List.Nodup.of_append_left nodup)]

/-- Storing entries leaves those with a property of their keys exactly when no key occurs twice and all of them have
    the property. -/
theorem entries_ofEntries_eq_filter_iff (entries : List (K × V)) (keep : K → Bool) :
    (ofEntries entries).entries = entries.filter (fun p => keep p.1) ↔
      (entries.map Prod.fst).Nodup ∧ ∀ p ∈ entries, keep p.1 = true := by
  constructor
  · intro same
    have all : ∀ p ∈ entries, keep p.1 = true := by
      intro p listed
      have key : p.1 ∈ (ofEntries entries).keys := mem_keys_ofEntries.mpr (List.mem_map.mpr ⟨p, listed, rfl⟩)
      rw [keys, same] at key
      obtain ⟨q, kept, sameKey⟩ := List.mem_map.mp key
      rw [← sameKey]
      exact (List.mem_filter.mp kept).2
    rw [List.filter_eq_self.mpr all] at same
    refine ⟨?_, all⟩
    rw [← same]
    exact (ofEntries entries).nodup
  · rintro ⟨nodup, all⟩
    rw [List.filter_eq_self.mpr all, entries_ofEntries nodup]

theorem keys_erase (d : Dict K V) (k : K) : (d.erase k).keys = d.keys.filter (· ≠ k) := by
  simp [keys, erase, List.filter_map, Function.comp_def]

/-- A dictionary is determined by the order of its keys and by its lookups. -/
theorem ext_of_keys {d e : Dict K V} (keys : d.keys = e.keys) (lookups : ∀ k, d.get? k = e.get? k) :
    d = e := by
  have entriesOf : ∀ f : Dict K V,
      f.entries = f.keys.filterMap fun k => (f.get? k).map fun v => (k, v) := by
    intro f
    have found : ∀ p ∈ f.entries, (f.get? p.1).map (fun v => (p.1, v)) = some p := by
      intro p listed
      rw [get?_eq_some_iff.2 listed]
      rfl
    rw [Dict.keys, List.filterMap_map]
    refine (List.filterMap_some.symm.trans ?_)
    exact List.filterMap_congr fun p listed => (found p listed).symm
  have same : d.entries = e.entries := by
    rw [entriesOf d, entriesOf e, keys]
    simp only [lookups]
  cases d
  cases e
  cases same
  rfl

omit [DecidableEq K] in
@[simp] theorem keys_mapValues (d : Dict K V) (f : V → V) : (d.mapValues f).keys = d.keys := by
  simp [keys, mapValues, List.map_map, Function.comp_def]

/-- Whether some value has a property, read off one key and the rest. -/
theorem exists_mem_values_iff {P : V → Prop} (d : Dict K V) (k : K) :
    (∃ v ∈ d.values, P v) ↔ (∃ v, d.get? k = some v ∧ P v) ∨ ∃ v ∈ (d.erase k).values, P v := by
  simp only [mem_values_iff, get?_erase]
  constructor
  · rintro ⟨v, ⟨key, found⟩, holds⟩
    by_cases same : key = k
    · subst same
      exact Or.inl ⟨v, found, holds⟩
    · exact Or.inr ⟨v, ⟨key, (if_neg same).trans found⟩, holds⟩
  · rintro (⟨v, found, holds⟩ | ⟨v, ⟨key, found⟩, holds⟩)
    · exact ⟨v, ⟨k, found⟩, holds⟩
    · split at found
      · cases found
      · exact ⟨v, ⟨key, found⟩, holds⟩

/-- Whether some value has a property after one key was set. -/
theorem exists_mem_values_set {P : V → Prop} (d : Dict K V) (k : K) (v : V) :
    (∃ x ∈ (d.set k v).values, P x) ↔ P v ∨ ∃ x ∈ (d.erase k).values, P x := by
  rw [exists_mem_values_iff (d.set k v) k, get?_set_self]
  have rest : (∃ x ∈ ((d.set k v).erase k).values, P x) ↔ ∃ x ∈ (d.erase k).values, P x := by
    simp only [mem_values_iff, get?_erase, get?_set]
    have same : ∀ key x, (if key = k then none else if key = k then some v else d.get? key) = some x ↔
        (if key = k then none else d.get? key) = some x := by
      intro key x
      split
      · rfl
      · rfl
    simp only [same]
  rw [rest]
  simp

end Dict
