/-
Module: CachePilot.Proofs.RequestTargets
Layer: Proofs
Purpose: What a forward keeps of the target of a request. The leading slashes of the path are taken off and one is
  put back in front of what is left, so the target is kept exactly when its path has one leading slash and goes on
  behind it; two targets meet in one URL when they differ in their leading slashes only.
Trusted boundary: none
Main exports: RequestTarget.text, RequestTarget.Kept, RequestTarget.singleSlash, forwardedUrl_eq_iff,
  request_targets_kept_iff
-/
import CachePilot.Proofs.EndpointIdentity
import CachePilot.Relay.Headers

namespace CachePilot

/-! ### Marked parts -/

/-- A text and a marked part behind it are known from the two together. -/
theorem append_marked_inj {mark : Char} {front front' : List Char} (absent : mark ∉ front) (absent' : mark ∉ front')
    {part part' : Option (List Char)} (same : front ++ marked mark part = front' ++ marked mark part') :
    front = front' ∧ part = part' := by
  have fronts : front = front' := by
    rw [← beforeFirst_marked absent part, same, beforeFirst_marked absent' part']
  rw [fronts, List.append_cancel_left_eq] at same
  refine ⟨fronts, ?_⟩
  cases part with
  | none =>
      cases part' with
      | none => rfl
      | some text => cases same
  | some text =>
      cases part' with
      | none => cases same
      | some text' => exact congrArg some (List.cons.inj same).2

/-- A text that is there unless it is empty. -/
def unlessEmpty (text : List Char) : Option (List Char) := if text = [] then none else some text

theorem unlessEmpty_inj {text text' : List Char} (same : unlessEmpty text = unlessEmpty text') : text = text' := by
  unfold unlessEmpty at same
  split at same
  · rename_i empty
    split at same
    · rename_i empty'
      exact empty.trans empty'.symm
    · cases same
  · split at same
    · cases same
    · exact Option.some.inj same

/-! ### The parts of a target -/

namespace RequestTarget

/-- The path, and the query behind its mark when there is one. -/
def text (t : RequestTarget) : List Char := t.path ++ marked '?' (unlessEmpty t.query)

/-- What is left of the path behind its leading slashes. -/
def rest (t : RequestTarget) : List Char := t.path.dropWhile (· = '/')

/-- The path is a slash with another character behind it. -/
def singleSlash (t : RequestTarget) : Bool := t.path[1]?.any (· ≠ '/')

/-- The forward requests the base without its trailing slashes and exactly the target behind it. -/
def Kept (base : List Char) (t : RequestTarget) : Prop :=
  forwardedUrl base t = base.rdropWhile (· = '/') ++ t.text

/-- The path starts with a slash. -/
theorem path_eq_cons (t : RequestTarget) : ∃ tail, t.path = '/' :: tail := by
  have rooted := t.path_rooted
  cases known : t.path with
  | nil =>
      rw [known] at rooted
      cases rooted
  | cons c tail =>
      rw [known] at rooted
      exact ⟨tail, congrArg (· :: tail) (Option.some.inj rooted)⟩

theorem rest_eq {t : RequestTarget} {tail : List Char} (known : t.path = '/' :: tail) :
    t.rest = tail.dropWhile (· = '/') := by
  rw [rest, known]
  rfl

theorem not_mem_rest (t : RequestTarget) : '?' ∉ t.rest :=
  fun listed => t.path_plain ((List.dropWhile_sublist _).subset listed)

/-- One leading slash is what the path has in front of its rest, when there is a rest and no other slash. -/
theorem singleSlash_iff (t : RequestTarget) : t.singleSlash = true ↔ t.rest ≠ [] ∧ t.path = '/' :: t.rest := by
  obtain ⟨tail, known⟩ := t.path_eq_cons
  rw [singleSlash, rest_eq known, known]
  cases tail with
  | nil => simp
  | cons c tail =>
      by_cases slash : c = '/'
      · subst slash
        have shorter : ('/' :: tail).dropWhile (· = '/') ≠ '/' :: tail := by
          intro same
          have lengths := congrArg List.length same
          have bound := (List.dropWhile_sublist (l := tail) (· = '/')).length_le
          rw [List.dropWhile_cons_of_pos (by decide), List.length_cons] at lengths
          omega
        constructor
        · intro other
          simp at other
        · rintro ⟨-, same⟩
          exact absurd (List.cons.inj same).2.symm shorter
      · rw [List.dropWhile_cons_of_neg (by simpa using slash)]
        simp [slash]

end RequestTarget

/-! ### The URL of a forward -/

/-- The path of the URL of a forward behind the base. -/
def joinedPath (rest : List Char) : List Char := if rest = [] then [] else '/' :: rest

theorem forwardedUrl_eq (base : List Char) (t : RequestTarget) :
    forwardedUrl base t =
      base.rdropWhile (· = '/') ++ (joinedPath t.rest ++ marked '?' (unlessEmpty t.query)) := by
  rw [forwardedUrl, buildUpstreamUrl, joinedPath, unlessEmpty, RequestTarget.rest, ← List.append_assoc]
  split <;> split <;> simp [marked]

theorem joinedPath_inj {rest rest' : List Char} (same : joinedPath rest = joinedPath rest') : rest = rest' := by
  unfold joinedPath at same
  split at same
  · rename_i empty
    split at same
    · rename_i empty'
      exact empty.trans empty'.symm
    · cases same
  · split at same
    · cases same
    · exact (List.cons.inj same).2

theorem not_mem_joinedPath (t : RequestTarget) : '?' ∉ joinedPath t.rest := by
  unfold joinedPath
  split
  · exact List.not_mem_nil
  · rw [List.mem_cons, not_or]
    exact ⟨by decide, t.not_mem_rest⟩

/-- Two targets meet in one URL when their queries are the same and their paths differ at most in the number of
    leading slashes. -/
theorem forwardedUrl_eq_iff (base : List Char) (t u : RequestTarget) :
    forwardedUrl base t = forwardedUrl base u ↔ t.rest = u.rest ∧ t.query = u.query := by
  rw [forwardedUrl_eq, forwardedUrl_eq, List.append_cancel_left_eq]
  constructor
  · intro same
    obtain ⟨paths, queries⟩ := append_marked_inj (not_mem_joinedPath t) (not_mem_joinedPath u) same
    exact ⟨joinedPath_inj paths, unlessEmpty_inj queries⟩
  · rintro ⟨paths, queries⟩
    rw [paths, queries]

/-- A target is kept when its path has one leading slash and goes on behind it. -/
theorem RequestTarget.kept_iff (base : List Char) (t : RequestTarget) : t.Kept base ↔ t.singleSlash = true := by
  rw [Kept, forwardedUrl_eq, text, List.append_cancel_left_eq, List.append_cancel_right_eq, singleSlash_iff, joinedPath]
  obtain ⟨tail, known⟩ := t.path_eq_cons
  split
  · rename_i empty
    rw [known]
    simp [empty]
  · rename_i nonempty
    exact ⟨fun same => ⟨nonempty, same.symm⟩, fun kept => kept.2.symm⟩

/-- Two targets that are kept are the same when their URLs are. -/
theorem RequestTarget.eq_of_kept {t u : RequestTarget} (single : t.singleSlash = true) (single' : u.singleSlash = true)
    {base : List Char} (same : forwardedUrl base t = forwardedUrl base u) : t = u := by
  obtain ⟨rests, queries⟩ := (forwardedUrl_eq_iff base t u).mp same
  rw [RequestTarget.mk.injEq]
  exact ⟨by rw [(singleSlash_iff t).mp single |>.2, (singleSlash_iff u).mp single' |>.2, rests], queries⟩

/-- For every base and every two targets: both are kept, and they are the same if one URL is requested for them,
    exactly when both paths are a slash with another character behind it. -/
theorem request_targets_kept_iff (base : List Char) (t u : RequestTarget) :
    (t.Kept base ∧ u.Kept base ∧ (forwardedUrl base t = forwardedUrl base u → t = u)) ↔
      t.singleSlash = true ∧ u.singleSlash = true := by
  constructor
  · rintro ⟨kept, kept', -⟩
    exact ⟨(t.kept_iff base).mp kept, (u.kept_iff base).mp kept'⟩
  · rintro ⟨single, single'⟩
    exact ⟨(t.kept_iff base).mpr single, (u.kept_iff base).mpr single', RequestTarget.eq_of_kept single single'⟩

/-- The path `/models`. -/
def modelsTarget : RequestTarget where
  path := "/models".toList
  path_rooted := by decide
  path_plain := by decide

/-- The path `//models`. -/
def doubledTarget : RequestTarget where
  path := "//models".toList
  path_rooted := by decide
  path_plain := by decide

/-- A path with two leading slashes is not kept: it is forwarded to the URL of the path with one. -/
theorem doubled_slash_collapses :
    ¬ (∀ base : List Char, '?' ∉ base → ∀ t u : RequestTarget,
      t.Kept base ∧ (forwardedUrl base t = forwardedUrl base u → t = u)) := by
  intro faithful
  have separate := (faithful "https://host/api/v1".toList (by decide) doubledTarget modelsTarget).2
  exact absurd (separate (by decide)) (by decide)

end CachePilot
