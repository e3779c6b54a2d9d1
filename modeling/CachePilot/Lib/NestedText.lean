/-
Module: CachePilot.Lib.NestedText
Layer: Lib
Purpose: Texts with brackets and string literals. A scanner reads a text up to the first comma or closing bracket
  that stands outside its brackets and literals. A closed text is passed through at every depth, so the scanner
  reads a closed item back from a list; a list of closed items can be told from every other one.
Trusted boundary: none
Main exports: NestedText.token, NestedText.Closed, NestedText.closed_quote, NestedText.closed_bracketed,
  NestedText.joined_inj
-/
import CachePilot.Lib.QuotedText
import Mathlib.Data.List.Basic

namespace NestedText

open QuotedText

/-- Where the scanner is: between values, inside a literal, or behind a backslash. -/
inductive Mode where
  | plain
  | quoted
  | escaped

def Opening (c : Char) : Prop := c = '[' ∨ c = '\x7b'

def Closing (c : Char) : Prop := c = ']' ∨ c = '\x7d'

instance (c : Char) : Decidable (Opening c) := inferInstanceAs (Decidable (_ ∨ _))

instance (c : Char) : Decidable (Closing c) := inferInstanceAs (Decidable (_ ∨ _))

/-- The text up to the first comma or closing bracket that is not inside brackets or a literal. -/
def token : Mode → ℕ → List Char → List Char
  | _, _, [] => []
  | .escaped, depth, c :: rest => c :: token .quoted depth rest
  | .quoted, depth, c :: rest =>
      if c = '"' then c :: token .plain depth rest
      else if c = '\\' then c :: token .escaped depth rest
      else c :: token .quoted depth rest
  | .plain, depth, c :: rest =>
      if c = '"' then c :: token .quoted depth rest
      else if Opening c then c :: token .plain (depth + 1) rest
      else if Closing c then if depth = 0 then [] else c :: token .plain (depth - 1) rest
      else if c = ',' ∧ depth = 0 then []
      else c :: token .plain depth rest

/-- The scanner passes through the text, at every depth. -/
def Closed (text : List Char) : Prop :=
  ∀ depth rest, token .plain depth (text ++ rest) = text ++ token .plain depth rest

/-- The scanner passes through the text when it is inside brackets. -/
def Inner (text : List Char) : Prop :=
  ∀ depth rest, token .plain (depth + 1) (text ++ rest) = text ++ token .plain (depth + 1) rest

/-- A character without a meaning for the scanner. -/
def Ordinary (c : Char) : Prop := c ≠ '"' ∧ ¬ Opening c ∧ ¬ Closing c ∧ c ≠ ','

instance (c : Char) : Decidable (Ordinary c) := inferInstanceAs (Decidable (_ ∧ _))

/-! ### Closed texts -/

theorem Closed.inner {text : List Char} (closed : Closed text) : Inner text :=
  fun depth rest => closed (depth + 1) rest

theorem closed_nil : Closed [] := fun _ _ => rfl

theorem Closed.append {s t : List Char} (first : Closed s) (second : Closed t) : Closed (s ++ t) := by
  intro depth rest
  rw [List.append_assoc, first, second, List.append_assoc]

theorem Inner.append {s t : List Char} (first : Inner s) (second : Inner t) : Inner (s ++ t) := by
  intro depth rest
  rw [List.append_assoc, first, second, List.append_assoc]

theorem closed_singleton {c : Char} (ordinary : Ordinary c) : Closed [c] := by
  obtain ⟨quote, opening, closing, comma⟩ := ordinary
  intro depth rest
  rw [List.singleton_append, token, if_neg quote, if_neg opening, if_neg closing,
    if_neg fun separates => comma separates.1]
  rfl

theorem closed_of_ordinary {text : List Char} (ordinary : ∀ c ∈ text, Ordinary c) : Closed text := by
  induction text with
  | nil => exact closed_nil
  | cons c text ih =>
      rw [List.forall_mem_cons] at ordinary
      exact (closed_singleton ordinary.1).append (ih ordinary.2)

/-- A text that is not empty and has no meaning for the scanner. -/
def Plain (text : List Char) : Prop := text ≠ [] ∧ ∀ c ∈ text, Ordinary c

instance (text : List Char) : Decidable (Plain text) :=
  @instDecidableAnd _ _ inferInstance (List.decidableBAll Ordinary text)

theorem Plain.closed {text : List Char} (plain : Plain text) : Closed text := closed_of_ordinary plain.2

theorem inner_comma : Inner [','] := fun _ _ => rfl

/-- Items with commas between them stay inside their brackets. -/
theorem inner_joinWith {items : List (List Char)} (closed : ∀ item ∈ items, Closed item) :
    Inner (joinWith [','] items) := by
  cases items with
  | nil => exact closed_nil.inner
  | cons item items =>
      rw [List.forall_mem_cons] at closed
      rw [joinWith_cons]
      refine closed.1.inner.append ?_
      induction items with
      | nil => exact closed_nil.inner
      | cons next items ih =>
          obtain ⟨first, second, others⟩ := And.imp_right List.forall_mem_cons.1 closed
          rw [List.flatMap_cons]
          exact (inner_comma.append second.inner).append (ih ⟨first, others⟩)

/-- What is inside a pair of brackets is closed by them. -/
theorem closed_bracketed {opening closing : Char} {text : List Char} (opens : Opening opening)
    (closes : Closing closing) (inner : Inner text) : Closed (opening :: (text ++ [closing])) := by
  intro depth rest
  have unquoted : opening ≠ '"' := by
    rintro rfl
    revert opens
    decide
  have unquoted' : closing ≠ '"' := by
    rintro rfl
    revert closes
    decide
  have unopened : ¬ Opening closing := by
    rcases closes with rfl | rfl
    · decide
    · decide
  rw [List.cons_append, List.append_assoc, token, if_neg unquoted, if_pos opens, inner, List.singleton_append,
    token, if_neg unquoted', if_neg unopened, if_pos closes, if_neg (Nat.succ_ne_zero depth),
    Nat.add_sub_cancel]
  simp

/-! ### Literals -/

/-- The scanner stays inside a literal. -/
def Quoted (text : List Char) : Prop :=
  ∀ depth rest, token .quoted depth (text ++ rest) = text ++ token .quoted depth rest

theorem quoted_singleton {c : Char} (unquoted : c ≠ '"') (unescaped : c ≠ '\\') : Quoted [c] := by
  intro depth rest
  rw [List.singleton_append, token, if_neg unquoted, if_neg unescaped]
  rfl

theorem quoted_escape (c : Char) : Quoted ['\\', c] := fun _ _ => rfl

theorem Quoted.append {s t : List Char} (first : Quoted s) (second : Quoted t) : Quoted (s ++ t) := by
  intro depth rest
  rw [List.append_assoc, first, second, List.append_assoc]

theorem quoted_hexDigit (n : ℕ) : Quoted [hexDigit n] := by
  have digit : hexDigit n ∈ "0123456789abcdef".toList := by
    unfold hexDigit
    rw [List.getD_eq_getElem?_getD]
    cases found : "0123456789abcdef".toList[n]? with
    | none => decide
    | some c => exact List.mem_of_getElem? found
  have unquoted : List.Forall (fun c => c ≠ '"' ∧ c ≠ '\\') "0123456789abcdef".toList := by decide
  obtain ⟨quote, backslash⟩ := List.forall_iff_forall_mem.1 unquoted _ digit
  exact quoted_singleton quote backslash

theorem quoted_unitEscape (n : ℕ) : Quoted (unitEscape n) :=
  (quoted_escape 'u').append <| (quoted_hexDigit _).append <| (quoted_hexDigit _).append <|
    (quoted_hexDigit _).append (quoted_hexDigit _)

/-- A character is written inside its literal. -/
theorem quoted_escapeChar (c : Char) : Quoted (escapeChar c) := by
  unfold escapeChar
  split
  · exact quoted_escape '"'
  split
  · exact quoted_escape '\\'
  split
  · exact quoted_escape 'n'
  split
  · exact quoted_escape 'r'
  split
  · exact quoted_escape 't'
  split
  · exact quoted_escape 'f'
  split
  · exact quoted_escape 'b'
  split
  · rename_i unquoted unescaped _ _ _ _ _ _
    exact quoted_singleton unquoted unescaped
  split
  · exact quoted_unitEscape _
  · exact (quoted_unitEscape _).append (quoted_unitEscape _)

/-- A literal is closed. -/
theorem closed_quote (s : List Char) : Closed (quote s) := by
  have body : Quoted (s.flatMap escapeChar) := by
    induction s with
    | nil => exact fun _ _ => rfl
    | cons c s ih =>
        rw [List.flatMap_cons]
        exact (quoted_escapeChar c).append ih
  intro depth rest
  rw [quote, List.cons_append, List.append_assoc, token, if_pos rfl, body, List.singleton_append, token,
    if_pos rfl]
  simp

/-! ### Lists of closed items -/

/-- A comma or a closing bracket. -/
def Stop (c : Char) : Prop := c = ',' ∨ Closing c

theorem token_stop {c : Char} (stop : Stop c) (rest : List Char) : token .plain 0 (c :: rest) = [] := by
  rcases stop with rfl | rfl | rfl
  · rfl
  · rfl
  · rfl

/-- A closed item is read back up to the stop behind it. -/
theorem Closed.token_eq {item : List Char} (closed : Closed item) {c : Char} (stop : Stop c)
    (rest : List Char) : token .plain 0 (item ++ c :: rest) = item := by
  rw [closed, token_stop stop, List.append_nil]

/-- What stands behind an item: the other items behind their commas, and the closing bracket. -/
def behind (close : Char) (items : List (List Char)) : List Char :=
  (items.flatMap fun item => ',' :: item) ++ [close]

theorem behind_eq_cons {close : Char} (closes : Closing close) (items : List (List Char)) :
    ∃ c rest, Stop c ∧ behind close items = c :: rest := by
  cases items with
  | nil => exact ⟨close, [], Or.inr closes, rfl⟩
  | cons item items => exact ⟨',', _, Or.inl rfl, by rw [behind, List.flatMap_cons, List.append_assoc]; rfl⟩

/-- The first of two closed items with a list behind it. -/
theorem first_inj {close : Char} (closes : Closing close) {x y : List Char} (closed : Closed x)
    (closed' : Closed y) {xs ys : List (List Char)} (same : x ++ behind close xs = y ++ behind close ys) :
    x = y ∧ behind close xs = behind close ys := by
  obtain ⟨c, rest, stop, shape⟩ := behind_eq_cons closes xs
  obtain ⟨c', rest', stop', shape'⟩ := behind_eq_cons closes ys
  have items : x = y := by
    have read := congrArg (token .plain 0) same
    rw [shape, shape', closed.token_eq stop, closed'.token_eq stop'] at read
    exact read
  subst items
  exact ⟨rfl, List.append_cancel_left same⟩

theorem behind_inj {close : Char} (closes : Closing close) {xs ys : List (List Char)}
    (closed : ∀ x ∈ xs, Closed x) (closed' : ∀ y ∈ ys, Closed y) (same : behind close xs = behind close ys) :
    xs = ys := by
  have comma : ',' ≠ close := by
    rintro rfl
    revert closes
    decide
  induction xs generalizing ys with
  | nil =>
      cases ys with
      | nil => rfl
      | cons y ys => exact absurd (List.cons.inj same).1.symm comma
  | cons x xs ih =>
      cases ys with
      | nil => exact absurd (List.cons.inj same).1 comma
      | cons y ys =>
          rw [List.forall_mem_cons] at closed closed'
          have texts : x ++ behind close xs = y ++ behind close ys := by
            simpa [behind] using same
          obtain ⟨rfl, later⟩ := first_inj closes closed.1 closed'.1 texts
          rw [ih closed.2 closed'.2 later]

theorem joinWith_behind (close : Char) (item : List Char) (items : List (List Char)) :
    joinWith [','] (item :: items) ++ [close] = item ++ behind close items := by
  rw [joinWith_cons, List.append_assoc]
  rfl

/-- Closed items that are not empty can be read back from their list. -/
theorem joined_inj {close : Char} (closes : Closing close) {xs ys : List (List Char)}
    (closed : ∀ x ∈ xs, Closed x ∧ x ≠ []) (closed' : ∀ y ∈ ys, Closed y ∧ y ≠ [])
    (same : joinWith [','] xs ++ [close] = joinWith [','] ys ++ [close]) : xs = ys := by
  have unlisted : ∀ item items, Closed item → item ≠ [] →
      [close] ≠ joinWith [','] (item :: items) ++ [close] := by
    intro item items closed filled listed
    rw [joinWith_behind] at listed
    have nothing : ([] : List Char) ++ behind close [] = item ++ behind close items := listed
    exact filled (first_inj closes closed_nil closed nothing).1.symm
  cases xs with
  | nil =>
      cases ys with
      | nil => rfl
      | cons y ys =>
          rw [List.forall_mem_cons] at closed'
          exact absurd same (unlisted y ys closed'.1.1 closed'.1.2)
  | cons x xs =>
      rw [List.forall_mem_cons] at closed
      cases ys with
      | nil => exact absurd same.symm (unlisted x xs closed.1.1 closed.1.2)
      | cons y ys =>
          rw [List.forall_mem_cons] at closed'
          rw [joinWith_behind, joinWith_behind] at same
          obtain ⟨rfl, later⟩ := first_inj closes closed.1.1 closed'.1.1 same
          rw [behind_inj closes (fun x listed => (closed.2 x listed).1) (fun y listed => (closed'.2 y listed).1)
            later]

end NestedText
