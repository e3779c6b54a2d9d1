/-
Module: CachePilot.Lib.TextArray
Layer: Lib
Purpose: Arrays of texts in JSON, as they are written and read back. A literal is read up to its closing quote, and
  an array item by item.
Trusted boundary: none
Main exports: QuotedText.readQuote, QuotedText.readQuote_quote, QuotedText.writeTexts, QuotedText.readTexts,
  QuotedText.readTexts_writeTexts
-/
import CachePilot.Lib.QuotedText

namespace QuotedText

/-- Read a literal behind its opening quote. -/
def readBody : ℕ → List Char → Option (List Char × List Char)
  | 0, _ => none
  | _ + 1, '"' :: rest => some ([], rest)
  | fuel + 1, text => do
      let (c, rest) ← readChar text
      let (body, rest) ← readBody fuel rest
      some (c :: body, rest)

/-- Read a literal from the front of a text. -/
def readQuote : List Char → Option (List Char × List Char)
  | '"' :: rest => readBody rest.length rest
  | _ => none

/-- One more character is read while the text does not begin with a quote. -/
theorem readBody_succ {fuel : ℕ} {text : List Char} (unquoted : ∀ rest, text ≠ '"' :: rest) :
    readBody (fuel + 1) text =
      (readChar text).bind fun read => (readBody fuel read.2).bind fun more =>
        some (read.1 :: more.1, more.2) := by
  rw [readBody]
  · rfl
  · exact fun rest same => unquoted rest same

theorem length_escapeChar_pos (c : Char) : 0 < (escapeChar c).length := by
  refine List.length_pos_iff.mpr fun empty => ?_
  have read := readChar_escapeChar c []
  rw [empty] at read
  cases read

/-- A body is read up to the closing quote, if the fuel covers the text. -/
theorem readBody_flatMap (s rest : List Char) :
    ∀ {fuel : ℕ}, (s.flatMap escapeChar).length < fuel →
      readBody fuel (s.flatMap escapeChar ++ '"' :: rest) = some (s, rest) := by
  induction s with
  | nil =>
      intro fuel enough
      cases fuel with
      | zero => exact absurd enough (Nat.not_lt_zero _)
      | succ fuel => rfl
  | cons c s ih =>
      intro fuel enough
      have wide := length_escapeChar_pos c
      rw [List.flatMap_cons, List.length_append] at enough
      cases fuel with
      | zero => exact absurd enough (Nat.not_lt_zero _)
      | succ fuel =>
          have shorter : (s.flatMap escapeChar).length < fuel := by omega
          have later := ih shorter
          rw [List.flatMap_cons, List.append_assoc, readBody_succ fun rest => escapeChar_ne_quote c _ rest,
            readChar_escapeChar, Option.bind_some]
          dsimp only
          rw [later]
          rfl

/-- A literal is read back in front of another text. -/
theorem readQuote_quote (s rest : List Char) : readQuote (quote s ++ rest) = some (s, rest) := by
  have shape : quote s ++ rest = '"' :: (s.flatMap escapeChar ++ '"' :: rest) := by
    simp [quote]
  rw [shape, readQuote]
  refine readBody_flatMap s rest ?_
  rw [List.length_append, List.length_cons]
  omega

/-! ### Arrays -/

/-- An array of texts, with a comma and a blank between them. -/
def writeTexts (texts : List (List Char)) : List Char :=
  '[' :: (joinWith [',', ' '] (texts.map quote) ++ [']'])

/-- Read the items of an array that is not empty, and its closing bracket. -/
def readItems : ℕ → List Char → Option (List (List Char))
  | 0, _ => none
  | fuel + 1, text =>
      match readQuote text with
      | some (item, [']']) => some [item]
      | some (item, ',' :: ' ' :: rest) => (readItems fuel rest).map (item :: ·)
      | _ => none

/-- Read an array of texts in the form in which it is written. -/
def readTexts : List Char → Option (List (List Char))
  | ['[', ']'] => some []
  | '[' :: rest => readItems rest.length rest
  | _ => none

theorem readItems_joinWith (text : List Char) (texts : List (List Char)) :
    ∀ {fuel : ℕ}, texts.length < fuel →
      readItems fuel (joinWith [',', ' '] ((text :: texts).map quote) ++ [']']) = some (text :: texts) := by
  induction texts generalizing text with
  | nil =>
      intro fuel enough
      cases fuel with
      | zero => exact absurd enough (Nat.not_lt_zero _)
      | succ fuel =>
          have shape : joinWith [',', ' '] ([text].map quote) ++ [']'] = quote text ++ [']'] := rfl
          rw [shape, readItems, readQuote_quote]
          rfl
  | cons next texts ih =>
      intro fuel enough
      cases fuel with
      | zero => exact absurd enough (Nat.not_lt_zero _)
      | succ fuel =>
          have fewer : texts.length < fuel := by
            rw [List.length_cons] at enough
            omega
          have later := ih next fewer
          have shape : joinWith [',', ' '] ((text :: next :: texts).map quote) ++ [']'] =
              quote text ++ ',' :: ' ' :: (joinWith [',', ' '] ((next :: texts).map quote) ++ [']']) := by
            simp [joinWith]
          rw [shape, readItems, readQuote_quote]
          exact congrArg (Option.map (text :: ·)) later

theorem length_joinWith_quote (text : List Char) (texts : List (List Char)) :
    texts.length < (joinWith [',', ' '] ((text :: texts).map quote) ++ [']']).length := by
  induction texts generalizing text with
  | nil => simp
  | cons next texts ih =>
      have later := ih next
      have shape : joinWith [',', ' '] ((text :: next :: texts).map quote) ++ [']'] =
          quote text ++ ',' :: ' ' :: (joinWith [',', ' '] ((next :: texts).map quote) ++ [']']) := by
        simp [joinWith]
      rw [shape, List.length_append, List.length_cons, List.length_cons, List.length_cons]
      omega

/-- An array of texts is read back. -/
theorem readTexts_writeTexts (texts : List (List Char)) : readTexts (writeTexts texts) = some texts := by
  cases texts with
  | nil => rfl
  | cons text texts =>
      have literal : ∃ more, joinWith [',', ' '] ((text :: texts).map quote) ++ [']'] = '"' :: more := by
        cases texts with
        | nil => exact ⟨_, rfl⟩
        | cons next texts => exact ⟨_, rfl⟩
      obtain ⟨more, shape⟩ := literal
      have read := readItems_joinWith text texts (length_joinWith_quote text texts)
      rw [shape] at read
      rw [writeTexts, shape]
      exact read

end QuotedText
