/-
Module: CachePilot.Lib.QuotedText
Layer: Lib
Purpose: JSON string literals in ASCII: quotes, backslashes and control characters are escaped, and every
  character outside the printable ASCII range is written as one or two UTF-16 code units in hexadecimal.
  The reader of one character takes back what was written, whatever follows it; so a literal ends where it
  ends, and different texts have different literals, also in front of other text. Joined texts that are
  delimited in this way can be told apart in the same manner.
Trusted boundary: none
Main exports: QuotedText.escapeChar, QuotedText.quote, QuotedText.joinWith, QuotedText.readChar_escapeChar,
  QuotedText.Delimited, QuotedText.delimited_quote, QuotedText.joinWith_inj
-/
import Mathlib.Data.Set.Basic
import Mathlib.Tactic.Common
import Mathlib.Tactic.IntervalCases

namespace QuotedText

/-- The lower-case digit of a value below sixteen. -/
def hexDigit (n : ℕ) : Char := "0123456789abcdef".toList.getD n '0'

/-- One UTF-16 code unit, with four digits. -/
def unitEscape (n : ℕ) : List Char :=
  ['\\', 'u', hexDigit (n / 4096 % 16), hexDigit (n / 256 % 16), hexDigit (n / 16 % 16),
    hexDigit (n % 16)]

/-- How one character is written inside a literal. -/
def escapeChar (c : Char) : List Char :=
  if c = '"' then ['\\', '"']
  else if c = '\\' then ['\\', '\\']
  else if c = '\n' then ['\\', 'n']
  else if c = '\r' then ['\\', 'r']
  else if c = '\t' then ['\\', 't']
  else if c = '\x0c' then ['\\', 'f']
  else if c = '\x08' then ['\\', 'b']
  else if 32 ≤ c.toNat ∧ c.toNat ≤ 126 then [c]
  else if c.toNat < 65536 then unitEscape c.toNat
  else unitEscape (55296 + (c.toNat - 65536) / 1024) ++ unitEscape (56320 + (c.toNat - 65536) % 1024)

/-- A string literal. -/
def quote (s : List Char) : List Char := '"' :: (s.flatMap escapeChar ++ ['"'])

/-- Texts with a separator between them. -/
def joinWith (separator : List Char) : List (List Char) → List Char
  | [] => []
  | [text] => text
  | text :: next :: rest => text ++ separator ++ joinWith separator (next :: rest)

/-! ### Reading a character back -/

/-- The value of a digit. -/
def hexValue (c : Char) : ℕ := "0123456789abcdef".toList.idxOf c

/-- Four digits from the front. -/
def readUnit : List Char → Option (ℕ × List Char)
  | a :: b :: c :: d :: rest =>
      some (hexValue a * 4096 + hexValue b * 256 + hexValue c * 16 + hexValue d, rest)
  | _ => none

/-- The second unit of a pair, behind its own backslash. -/
def readLowUnit : List Char → Option (ℕ × List Char)
  | '\\' :: 'u' :: rest => readUnit rest
  | _ => none

/-- A character that was written in code units, without the first backslash. -/
def readUnits (text : List Char) : Option (Char × List Char) :=
  match readUnit text with
  | none => none
  | some (high, rest) =>
      if 55296 ≤ high ∧ high < 56320 then
        (readLowUnit rest).map fun unit =>
          (Char.ofNat (65536 + (high - 55296) * 1024 + (unit.1 - 56320)), unit.2)
      else some (Char.ofNat high, rest)

/-- The characters that stand for another one behind a backslash. -/
def shortEscapes : List (Char × Char) :=
  [('"', '"'), ('\\', '\\'), ('n', '\n'), ('r', '\r'), ('t', '\t'), ('f', '\x0c'), ('b', '\x08')]

/-- One character of a literal from the front of a text. -/
def readChar : List Char → Option (Char × List Char)
  | [] => none
  | c :: rest =>
      if c = '\\' then
        match rest with
        | [] => none
        | e :: rest =>
            if e = 'u' then readUnits rest else (shortEscapes.lookup e).map fun c => (c, rest)
      else some (c, rest)

theorem hexValue_hexDigit {n : ℕ} (small : n < 16) : hexValue (hexDigit n) = n := by
  interval_cases n <;> decide

theorem readUnit_unitEscape {n : ℕ} (small : n < 65536) (rest : List Char) :
    readUnit ((unitEscape n).drop 2 ++ rest) = some (n, rest) := by
  have first : hexValue (hexDigit (n / 4096 % 16)) = n / 4096 % 16 :=
    hexValue_hexDigit (Nat.mod_lt _ (by decide))
  have second : hexValue (hexDigit (n / 256 % 16)) = n / 256 % 16 :=
    hexValue_hexDigit (Nat.mod_lt _ (by decide))
  have third : hexValue (hexDigit (n / 16 % 16)) = n / 16 % 16 :=
    hexValue_hexDigit (Nat.mod_lt _ (by decide))
  have last : hexValue (hexDigit (n % 16)) = n % 16 := hexValue_hexDigit (Nat.mod_lt _ (by decide))
  change some (_, rest) = some (n, rest)
  rw [first, second, third, last]
  congr 2
  omega

/-- What is behind the backslash and the letter of a character written in code units. -/
def unitsOf (c : Char) : List Char :=
  if c.toNat < 65536 then (unitEscape c.toNat).drop 2
  else (unitEscape (55296 + (c.toNat - 65536) / 1024)).drop 2 ++
    unitEscape (56320 + (c.toNat - 65536) % 1024)

theorem toNat_lt (c : Char) : c.toNat < 1114112 := by
  rcases c.valid with below | ⟨-, bound⟩
  · exact lt_of_lt_of_le below (by decide)
  · exact bound

/-- No character is a surrogate. -/
theorem not_surrogate (c : Char) : ¬ (55296 ≤ c.toNat ∧ c.toNat < 56320) := by
  rintro ⟨low, high⟩
  rcases c.valid with below | ⟨above, -⟩
  · have bound : c.toNat < 55296 := below
    omega
  · have bound : 57343 < c.toNat := above
    omega

theorem readUnits_unitsOf (c : Char) (rest : List Char) :
    readUnits (unitsOf c ++ rest) = some (c, rest) := by
  unfold readUnits unitsOf
  by_cases small : c.toNat < 65536
  · rw [if_pos small, readUnit_unitEscape small]
    dsimp only
    rw [if_neg (not_surrogate c), Char.ofNat_toNat]
  · have bound := toNat_lt c
    have high : 55296 + (c.toNat - 65536) / 1024 < 56320 := by omega
    have low : 56320 + (c.toNat - 65536) % 1024 < 65536 := by omega
    have second : readLowUnit (unitEscape (56320 + (c.toNat - 65536) % 1024) ++ rest) =
        some (56320 + (c.toNat - 65536) % 1024, rest) := readUnit_unitEscape low rest
    have value : 65536 + (55296 + (c.toNat - 65536) / 1024 - 55296) * 1024 +
        (56320 + (c.toNat - 65536) % 1024 - 56320) = c.toNat := by omega
    rw [if_neg small, List.append_assoc, readUnit_unitEscape (by omega)]
    dsimp only
    rw [if_pos ⟨Nat.le_add_right _ _, high⟩, second, Option.map_some]
    dsimp only
    rw [value, Char.ofNat_toNat]

/-- The reader takes back what was written for a character, whatever follows. -/
theorem readChar_escapeChar (c : Char) (rest : List Char) :
    readChar (escapeChar c ++ rest) = some (c, rest) := by
  have units : ∀ text, escapeChar c = '\\' :: 'u' :: text → text = unitsOf c →
      readChar (escapeChar c ++ rest) = some (c, rest) := by
    intro text written same
    rw [written, same]
    exact readUnits_unitsOf c rest
  by_cases quoted : c = '"'
  · subst quoted
    rfl
  by_cases backslash : c = '\\'
  · subst backslash
    rfl
  by_cases newline : c = '\n'
  · subst newline
    rfl
  by_cases carriage : c = '\r'
  · subst carriage
    rfl
  by_cases tab : c = '\t'
  · subst tab
    rfl
  by_cases feed : c = '\x0c'
  · subst feed
    rfl
  by_cases backspace : c = '\x08'
  · subst backspace
    rfl
  have written : escapeChar c =
      if 32 ≤ c.toNat ∧ c.toNat ≤ 126 then [c] else '\\' :: 'u' :: unitsOf c := by
    unfold escapeChar unitsOf
    rw [if_neg quoted, if_neg backslash, if_neg newline, if_neg carriage, if_neg tab, if_neg feed,
      if_neg backspace]
    split
    · rfl
    · split
      · rfl
      · rfl
  by_cases printable : 32 ≤ c.toNat ∧ c.toNat ≤ 126
  · rw [written, if_pos printable]
    simp [readChar, backslash]
  · rw [if_neg printable] at written
    exact units _ written rfl

/-- No character is written with a quote at the front. -/
theorem escapeChar_ne_quote (c : Char) (rest text : List Char) :
    escapeChar c ++ rest ≠ '"' :: text := by
  intro same
  have read := readChar_escapeChar c rest
  rw [same] at read
  have front : readChar ('"' :: text) = some ('"', text) := rfl
  rw [front] at read
  cases read
  have longer := congrArg List.length same
  have written : (escapeChar '"').length = 2 := rfl
  rw [List.length_append, List.length_cons, written] at longer
  omega

/-! ### Delimited texts -/

/-- A text of the set can be read off the front of what follows it: none is a proper prefix of another. -/
def Delimited (texts : Set (List Char)) : Prop :=
  ∀ s ∈ texts, ∀ t ∈ texts, ∀ rest rest', s ++ rest = t ++ rest' → s = t ∧ rest = rest'

theorem quote_append_inj {s t rest rest' : List Char} (same : quote s ++ rest = quote t ++ rest') :
    s = t ∧ rest = rest' := by
  have bodies : s.flatMap escapeChar ++ '"' :: rest = t.flatMap escapeChar ++ '"' :: rest' := by
    simpa [quote] using same
  clear same
  induction s generalizing t with
  | nil =>
      cases t with
      | nil => exact ⟨rfl, (List.cons_inj_right '"').1 bodies⟩
      | cons d t =>
          rw [List.flatMap_cons, List.append_assoc] at bodies
          exact absurd bodies.symm (escapeChar_ne_quote d _ _)
  | cons c s ih =>
      rw [List.flatMap_cons, List.append_assoc] at bodies
      cases t with
      | nil => exact absurd bodies (escapeChar_ne_quote c _ _)
      | cons d t =>
          rw [List.flatMap_cons, List.append_assoc] at bodies
          have read := congrArg readChar bodies
          rw [readChar_escapeChar, readChar_escapeChar] at read
          obtain ⟨rfl, tails⟩ := Prod.mk.inj (Option.some.inj read)
          obtain ⟨rfl, ends⟩ := ih tails
          exact ⟨rfl, ends⟩

theorem delimited_quote : Delimited (Set.range quote) := by
  rintro _ ⟨s, rfl⟩ _ ⟨t, rfl⟩ rest rest' same
  obtain ⟨rfl, ends⟩ := quote_append_inj same
  exact ⟨rfl, ends⟩

theorem quote_inj {s t : List Char} (same : quote s = quote t) : s = t :=
  (quote_append_inj (congrArg (· ++ []) same)).1

/-- A key, a separator and a delimited text. -/
theorem keyed_append_inj {texts : Set (List Char)} (delimited : Delimited texts) {c : Char}
    {k l v u rest rest' : List Char} (known : v ∈ texts) (known' : u ∈ texts)
    (same : (quote k ++ c :: v) ++ rest = (quote l ++ c :: u) ++ rest') :
    k = l ∧ v = u ∧ rest = rest' := by
  rw [List.append_assoc, List.append_assoc] at same
  obtain ⟨keys, tails⟩ := quote_append_inj same
  obtain ⟨values, ends⟩ := delimited v known u known' rest rest' (List.cons_inj_right c |>.1 tails)
  exact ⟨keys, values, ends⟩

theorem joinWith_cons (separator text : List Char) (texts : List (List Char)) :
    joinWith separator (text :: texts) = text ++ texts.flatMap fun next => separator ++ next := by
  induction texts generalizing text with
  | nil => simp [joinWith]
  | cons next rest ih => rw [joinWith, ih, List.flatMap_cons, List.append_assoc, List.append_assoc]

/-- Delimited texts behind separators, up to a different character. -/
theorem flatMap_inj {texts : Set (List Char)} (delimited : Delimited texts) {c close : Char}
    (differs : c ≠ close) {xs ys : List (List Char)} (known : ∀ x ∈ xs, x ∈ texts)
    (known' : ∀ y ∈ ys, y ∈ texts) {rest rest' : List Char}
    (same : (xs.flatMap fun x => c :: x) ++ close :: rest =
      (ys.flatMap fun y => c :: y) ++ close :: rest') : xs = ys ∧ rest = rest' := by
  induction xs generalizing ys with
  | nil =>
      cases ys with
      | nil => exact ⟨rfl, (List.cons_inj_right close).1 same⟩
      | cons y ys =>
          rw [List.flatMap_cons] at same
          exact absurd (List.cons.inj same).1.symm differs
  | cons x xs ih =>
      rw [List.flatMap_cons] at same
      cases ys with
      | nil => exact absurd (List.cons.inj same).1 differs
      | cons y ys =>
          rw [List.flatMap_cons, List.append_assoc, List.append_assoc] at same
          have tails := (List.cons.inj same).2
          rw [List.forall_mem_cons] at known known'
          obtain ⟨rfl, later⟩ := delimited x known.1 y known'.1 _ _ tails
          obtain ⟨rfl, ends⟩ := ih known.2 known'.2 later
          exact ⟨rfl, ends⟩

/-- Delimited texts can be read back from their join, up to a character that is not the separator. -/
theorem joinWith_inj {texts : Set (List Char)} (delimited : Delimited texts) {c close : Char}
    (differs : c ≠ close) {xs ys : List (List Char)} (filled : xs ≠ []) (filled' : ys ≠ [])
    (known : ∀ x ∈ xs, x ∈ texts) (known' : ∀ y ∈ ys, y ∈ texts)
    (same : joinWith [c] xs ++ [close] = joinWith [c] ys ++ [close]) : xs = ys := by
  obtain ⟨x, xs, rfl⟩ := List.exists_cons_of_ne_nil filled
  obtain ⟨y, ys, rfl⟩ := List.exists_cons_of_ne_nil filled'
  rw [joinWith_cons, joinWith_cons, List.append_assoc, List.append_assoc] at same
  rw [List.forall_mem_cons] at known known'
  obtain ⟨rfl, tails⟩ := delimited x known.1 y known'.1 _ _ same
  obtain ⟨rfl, -⟩ := flatMap_inj delimited differs known.2 known'.2 tails
  rfl

end QuotedText
