/-
Module: CachePilot.Lib.InetText
Layer: Lib
Purpose: Internet addresses as texts. An IPv4 text has one to four numbers between dots, each decimal, octal or
  hexadecimal, and the last one fills the bytes that are left. An IPv6 text has eight groups of up to four digits
  between colons; one run of groups may be left out as two colons, and the last two groups may be an IPv4 address. The
  readings that are all zero are told by the texts: every digit is a zero.
Trusted boundary: none
Main exports: InetText.inetAton, InetText.ipv6Fields, InetText.inetPton6, InetText.zeroIpv4Text,
  InetText.zeroIpv6Text, InetText.mappedZeroText, InetText.inetAton_eq_zero_iff, InetText.inetPton6_eq_zero_iff,
  InetText.inetPton6_eq_mapped_iff
-/
import Mathlib.Algebra.Group.Nat.Defs
import Mathlib.Data.List.Basic
import Mathlib.Tactic.Basic

namespace InetText

/-! ### Numbers -/

/-- The value of a hexadecimal digit. -/
def hexValue : Char → Option ℕ
  | '0' => some 0
  | '1' => some 1
  | '2' => some 2
  | '3' => some 3
  | '4' => some 4
  | '5' => some 5
  | '6' => some 6
  | '7' => some 7
  | '8' => some 8
  | '9' => some 9
  | 'a' | 'A' => some 10
  | 'b' | 'B' => some 11
  | 'c' | 'C' => some 12
  | 'd' | 'D' => some 13
  | 'e' | 'E' => some 14
  | 'f' | 'F' => some 15
  | _ => none

/-- The value of a digit of a base. -/
def digitIn (base : ℕ) (c : Char) : Option ℕ := (hexValue c).filter (· < base)

/-- Read digits behind a number that has been read. -/
def readFrom (base : ℕ) : ℕ → List Char → Option ℕ
  | n, [] => some n
  | n, c :: rest => (digitIn base c).bind fun digit => readFrom base (n * base + digit) rest

/-- Read a number; there is at least one digit. -/
def readNumber (base : ℕ) (text : List Char) : Option ℕ := if text = [] then none else readFrom base 0 text

theorem hexValue_lt {c : Char} {n : ℕ} (value : hexValue c = some n) : n < 16 := by
  unfold hexValue at value
  split at value <;> cases value <;> decide

theorem hexValue_eq_zero_iff (c : Char) : hexValue c = some 0 ↔ c = '0' := by
  constructor
  · intro value
    unfold hexValue at value
    split at value <;> first | rfl | cases value
  · rintro rfl
    rfl

theorem hexValue_eq_fifteen_iff (c : Char) : hexValue c = some 15 ↔ c = 'f' ∨ c = 'F' := by
  constructor
  · intro value
    unfold hexValue at value
    split at value <;> first | exact .inl rfl | exact .inr rfl | cases value
  · rintro (rfl | rfl) <;> rfl

theorem digitIn_eq_zero_iff {base : ℕ} (positive : 0 < base) (c : Char) : digitIn base c = some 0 ↔ c = '0' := by
  rw [digitIn, Option.filter_eq_some_iff, hexValue_eq_zero_iff]
  simp [positive]

/-- Only zeros make zero. -/
theorem readFrom_eq_zero_iff {base : ℕ} (positive : 0 < base) (n : ℕ) (text : List Char) :
    readFrom base n text = some 0 ↔ n = 0 ∧ ∀ c ∈ text, c = '0' := by
  induction text generalizing n with
  | nil => simp [readFrom]
  | cons c rest ih =>
      rw [readFrom, Option.bind_eq_some_iff, List.forall_mem_cons]
      constructor
      · rintro ⟨digit, value, later⟩
        obtain ⟨sum, zeros⟩ := (ih _).mp later
        rw [Nat.add_eq_zero_iff, Nat.mul_eq_zero] at sum
        obtain ⟨front | none, rfl⟩ := sum
        · exact ⟨front, (digitIn_eq_zero_iff positive c).mp value, zeros⟩
        · exact absurd none (Nat.ne_of_gt positive)
      · rintro ⟨rfl, zero, zeros⟩
        exact ⟨0, (digitIn_eq_zero_iff positive c).mpr zero, (ih _).mpr ⟨by rw [Nat.zero_mul], zeros⟩⟩

/-- The text has digits, and all are zeros. -/
def zeroDigits (text : List Char) : Bool := text ≠ [] && text.all (· = '0')

theorem zeroDigits_iff (text : List Char) : zeroDigits text = true ↔ text ≠ [] ∧ ∀ c ∈ text, c = '0' := by
  rw [zeroDigits, Bool.and_eq_true, decide_eq_true_iff, List.all_eq_true]
  simp only [decide_eq_true_iff]

theorem readNumber_eq_zero_iff {base : ℕ} (positive : 0 < base) (text : List Char) :
    readNumber base text = some 0 ↔ zeroDigits text = true := by
  rw [readNumber, zeroDigits_iff]
  split
  · rename_i empty
    simp [empty]
  · rename_i filled
    rw [readFrom_eq_zero_iff positive]
    exact ⟨fun zeros => ⟨filled, zeros.2⟩, fun zeros => ⟨rfl, zeros.2⟩⟩

/-! ### IPv4 -/

/-- The digits behind `0x`. -/
def hexDigits : List Char → Option (List Char)
  | '0' :: 'x' :: digits => some digits
  | '0' :: 'X' :: digits => some digits
  | _ => none

/-- A number without `0x` is octal behind another zero, and decimal otherwise. -/
def readPlain : List Char → Option ℕ
  | '0' :: digits => readFrom 8 0 digits
  | text => readNumber 10 text

/-- Read a number, which is hexadecimal behind `0x`. -/
def readPart (text : List Char) : Option ℕ := (hexDigits text).elim (readPlain text) (readNumber 16)

/-- The address of one to four numbers; the last one fills the bytes that are left. -/
def joinParts : List ℕ → Option ℕ
  | [a] => if a < 2 ^ 32 then some a else none
  | [a, b] => if a < 2 ^ 8 ∧ b < 2 ^ 24 then some (a * 2 ^ 24 + b) else none
  | [a, b, c] => if a < 2 ^ 8 ∧ b < 2 ^ 8 ∧ c < 2 ^ 16 then some (a * 2 ^ 24 + b * 2 ^ 16 + c) else none
  | [a, b, c, d] =>
      if a < 2 ^ 8 ∧ b < 2 ^ 8 ∧ c < 2 ^ 8 ∧ d < 2 ^ 8 then some (a * 2 ^ 24 + b * 2 ^ 16 + c * 2 ^ 8 + d) else none
  | _ => none

/-- Read an IPv4 address in any of its forms. -/
def inetAton (text : List Char) : Option ℕ := ((text.splitOn '.').mapM readPart).bind joinParts

/-- A number that is zero, in any base. -/
def zeroPart (text : List Char) : Bool := zeroDigits ((hexDigits text).getD text)

/-- One to four zeros between dots. -/
def zeroIpv4Text (text : List Char) : Bool :=
  (text.splitOn '.').length ≤ 4 && (text.splitOn '.').all zeroPart

theorem readPlain_eq_zero_iff (text : List Char) : readPlain text = some 0 ↔ zeroDigits text = true := by
  unfold readPlain
  split
  · rw [readFrom_eq_zero_iff (by decide)]
    simp [zeroDigits_iff]
  · exact readNumber_eq_zero_iff (by decide) _

theorem readPart_eq_zero_iff (text : List Char) : readPart text = some 0 ↔ zeroPart text = true := by
  unfold readPart zeroPart
  cases hexDigits text with
  | none => exact readPlain_eq_zero_iff text
  | some digits => exact readNumber_eq_zero_iff (by decide) digits

theorem joinParts_eq_zero_iff (parts : List ℕ) :
    joinParts parts = some 0 ↔ parts ≠ [] ∧ parts.length ≤ 4 ∧ ∀ n ∈ parts, n = 0 := by
  match parts with
  | [] => simp [joinParts]
  | [a] => simp [joinParts]; omega
  | [a, b] => simp [joinParts]; omega
  | [a, b, c] => simp [joinParts]; omega
  | [a, b, c, d] => simp [joinParts]; omega
  | a :: b :: c :: d :: e :: rest => simp [joinParts]

/-- Numbers that all read as zero. -/
theorem mapM_readPart_zeros (parts : List (List Char)) (numbers : List ℕ) :
    (parts.mapM readPart = some numbers ∧ ∀ n ∈ numbers, n = 0) ↔
      parts.all zeroPart = true ∧ numbers = List.replicate parts.length 0 := by
  induction parts generalizing numbers with
  | nil =>
      rw [List.mapM_nil]
      simp only [Option.pure_def, Option.some.injEq, List.all_nil, true_and, List.length_nil, List.replicate_zero]
      constructor
      · rintro ⟨rfl, -⟩
        rfl
      · rintro rfl
        exact ⟨rfl, fun n listed => absurd listed List.not_mem_nil⟩
  | cons part rest ih =>
      rw [List.all_cons, Bool.and_eq_true, ← readPart_eq_zero_iff, List.length_cons, List.replicate_succ,
        List.mapM_cons]
      constructor
      · rintro ⟨read, zeros⟩
        obtain ⟨n, first, read⟩ := Option.bind_eq_some_iff.mp read
        obtain ⟨later, others, shape⟩ := Option.bind_eq_some_iff.mp read
        cases shape
        rw [List.forall_mem_cons] at zeros
        obtain ⟨all, same⟩ := (ih later).mp ⟨others, zeros.2⟩
        exact ⟨⟨by rw [first, zeros.1], all⟩, by rw [zeros.1, same]⟩
      · rintro ⟨⟨first, all⟩, rfl⟩
        obtain ⟨others, zeros⟩ := (ih _).mpr ⟨all, rfl⟩
        rw [first, others]
        exact ⟨rfl, List.forall_mem_cons.mpr ⟨rfl, zeros⟩⟩

/-- The texts of the IPv4 address zero. -/
theorem inetAton_eq_zero_iff (text : List Char) : inetAton text = some 0 ↔ zeroIpv4Text text = true := by
  rw [inetAton, Option.bind_eq_some_iff, zeroIpv4Text, Bool.and_eq_true, decide_eq_true_iff]
  constructor
  · rintro ⟨numbers, read, joined⟩
    obtain ⟨-, few, zeros⟩ := (joinParts_eq_zero_iff numbers).mp joined
    obtain ⟨all, same⟩ := (mapM_readPart_zeros _ numbers).mp ⟨read, zeros⟩
    rw [same, List.length_replicate] at few
    exact ⟨few, all⟩
  · rintro ⟨few, all⟩
    obtain ⟨read, zeros⟩ := (mapM_readPart_zeros _ _).mpr ⟨all, rfl⟩
    refine ⟨_, read, (joinParts_eq_zero_iff _).mpr ⟨?_, ?_, zeros⟩⟩
    · rw [Ne, List.replicate_eq_nil_iff, List.length_eq_zero_iff]
      exact List.splitOn_ne_nil _ _
    · rw [List.length_replicate]
      exact few

/-! ### IPv6 -/

/-- What stands in front of the first two colons in a row and behind them. -/
def cutDouble : List Char → Option (List Char × List Char)
  | ':' :: ':' :: back => some ([], back)
  | c :: rest => (cutDouble rest).map fun cut => (c :: cut.1, cut.2)
  | [] => none

/-- The fields between colons; there are none in an empty text. -/
def fieldsOf (text : List Char) : List (List Char) := if text = [] then [] else text.splitOn ':'

/-- The field is an IPv4 address. -/
def dotted (field : List Char) : Bool := '.' ∈ field

/-- The number of groups that fields stand for; an IPv4 address at the end stands for two. -/
def width (fields : List (List Char)) : ℕ := fields.length + if fields.getLast?.any dotted then 1 else 0

/-- The fields of an IPv6 text, with zeros in place of the groups that two colons leave out; at least one is left
    out. -/
def ipv6Fields (text : List Char) : Option (List (List Char)) :=
  match cutDouble text with
  | none => if width (fieldsOf text) = 8 then some (fieldsOf text) else none
  | some (front, back) =>
      let shown := (fieldsOf front).length + width (fieldsOf back)
      if shown < 8 then some (fieldsOf front ++ (List.replicate (8 - shown) ['0'] ++ fieldsOf back)) else none

/-- A group has one to four hexadecimal digits. -/
def readGroup (field : List Char) : Option ℕ := if field.length ≤ 4 then readNumber 16 field else none

/-- A byte in decimal, without leading zeros. -/
def readByte (text : List Char) : Option ℕ :=
  if text = ['0'] ∨ text.head? ≠ some '0' then (readNumber 10 text).filter (· < 256) else none

/-- The two groups of an IPv4 address. -/
def readQuad (field : List Char) : Option (List ℕ) :=
  match (field.splitOn '.').mapM readByte with
  | some [a, b, c, d] => some [a * 256 + b, c * 256 + d]
  | _ => none

/-- The groups of the last field. -/
def readLast (field : List Char) : Option (List ℕ) :=
  if dotted field then readQuad field else (readGroup field).map fun group => [group]

/-- The groups of fields. -/
def readFields : List (List Char) → Option (List ℕ)
  | [] => some []
  | [last] => readLast last
  | field :: next :: rest => (readGroup field).bind fun group => (readFields (next :: rest)).map (group :: ·)

/-- Read an IPv6 address: its eight groups. -/
def inetPton6 (text : List Char) : Option (List ℕ) := (ipv6Fields text).bind readFields

/-! ### The texts of the IPv6 address zero -/

/-- One to four zeros. -/
def zeroGroup (field : List Char) : Bool := field.length ≤ 4 && zeroDigits field

/-- Four times the highest digit. -/
def fullGroup (field : List Char) : Bool := field.length = 4 && field.all fun c => c = 'f' || c = 'F'

/-- A group of zeros, or four zeros between dots. -/
def zeroLast (field : List Char) : Bool := zeroGroup field || field = "0.0.0.0".toList

/-- Every group has only zeros. -/
def zeroFields : List (List Char) → Bool
  | [] => true
  | [last] => zeroLast last
  | field :: next :: rest => zeroGroup field && zeroFields (next :: rest)

/-- So many groups of zeros, a group of highest digits, and groups of zeros behind it. -/
def mappedFields : ℕ → List (List Char) → Bool
  | _, [] => false
  | 0, field :: rest => fullGroup field && (rest ≠ [] && zeroFields rest)
  | zeros + 1, field :: rest => zeroGroup field && mappedFields zeros rest

/-- The text has only zeros. -/
def zeroIpv6Text (text : List Char) : Bool := (ipv6Fields text).any zeroFields

/-- The text has only zeros but for the group that marks an IPv4 address. -/
def mappedZeroText (text : List Char) : Bool := (ipv6Fields text).any (mappedFields 5)

theorem sixteen_pos : 0 < 16 := by decide

theorem readGroup_eq_zero_iff (field : List Char) : readGroup field = some 0 ↔ zeroGroup field = true := by
  rw [readGroup, zeroGroup, Bool.and_eq_true, decide_eq_true_iff, ← readNumber_eq_zero_iff sixteen_pos]
  split
  · rename_i short
    exact ⟨fun read => ⟨short, read⟩, And.right⟩
  · rename_i long
    simp [long]

theorem digitIn_sixteen (c : Char) : digitIn 16 c = hexValue c := by
  rw [digitIn]
  cases value : hexValue c with
  | none => rfl
  | some n => exact Option.filter_some_pos (decide_eq_true (hexValue_lt value))

/-- Every digit but the highest one leaves a gap below the next power. -/
theorem readFrom_bound {n m : ℕ} {text : List Char} (read : readFrom 16 n text = some m) :
    m + 1 ≤ (n + 1) * 16 ^ text.length := by
  induction text generalizing n with
  | nil =>
      rw [readFrom, Option.some.injEq] at read
      exact Nat.le_of_eq (by rw [read, List.length_nil, pow_zero, Nat.mul_one])
  | cons c rest ih =>
      rw [readFrom, digitIn_sixteen] at read
      obtain ⟨digit, value, later⟩ := Option.bind_eq_some_iff.mp read
      have small := hexValue_lt value
      calc m + 1 ≤ (n * 16 + digit + 1) * 16 ^ rest.length := ih later
        _ ≤ ((n + 1) * 16) * 16 ^ rest.length := Nat.mul_le_mul_right _ (by omega)
        _ = (n + 1) * 16 ^ (c :: rest).length := by
          rw [List.length_cons, Nat.pow_succ', Nat.mul_assoc]

/-- Only the highest digits leave none. -/
theorem readFrom_full_iff (n : ℕ) (text : List Char) :
    readFrom 16 n text = some ((n + 1) * 16 ^ text.length - 1) ↔ ∀ c ∈ text, hexValue c = some 15 := by
  induction text generalizing n with
  | nil => simp [readFrom]
  | cons c rest ih =>
      have positive : 0 < 16 ^ rest.length := Nat.pow_pos (by decide)
      have power : (n + 1) * 16 ^ (c :: rest).length = (n * 16 + 15 + 1) * 16 ^ rest.length := by
        rw [List.length_cons, Nat.pow_succ', ← Nat.mul_assoc]
        congr 1
        omega
      rw [readFrom, digitIn_sixteen, List.forall_mem_cons, ← ih (n * 16 + 15), power]
      constructor
      · intro read
        obtain ⟨digit, value, later⟩ := Option.bind_eq_some_iff.mp read
        have small := hexValue_lt value
        have bound := readFrom_bound later
        have highest : digit = 15 := by
          by_contra lower
          have gap : (n * 16 + digit + 1) * 16 ^ rest.length < (n * 16 + 15 + 1) * 16 ^ rest.length :=
            Nat.mul_lt_mul_of_pos_right (by omega) positive
          omega
        subst highest
        exact ⟨value, later⟩
      · rintro ⟨value, later⟩
        rw [value]
        exact later

theorem fullGroup_iff (field : List Char) :
    fullGroup field = true ↔ field.length = 4 ∧ ∀ c ∈ field, hexValue c = some 15 := by
  rw [fullGroup, Bool.and_eq_true, decide_eq_true_iff, List.all_eq_true]
  simp only [hexValue_eq_fifteen_iff, Bool.or_eq_true, decide_eq_true_iff]

/-- The highest group has four of the highest digits. -/
theorem readGroup_eq_full_iff (field : List Char) : readGroup field = some 65535 ↔ fullGroup field = true := by
  rw [fullGroup_iff, ← readFrom_full_iff 0, readGroup]
  constructor
  · intro read
    split at read
    · rename_i short
      rw [readNumber] at read
      split at read
      · cases read
      · have bound := readFrom_bound read
        have four : field.length = 4 := by
          by_contra other
          have power : 16 ^ field.length ≤ 16 ^ 3 := Nat.pow_le_pow_right (by decide) (by omega)
          omega
        refine ⟨four, ?_⟩
        rw [four]
        exact read
    · cases read
  · rintro ⟨four, read⟩
    have filled : field ≠ [] := fun empty => by
      rw [empty] at four
      cases four
    rw [if_pos (Nat.le_of_eq four), readNumber, if_neg filled, read, four]
    rfl

theorem readByte_eq_zero_iff (text : List Char) : readByte text = some 0 ↔ text = ['0'] := by
  rw [readByte]
  split
  · rename_i plain
    rw [Option.filter_eq_some_iff, readNumber_eq_zero_iff (by decide), zeroDigits_iff]
    constructor
    · rintro ⟨⟨filled, zeros⟩, -⟩
      rcases plain with single | other
      · exact single
      · cases text with
        | nil => exact absurd rfl filled
        | cons c rest => exact absurd (congrArg some (zeros c List.mem_cons_self)) other
    · rintro rfl
      simp
  · rename_i padded
    rw [not_or] at padded
    simp [padded.1]

/-- Bytes that are all zero. -/
theorem mapM_readByte_zeros (count : ℕ) {parts : List (List Char)}
    (read : parts.mapM readByte = some (List.replicate count 0)) : parts = List.replicate count ['0'] := by
  induction parts generalizing count with
  | nil =>
      cases count with
      | zero => rfl
      | succ count => cases read
  | cons part rest ih =>
      rw [List.mapM_cons] at read
      obtain ⟨n, first, read⟩ := Option.bind_eq_some_iff.mp read
      obtain ⟨later, others, shape⟩ := Option.bind_eq_some_iff.mp read
      cases count with
      | zero => cases shape
      | succ count =>
          rw [List.replicate_succ] at shape
          cases shape
          rw [(readByte_eq_zero_iff part).mp first, ih count others, List.replicate_succ]

/-- The only text of the IPv4 address zero behind groups. -/
theorem readQuad_eq_zero_iff (field : List Char) : readQuad field = some [0, 0] ↔ field = "0.0.0.0".toList := by
  constructor
  · intro read
    rw [readQuad] at read
    split at read
    · rename_i a b c d parts
      rw [Option.some.injEq, List.cons.injEq, List.cons.injEq] at read
      obtain ⟨high, low, -⟩ := read
      obtain ⟨rfl, rfl, rfl, rfl⟩ : a = 0 ∧ b = 0 ∧ c = 0 ∧ d = 0 := by
        clear parts
        omega
      have zeros := mapM_readByte_zeros 4 parts
      have whole : ['.'].intercalate (field.splitOn '.') = field := List.intercalate_splitOn '.'
      rw [zeros] at whole
      exact whole.symm
    · cases read
  · rintro rfl
    decide +kernel

@[simp] theorem width_single (field : List Char) : width [field] = if dotted field then 2 else 1 := by
  unfold width
  cases known : dotted field <;> simp [known]

@[simp] theorem width_cons (field next : List Char) (rest : List (List Char)) :
    width (field :: next :: rest) = width (next :: rest) + 1 := by
  rw [width, width, List.getLast?_cons_cons, List.length_cons]
  omega

theorem length_readLast {field : List Char} {groups : List ℕ} (read : readLast field = some groups) :
    groups.length = width [field] := by
  rw [width_single]
  rw [readLast] at read
  split at read
  · rename_i quad
    rw [if_pos quad]
    rw [readQuad] at read
    split at read
    · cases read
      rfl
    · cases read
  · rename_i plain
    rw [if_neg plain]
    obtain ⟨group, -, rfl⟩ := Option.map_eq_some_iff.mp read
    rfl

/-- As many groups are read as the fields stand for. -/
theorem length_readFields {fields : List (List Char)} {groups : List ℕ} (read : readFields fields = some groups) :
    groups.length = width fields := by
  induction fields using readFields.induct generalizing groups with
  | case1 =>
      cases read
      rfl
  | case2 last => exact length_readLast read
  | case3 field next rest ih =>
      rw [readFields] at read
      obtain ⟨group, -, read⟩ := Option.bind_eq_some_iff.mp read
      obtain ⟨later, others, rfl⟩ := Option.map_eq_some_iff.mp read
      rw [width_cons, List.length_cons, ih others]

/-- One field has at most two groups. -/
theorem readFields_single_ne (last : List Char) (groups : List ℕ) (long : 2 < groups.length) :
    readFields [last] ≠ some groups := by
  intro read
  have lengths := length_readFields read
  rw [width_single] at lengths
  split at lengths <;> omega

/-- A field and more behind it read as a first group and the groups behind it. -/
theorem readFields_cons_iff (field next : List Char) (rest : List (List Char)) (group : ℕ) (groups : List ℕ) :
    readFields (field :: next :: rest) = some (group :: groups) ↔
      readGroup field = some group ∧ readFields (next :: rest) = some groups := by
  rw [readFields]
  constructor
  · intro read
    obtain ⟨first, value, read⟩ := Option.bind_eq_some_iff.mp read
    obtain ⟨later, others, shape⟩ := Option.map_eq_some_iff.mp read
    cases shape
    exact ⟨value, others⟩
  · rintro ⟨value, others⟩
    rw [value, others]
    rfl

theorem zeroLast_iff (field : List Char) :
    readLast field = some (List.replicate (width [field]) 0) ↔ zeroLast field = true := by
  rw [width_single, readLast, zeroLast, Bool.or_eq_true, decide_eq_true_iff]
  cases known : dotted field with
  | true =>
      have mixed : zeroGroup field = false := by
        rw [dotted, decide_eq_true_iff] at known
        rw [zeroGroup, Bool.and_eq_false_iff]
        refine .inr (Bool.eq_false_iff.mpr fun zeros => ?_)
        exact absurd ((zeroDigits_iff field).mp zeros |>.2 '.' known) (by decide)
      rw [if_pos rfl, if_pos rfl, mixed]
      exact (readQuad_eq_zero_iff field).trans ⟨.inr, fun zero => zero.resolve_left Bool.false_ne_true⟩
  | false =>
      have other : field ≠ "0.0.0.0".toList := fun same => by
        rw [same] at known
        exact absurd known (by decide +kernel)
      rw [if_neg Bool.false_ne_true, if_neg Bool.false_ne_true, ← readGroup_eq_zero_iff, or_iff_left other]
      cases readGroup field <;> simp

/-- Fields read as zeros when all their digits are. -/
theorem zeroFields_iff (fields : List (List Char)) :
    readFields fields = some (List.replicate (width fields) 0) ↔ zeroFields fields = true := by
  induction fields using zeroFields.induct with
  | case1 => exact ⟨fun _ => rfl, fun _ => rfl⟩
  | case2 last => exact zeroLast_iff last
  | case3 field next rest ih =>
      rw [width_cons, List.replicate_succ, readFields_cons_iff, zeroFields, Bool.and_eq_true, ih, readGroup_eq_zero_iff]

/-- Fields read as zeros around one highest group when their digits say so. -/
theorem mappedFields_iff (zeros more : ℕ) (enough : 1 < more) (fields : List (List Char)) :
    readFields fields = some (List.replicate zeros 0 ++ 65535 :: List.replicate more 0) ↔
      mappedFields zeros fields = true ∧ width fields = zeros + 1 + more := by
  induction zeros generalizing fields with
  | zero =>
      match fields with
      | [] => simp [readFields, mappedFields]
      | [last] =>
          have short :=
            readFields_single_ne last (List.replicate 0 0 ++ 65535 :: List.replicate more 0) (by simp; omega)
          have unmarked : mappedFields 0 [last] = false := by simp [mappedFields]
          rw [unmarked]
          exact ⟨fun read => absurd read short, fun marked => absurd marked.1 Bool.false_ne_true⟩
      | field :: next :: rest =>
          rw [List.replicate_zero, List.nil_append, readFields_cons_iff, readGroup_eq_full_iff, mappedFields,
            width_cons, Bool.and_eq_true, Bool.and_eq_true, decide_eq_true_iff, ← zeroFields_iff]
          constructor
          · rintro ⟨full, read⟩
            have wide := length_readFields read
            rw [List.length_replicate] at wide
            exact ⟨⟨full, List.cons_ne_nil _ _, wide ▸ read⟩, by omega⟩
          · rintro ⟨⟨full, -, read⟩, wide⟩
            obtain rfl : more = width (next :: rest) := by omega
            exact ⟨full, read⟩
  | succ zeros ih =>
      match fields with
      | [] => simp [readFields, mappedFields]
      | [last] =>
          have short := readFields_single_ne last (List.replicate (zeros + 1) 0 ++ 65535 :: List.replicate more 0)
            (by simp; omega)
          have unmarked : mappedFields (zeros + 1) [last] = false := by simp [mappedFields]
          rw [unmarked]
          exact ⟨fun read => absurd read short, fun marked => absurd marked.1 Bool.false_ne_true⟩
      | field :: next :: rest =>
          rw [List.replicate_succ, List.cons_append, readFields_cons_iff, readGroup_eq_zero_iff, ih, mappedFields,
            width_cons, Bool.and_eq_true, and_assoc]
          have shift : width (next :: rest) = zeros + 1 + more ↔ width (next :: rest) + 1 = zeros + 1 + 1 + more := by
            omega
          rw [shift]

theorem width_append_zeros (front : List (List Char)) {count : ℕ} (positive : 0 < count)
    (back : List (List Char)) :
    width (front ++ (List.replicate count ['0'] ++ back)) = front.length + count + width back := by
  have filled : List.replicate count ['0'] ++ back ≠ [] := by
    rw [Ne, List.append_eq_nil_iff, List.replicate_eq_nil_iff]
    omega
  rw [width, width, List.getLast?_append_of_ne_nil _ filled, List.length_append, List.length_append,
    List.length_replicate]
  cases back with
  | nil =>
      have last : (List.replicate count ['0'] ++ []).getLast? = some ['0'] := by
        rw [List.append_nil, List.getLast?_replicate, if_neg (Nat.ne_of_gt positive)]
      rw [last]
      rfl
  | cons field rest =>
      rw [List.getLast?_append_of_ne_nil _ (List.cons_ne_nil _ _)]
      omega

/-- The fields stand for eight groups. -/
theorem width_ipv6Fields {text : List Char} {fields : List (List Char)} (known : ipv6Fields text = some fields) :
    width fields = 8 := by
  rw [ipv6Fields] at known
  split at known
  · split at known
    · rename_i eight
      cases known
      exact eight
    · cases known
  · rename_i front back cut
    dsimp only at known
    split at known
    · rename_i short
      cases known
      rw [width_append_zeros _ (by omega)]
      omega
    · cases known

/-- The texts of the IPv6 address zero. -/
theorem inetPton6_eq_zero_iff (text : List Char) :
    inetPton6 text = some (List.replicate 8 0) ↔ zeroIpv6Text text = true := by
  rw [inetPton6, zeroIpv6Text]
  cases known : ipv6Fields text with
  | none => simp
  | some fields =>
      rw [Option.bind_some, Option.any_some, ← zeroFields_iff, width_ipv6Fields known]

/-- The texts of the IPv6 address that maps the IPv4 address zero. -/
theorem inetPton6_eq_mapped_iff (text : List Char) :
    inetPton6 text = some [0, 0, 0, 0, 0, 65535, 0, 0] ↔ mappedZeroText text = true := by
  rw [inetPton6, mappedZeroText]
  cases known : ipv6Fields text with
  | none => simp
  | some fields =>
      rw [Option.bind_some, Option.any_some]
      have marked := mappedFields_iff 5 2 (by decide) fields
      rw [width_ipv6Fields known] at marked
      exact marked.trans (and_iff_left rfl)

end InetText
