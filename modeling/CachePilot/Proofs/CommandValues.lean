/-
Module: CachePilot.Proofs.CommandValues
Layer: Proofs
Purpose: What the signature of a shell command tells about the values in it. Two commands that differ in their
  values only have the same signature when neither keeps a value; a command that keeps one has a variant with
  another signature. A value is kept by an executable word with an equals sign, by an option that comes before
  the executable, and by a short option with an equals sign in its attached value.
Trusted boundary: none
Main exports: joinWords, ValueVariant, SameButValues, KeepsNoValue, signatures_hide_values
-/
import Mathlib.Data.List.Dedup
import CachePilot.Hermes.DurationHistory

namespace CachePilot

/-! ### Writing a command -/

/-- A word with each character behind a backslash; the empty word is a pair of quotes. -/
def quoteWord : Token → List Char
  | [] => ['\'', '\'']
  | c :: word => (c :: word).flatMap fun c => ['\\', c]

/-- A command with the given words. -/
def joinWords (words : List Token) : String :=
  String.ofList (words.flatMap fun word => quoteWord word ++ [' '])

/-- Escaped characters go on with the word that is being read. -/
theorem shlexSplit_escaped (word token rest : List Char) (hadQuotes : Bool) :
    shlexSplit .word token hadQuotes (word.flatMap (fun c => ['\\', c]) ++ ' ' :: rest) =
      (shlexSplit .blank [] false rest).map (emitToken (token ++ word) hadQuotes) := by
  induction word generalizing token with
  | nil => simp [shlexSplit, isShellBlank]
  | cons c word ih =>
      have next := ih (token ++ [c])
      rw [List.append_assoc, List.singleton_append] at next
      simpa [shlexSplit, isShellBlank, isQuote] using next

/-- A quoted word is read back. -/
theorem shlexSplit_quoteWord (word rest : List Char) :
    shlexSplit .blank [] false (quoteWord word ++ ' ' :: rest) =
      (shlexSplit .blank [] false rest).map (word :: ·) := by
  cases word with
  | nil =>
      have emitted : emitToken [] true = ([] :: ·) := rfl
      simp [quoteWord, shlexSplit, isShellBlank, isQuote, emitted]
  | cons c word =>
      have emitted : emitToken (c :: word) false = ((c :: word) :: ·) := rfl
      have escaped := shlexSplit_escaped word [c] rest false
      rw [List.singleton_append, emitted] at escaped
      simpa [quoteWord, shlexSplit, isShellBlank, isQuote] using escaped

/-- The words of a written command are the given ones. -/
theorem tokenize_joinWords (words : List Token) : tokenize (joinWords words) = words := by
  have split : shlexSplit .blank [] false (joinWords words).toList = some words := by
    rw [joinWords, String.toList_ofList]
    induction words with
    | nil => rfl
    | cons word words ih =>
        rw [List.flatMap_cons, List.append_assoc, List.singleton_append, shlexSplit_quoteWord, ih]
        rfl
  rw [tokenize, split]

/-! ### The words that the signature reads -/

/-- The word starts with a dash. -/
def isOption (word : Token) : Bool := ['-'].isPrefixOf word

@[simp] theorem isOption_cons (c : Char) (word : Token) : isOption (c :: word) = ('-' == c) := by
  simp [isOption, List.isPrefixOf]

/-- The word ends the signature: a shell operator or the double dash. -/
def endsSignature (word : Token) : Bool := shellOperators.contains word || word == ['-', '-']

theorem endsSignature_iff {word : Token} :
    endsSignature word = true ↔ word ∈ shellOperators ∨ word = ['-', '-'] := by
  simp [endsSignature]

/-- The words up to the first operator or double dash. -/
def signatureWords (words : List Token) : List Token := words.takeWhile fun word => !endsSignature word

/-- The word that is taken for the executable: the first one that is no option. -/
def executable? (words : List Token) : Option Token := words.find? fun word => !isOption word

theorem collect_eq_foldl (prims : CommandPrimitives) (parts : SignatureParts) (words : List Token) :
    SignatureParts.collect prims parts words =
      (signatureWords words).foldl (SignatureParts.read prims) parts := by
  induction words generalizing parts with
  | nil => rfl
  | cons word words ih =>
      by_cases last : word ∈ shellOperators ∨ word = ['-', '-']
      · have ended : endsSignature word = true := endsSignature_iff.2 last
        rw [SignatureParts.collect, if_pos last]
        simp [signatureWords, ended]
      · have goes : endsSignature word = false := Bool.eq_false_iff.2 fun ends => last (endsSignature_iff.1 ends)
        rw [SignatureParts.collect, if_neg last, ih]
        simp [signatureWords, goes]

/-! ### Value positions -/

/-- A positional word that may be a value: neither an option nor a safe word, nor an operator. The lexer does not
    tell a quoted operator from a bare one. -/
def IsPositionalValue (prims : CommandPrimitives) (word : Token) : Prop :=
  isOption word = false ∧ word ∉ shellOperators ∧ prims.lower word ∉ safeSubcommandWords

/-- Two words that differ in a value only: in the text behind an equals sign, in the value that is attached to a
    short option, or as positional words behind the first word. -/
inductive ValueVariant (prims : CommandPrimitives) (first : Bool) : Token → Token → Prop where
  | same (word : Token) : ValueVariant prims first word word
  | afterEquals (name value value' : Token) :
      ValueVariant prims first (name ++ '=' :: value) (name ++ '=' :: value')
  | attached {letter : Char} (short : letter ≠ '-') (value value' : Token) :
      ValueVariant prims first ('-' :: letter :: value) ('-' :: letter :: value')
  | positional (behind : first = false) {word word' : Token} (value : IsPositionalValue prims word)
      (value' : IsPositionalValue prims word') : ValueVariant prims first word word'

/-- Two lists of words that differ in values only; whether the first word of the command is their first. -/
inductive WordsVariant (prims : CommandPrimitives) : Bool → List Token → List Token → Prop where
  | nil (first : Bool) : WordsVariant prims first [] []
  | cons {first : Bool} {word word' : Token} {words words' : List Token}
      (head : ValueVariant prims first word word') (tail : WordsVariant prims false words words') :
      WordsVariant prims first (word :: words) (word' :: words')

/-- Two commands that differ in value positions only. -/
def SameButValues (prims : CommandPrimitives) (command command' : String) : Prop :=
  WordsVariant prims true (tokenize command) (tokenize command')

/-- The part before the equals sign of a short option is no longer than the letter. -/
def NameIsLetter (word : Token) : Prop :=
  isOption word = true → ['-', '-'].isPrefixOf word = false → '=' ∈ word →
    (word.takeWhile (· ≠ '=')).length ≤ 2

/-- The executable among the words is the first of them, without an equals sign, or it is a safe word. -/
def ExecutableIsNoValue (prims : CommandPrimitives) (words : List Token) (executable : Token) : Prop :=
  words.head? = some executable ∧ '=' ∉ executable ∨ prims.lower executable ∈ safeSubcommandWords

/-- The signature of a command keeps no value: it is empty, or the executable is no value and the short options
    keep their letters only. -/
def KeepsNoValue (prims : CommandPrimitives) (command : String) : Prop :=
  ∀ executable ∈ executable? (signatureWords (tokenize command)),
    ExecutableIsNoValue prims (signatureWords (tokenize command)) executable ∧
      ∀ word ∈ signatureWords (tokenize command), NameIsLetter word

instance : DecidablePred NameIsLetter := fun word =>
  inferInstanceAs (Decidable (isOption word = true → ['-', '-'].isPrefixOf word = false → '=' ∈ word →
    (word.takeWhile (· ≠ '=')).length ≤ 2))

instance (prims : CommandPrimitives) (words : List Token) : DecidablePred (ExecutableIsNoValue prims words) :=
  fun executable => inferInstanceAs (Decidable
    (words.head? = some executable ∧ '=' ∉ executable ∨ prims.lower executable ∈ safeSubcommandWords))

instance (prims : CommandPrimitives) : DecidablePred (KeepsNoValue prims) := fun command =>
  inferInstanceAs (Decidable (∀ executable ∈ executable? (signatureWords (tokenize command)),
    ExecutableIsNoValue prims (signatureWords (tokenize command)) executable ∧
      ∀ word ∈ signatureWords (tokenize command), NameIsLetter word))

/-! ### Reading variants -/

section Variants

variable {prims : CommandPrimitives} (keeps : ∀ text, '=' ∈ text → '=' ∈ prims.lower text)
  {first : Bool} {word word' : Token} {words words' : List Token} {parts : SignatureParts}

include keeps in
/-- A word with an equals sign is not safe. -/
theorem lower_notMem_of_equals (equals : '=' ∈ word) : prims.lower word ∉ safeSubcommandWords := by
  have plain : ∀ safe ∈ safeSubcommandWords, '=' ∉ safe := by decide +kernel
  exact fun safe => plain _ safe (keeps word equals)

theorem endsSignature_of_equals (equals : '=' ∈ word) : endsSignature word = false := by
  have plain : ∀ operator ∈ shellOperators, '=' ∉ operator := by decide
  rw [Bool.eq_false_iff, Ne, endsSignature_iff]
  rintro (operator | rfl)
  · exact plain word operator equals
  · simp at equals

theorem notMem_shellOperators (goes : endsSignature word = false) : word ∉ shellOperators := by
  intro operator
  have ends : endsSignature word = true := endsSignature_iff.2 (Or.inl operator)
  rw [goes] at ends
  cases ends

theorem endsSignature_of_mem (listed : word ∈ signatureWords words) : endsSignature word = false := by
  have goes := List.all_eq_true.1 List.all_takeWhile word listed
  simpa using goes

theorem endsSignature_of_short {letter : Char} (short : letter ≠ '-') (value : Token) :
    endsSignature ('-' :: letter :: value) = false := by
  have plain : ∀ operator ∈ shellOperators, isOption operator = false := by decide
  rw [Bool.eq_false_iff, Ne, endsSignature_iff]
  rintro (operator | dashes)
  · have option := plain _ operator
    simp [isOption] at option
  · simp [short] at dashes

theorem endsSignature_of_value (value : IsPositionalValue prims word) : endsSignature word = false := by
  obtain ⟨positional, bare, -⟩ := value
  rw [Bool.eq_false_iff, Ne, endsSignature_iff]
  rintro (operator | rfl)
  · exact bare operator
  · simp [isOption] at positional

theorem isOption_append_equals (name value value' : Token) :
    isOption (name ++ '=' :: value) = isOption (name ++ '=' :: value') := by
  cases name with
  | nil => rfl
  | cons c name => simp

/-- Variants end the signature together. -/
theorem ValueVariant.endsSignature_eq (variant : ValueVariant prims first word word') :
    endsSignature word = endsSignature word' := by
  cases variant with
  | same => rfl
  | afterEquals name value value' =>
      rw [endsSignature_of_equals (by simp), endsSignature_of_equals (by simp)]
  | attached short value value' => rw [endsSignature_of_short short, endsSignature_of_short short]
  | positional behind value value' => rw [endsSignature_of_value value, endsSignature_of_value value']

/-- Variants are options together. -/
theorem ValueVariant.isOption_eq (variant : ValueVariant prims first word word') :
    isOption word = isOption word' := by
  cases variant with
  | same => rfl
  | afterEquals name value value' => exact isOption_append_equals name value value'
  | attached short value value' => rfl
  | positional behind value value' => rw [value.1, value'.1]

include keeps in
/-- A variant of a safe word, among the words behind the first, is the word itself. -/
theorem ValueVariant.eq_of_safe (variant : ValueVariant prims first word word')
    (positional : isOption word = false) (safe : prims.lower word ∈ safeSubcommandWords) : word = word' := by
  cases variant with
  | same => rfl
  | afterEquals name value value' => exact absurd safe (lower_notMem_of_equals keeps (by simp))
  | attached short value value' => simp [isOption] at positional
  | positional behind value value' => exact absurd safe value.2.2

/-- A variant of a first word without an equals sign is the word itself. -/
theorem ValueVariant.eq_of_first (variant : ValueVariant prims true word word')
    (positional : isOption word = false) (plain : '=' ∉ word) : word = word' := by
  cases variant with
  | same => rfl
  | afterEquals name value value' => exact absurd (by simp) plain
  | attached short value value' => simp [isOption] at positional
  | positional behind value value' => cases behind

/-- A short option that keeps its letter only. -/
theorem flagName_short {letter : Char} (short : letter ≠ '-') {value : Token}
    (name : NameIsLetter ('-' :: letter :: value)) :
    flagName ('-' :: letter :: value) = some (if letter = '=' then ['-'] else ['-', letter]) := by
  have long : ['-', '-'].isPrefixOf ('-' :: letter :: value) = false := by
    simp [List.isPrefixOf, short.symm]
  unfold flagName
  by_cases equals : '=' ∈ '-' :: letter :: value
  · have bound := name rfl long equals
    rw [if_pos equals]
    by_cases sign : letter = '='
    · simp [sign]
    · simp only [List.takeWhile_cons, sign, ne_eq, not_false_eq_true, decide_true, if_true,
        List.length_cons, Char.reduceEq] at bound
      have none : value.takeWhile (· ≠ '=') = [] := List.length_eq_zero_iff.1 (by simpa using bound)
      simpa [sign] using none
  · have sign : letter ≠ '=' := by
      rintro rfl
      simp at equals
    rw [if_neg equals, long]
    simp [sign]

/-- Variants among the options have one name when their short options keep their letters only. -/
theorem ValueVariant.flagName_eq (variant : ValueVariant prims first word word')
    (option : isOption word = true) (plain : NameIsLetter word) (plain' : NameIsLetter word') :
    flagName word = flagName word' := by
  cases variant with
  | same => rfl
  | afterEquals name value value' =>
      have equals (value : Token) : '=' ∈ name ++ '=' :: value := by simp
      rw [flagName, flagName, if_pos (equals value), if_pos (equals value')]
      simp [List.takeWhile_append]
  | attached short value value' => rw [flagName_short short plain, flagName_short short plain']
  | positional behind value value' =>
      rw [value.1] at option
      cases option

/-- Reading an option adds its name. -/
theorem read_of_option (option : isOption word = true) :
    parts.read prims word = { parts with flags := parts.flags ++ (flagName word).toList } := by
  have dash : ['-'].isPrefixOf word = true := option
  rw [SignatureParts.read, if_pos dash]
  cases flagName word with
  | none => simp
  | some name => rfl

/-- Reading a word that is no option. -/
theorem read_of_positional (positional : isOption word = false) :
    parts.read prims word =
      if parts.family = [] ∨ (parts.family.length < 3 ∧ prims.lower word ∈ safeSubcommandWords) then
        { parts with family := parts.family ++ [word] }
      else parts := by
  have dash : ¬ ['-'].isPrefixOf word = true := by
    rw [← isOption, positional]
    exact Bool.false_ne_true
  rw [SignatureParts.read, if_neg dash]

/-- The first word that is no option is kept. -/
theorem read_of_empty (positional : isOption word = false) (empty : parts.family = []) :
    parts.read prims word = { parts with family := [word] } := by
  rw [read_of_positional positional, if_pos (Or.inl empty), empty, List.nil_append]

/-- Behind the executable a word that is not safe is dropped. -/
theorem read_of_value (positional : isOption word = false) (kept : parts.family ≠ [])
    (value : prims.lower word ∉ safeSubcommandWords) : parts.read prims word = parts := by
  rw [read_of_positional positional, if_neg]
  rintro (empty | ⟨-, safe⟩)
  · exact kept empty
  · exact value safe

/-- A word that is no option leaves an executable. -/
theorem family_read_ne_nil (positional : isOption word = false) : (parts.read prims word).family ≠ [] := by
  rw [read_of_positional positional]
  split
  · simp
  · rename_i dropped
    exact fun empty => dropped (Or.inl empty)

include keeps in
/-- Variants are read alike, unless they are taken for the executable and differ. -/
theorem read_variant (variant : ValueVariant prims first word word') (plain : NameIsLetter word)
    (plain' : NameIsLetter word') (kept : isOption word = false → parts.family = [] → word = word') :
    parts.read prims word = parts.read prims word' := by
  have option := variant.isOption_eq
  cases here : isOption word with
  | true =>
      rw [here] at option
      rw [read_of_option here, read_of_option option.symm, variant.flagName_eq here plain plain']
  | false =>
      rw [here] at option
      by_cases empty : parts.family = []
      · rw [kept here empty]
      · cases variant with
        | same => rfl
        | afterEquals name value value' =>
            have dropped (value : Token) : prims.lower (name ++ '=' :: value) ∉ safeSubcommandWords :=
              lower_notMem_of_equals keeps (by simp)
            rw [read_of_value here empty (dropped value), read_of_value option.symm empty (dropped value')]
        | attached short value value' => simp at here
        | positional behind value value' =>
            rw [read_of_value here empty value.2.2, read_of_value option.symm empty value'.2.2]

include keeps in
/-- Lists of variants are read alike when the executable among them is no value. -/
theorem WordsVariant.foldl_read_eq (variants : WordsVariant prims first words words')
    (plain : ∀ word ∈ words, NameIsLetter word) (plain' : ∀ word ∈ words', NameIsLetter word)
    (executes : parts.family = [] → ∀ executable, executable? words = some executable →
      first = true ∧ words.head? = some executable ∧ '=' ∉ executable ∨
        prims.lower executable ∈ safeSubcommandWords) :
    words.foldl (SignatureParts.read prims) parts = words'.foldl (SignatureParts.read prims) parts := by
  induction variants generalizing parts with
  | nil => rfl
  | @cons first word word' words words' variant rest ih =>
      have kept : isOption word = false → parts.family = [] → word = word' := by
        intro positional empty
        rcases executes empty word (by simp [executable?, positional]) with ⟨rfl, -, bare⟩ | safe
        · exact variant.eq_of_first positional bare
        · exact variant.eq_of_safe keeps positional safe
      have same : parts.read prims word = parts.read prims word' :=
        read_variant keeps variant (plain word List.mem_cons_self) (plain' word' List.mem_cons_self) kept
      rw [List.foldl_cons, List.foldl_cons, ← same]
      refine ih (fun w listed => plain w (List.mem_cons_of_mem _ listed))
        (fun w listed => plain' w (List.mem_cons_of_mem _ listed)) ?_
      intro empty executable found
      cases option : isOption word with
      | false => exact absurd empty (family_read_ne_nil option)
      | true =>
          rw [read_of_option option] at empty
          have behind : executable? (word :: words) = some executable := by
            simpa [executable?, option] using found
          rcases executes empty executable behind with ⟨-, head, -⟩ | safe
          · have positional := List.find?_some found
            rw [List.head?_cons, Option.some.injEq] at head
            simp [← head, option] at positional
          · exact Or.inr safe

/-- The words that the signatures read are variants. -/
theorem WordsVariant.signature (variants : WordsVariant prims first words words') :
    WordsVariant prims first (signatureWords words) (signatureWords words') := by
  induction variants with
  | nil first => exact .nil first
  | @cons first word word' words words' variant rest ih =>
      have ends := variant.endsSignature_eq
      unfold signatureWords at ih ⊢
      rw [List.takeWhile_cons, List.takeWhile_cons, ← ends]
      cases endsSignature word with
      | true => exact .nil first
      | false => exact .cons variant ih

/-- Variants have an executable together. -/
theorem WordsVariant.executable?_isSome (variants : WordsVariant prims first words words') :
    (executable? words).isSome = (executable? words').isSome := by
  induction variants with
  | nil => rfl
  | @cons first word word' words words' variant rest ih =>
      unfold executable? at ih ⊢
      rw [List.find?_cons, List.find?_cons, ← variant.isOption_eq]
      cases isOption word with
      | true => exact ih
      | false => rfl

end Variants

/-! ### Commands that keep no value -/

section Kept

variable {prims : CommandPrimitives} {words : List Token} {parts : SignatureParts}
  {command command' : String}

theorem normalizeSignature_eq (prims : CommandPrimitives) (command : String) :
    normalizeSignature prims command =
      ((signatureWords (tokenize command)).foldl (SignatureParts.read prims) {}).text := by
  rw [normalizeSignature, collect_eq_foldl]

/-- Reading options leaves the kept words alone. -/
theorem family_foldl_of_options (options : ∀ word ∈ words, isOption word = true) :
    (words.foldl (SignatureParts.read prims) parts).family = parts.family := by
  induction words generalizing parts with
  | nil => rfl
  | cons word words ih =>
      rw [List.foldl_cons, ih fun w listed => options w (List.mem_cons_of_mem _ listed),
        read_of_option (options word List.mem_cons_self)]

/-- Without an executable the signature is empty. -/
theorem normalizeSignature_of_no_executable
    (missing : executable? (signatureWords (tokenize command)) = none) :
    normalizeSignature prims command = "" := by
  have options : ∀ word ∈ signatureWords (tokenize command), isOption word = true := by
    intro word listed
    have option := List.find?_eq_none.1 missing word listed
    simpa using option
  rw [normalizeSignature_eq, SignatureParts.text, family_foldl_of_options options, if_pos rfl]

/-- Two commands that differ in values only, and keep none, have the same signature. -/
theorem normalizeSignature_eq_of_variant (keeps : ∀ text, '=' ∈ text → '=' ∈ prims.lower text)
    (same : SameButValues prims command command') (kept : KeepsNoValue prims command)
    (kept' : KeepsNoValue prims command') :
    normalizeSignature prims command = normalizeSignature prims command' := by
  have variants := WordsVariant.signature same
  have together := variants.executable?_isSome
  cases found : executable? (signatureWords (tokenize command)) with
  | none =>
      rw [found, Option.isSome_none] at together
      have missing := Option.isSome_eq_false_iff.1 together.symm
      rw [normalizeSignature_of_no_executable found,
        normalizeSignature_of_no_executable (Option.isNone_iff_eq_none.1 missing)]
  | some executable =>
      rw [found, Option.isSome_some] at together
      obtain ⟨executable', found'⟩ := Option.isSome_iff_exists.1 together.symm
      obtain ⟨executes, plain⟩ := kept executable found
      obtain ⟨-, plain'⟩ := kept' executable' found'
      rw [normalizeSignature_eq, normalizeSignature_eq,
        variants.foldl_read_eq keeps plain plain' ?_]
      intro _ e here
      rw [found] at here
      cases here
      rcases executes with ⟨head, bare⟩ | safe
      · exact Or.inl ⟨rfl, head, bare⟩
      · exact Or.inr safe

end Kept

/-! ### Commands that keep a value -/

theorem length_le_intercalate {A : Type} {separator item : List A} {items : List (List A)}
    (listed : item ∈ items) : item.length ≤ (separator.intercalate items).length := by
  induction items with
  | nil => cases listed
  | cons head tail ih =>
      by_cases last : tail = []
      · subst last
        rw [List.mem_singleton.1 listed, List.intercalate_singleton]
      · rw [List.intercalate_cons_of_ne_nil last, List.length_append, List.length_append]
        rcases List.mem_cons.1 listed with rfl | behind
        · omega
        · have within := ih behind
          omega

section Leaks

variable {prims : CommandPrimitives} {parts : SignatureParts} {word word' : Token}
  {words front back : List Token} {command : String}

/-- What is kept is in the text of the signature. -/
theorem length_le_text (executes : parts.family ≠ []) (kept : word ∈ parts.family ∨ word ∈ parts.flags) :
    word.length ≤ parts.text.length := by
  rw [SignatureParts.text, if_neg executes, ← String.length_toList, String.toList_intercalate]
  apply length_le_intercalate
  refine List.mem_map.2 ⟨String.ofList word, ?_, String.toList_ofList⟩
  rw [List.mem_append, List.mem_insertionSort, List.mem_dedup]
  exact kept.imp List.mem_map_of_mem List.mem_map_of_mem

/-- A word that is read takes nothing back. -/
theorem read_mono (prims : CommandPrimitives) (parts : SignatureParts) (word : Token) :
    parts.family ⊆ (parts.read prims word).family ∧ parts.flags ⊆ (parts.read prims word).flags := by
  unfold SignatureParts.read
  split
  · cases flagName word with
    | none => exact ⟨List.Subset.refl _, List.Subset.refl _⟩
    | some name => exact ⟨List.Subset.refl _, List.subset_append_left _ _⟩
  · split
    · exact ⟨List.subset_append_left _ _, List.Subset.refl _⟩
    · exact ⟨List.Subset.refl _, List.Subset.refl _⟩

theorem foldl_read_mono (prims : CommandPrimitives) (parts : SignatureParts) (words : List Token) :
    parts.family ⊆ (words.foldl (SignatureParts.read prims) parts).family ∧
      parts.flags ⊆ (words.foldl (SignatureParts.read prims) parts).flags := by
  induction words generalizing parts with
  | nil => exact ⟨List.Subset.refl _, List.Subset.refl _⟩
  | cons word words ih =>
      obtain ⟨family, flags⟩ := read_mono prims parts word
      obtain ⟨family', flags'⟩ := ih (parts.read prims word)
      exact ⟨List.Subset.trans family family', List.Subset.trans flags flags'⟩

/-- A word that is no option leaves an executable among the kept words. -/
theorem family_foldl_ne_nil (listed : word ∈ words) (positional : isOption word = false) :
    (words.foldl (SignatureParts.read prims) parts).family ≠ [] := by
  obtain ⟨before, behind, rfl⟩ := List.append_of_mem listed
  rw [List.foldl_append, List.foldl_cons]
  intro empty
  have kept := (foldl_read_mono prims ((before.foldl (SignatureParts.read prims) parts).read prims word) behind).1
  rw [empty, List.subset_nil] at kept
  exact family_read_ne_nil positional kept

theorem wordsVariant_refl (first : Bool) (words : List Token) : WordsVariant prims first words words := by
  induction words generalizing first with
  | nil => exact .nil first
  | cons word words ih => exact .cons (.same word) (ih false)

/-- A variant of one word. -/
theorem wordsVariant_splice {first : Bool} (variant : ValueVariant prims (first && front.isEmpty) word word') :
    WordsVariant prims first (front ++ word :: back) (front ++ word' :: back) := by
  induction front generalizing first with
  | nil =>
      rw [List.isEmpty_nil, Bool.and_true] at variant
      exact .cons variant (wordsVariant_refl false back)
  | cons head front ih =>
      rw [List.isEmpty_cons, Bool.and_false] at variant
      refine .cons (.same head) (ih ?_)
      rwa [Bool.false_and]

/-- A command whose signature keeps a long variant of one of its words has a variant with another signature. -/
theorem exists_variant_of_kept (split : signatureWords (tokenize command) = front ++ word :: back)
    (variant : ValueVariant prims front.isEmpty word word')
    (kept : ∀ rest, let parts := (front ++ word' :: (back ++ rest)).foldl (SignatureParts.read prims) {}
      parts.family ≠ [] ∧ ∃ long, (normalizeSignature prims command).length < long.length ∧
        (long ∈ parts.family ∨ long ∈ parts.flags)) :
    ∃ command', SameButValues prims command command' ∧
      normalizeSignature prims command' ≠ normalizeSignature prims command := by
  have whole : ∃ rest, tokenize command = front ++ word :: (back ++ rest) := by
    refine ⟨(tokenize command).dropWhile fun w => !endsSignature w, ?_⟩
    rw [← List.cons_append, ← List.append_assoc, ← split]
    exact List.takeWhile_append_dropWhile.symm
  obtain ⟨rest, whole⟩ := whole
  have goes : ∀ w ∈ front ++ word :: back, (!endsSignature w) = true := by
    rw [← split]
    exact List.all_eq_true.1 List.all_takeWhile
  have goes' : ∀ w ∈ front ++ word' :: back, (!endsSignature w) = true := by
    simp only [List.forall_mem_append, List.forall_mem_cons] at goes ⊢
    rwa [← variant.endsSignature_eq]
  have read : signatureWords (front ++ word' :: (back ++ rest)) =
      front ++ word' :: (back ++ signatureWords rest) := by
    rw [← List.cons_append, ← List.append_assoc, signatureWords, List.takeWhile_append_of_pos goes',
      List.append_assoc, List.cons_append, signatureWords]
  refine ⟨joinWords (front ++ word' :: (back ++ rest)), ?_, ?_⟩
  · rw [SameButValues, tokenize_joinWords, whole]
    apply wordsVariant_splice
    rwa [Bool.true_and]
  · intro same
    obtain ⟨executes, long, longer, listed⟩ := kept (signatureWords rest)
    have within := length_le_text executes listed
    have signature := normalizeSignature_eq prims (joinWords (front ++ word' :: (back ++ rest)))
    rw [tokenize_joinWords, read, same] at signature
    rw [← signature] at within
    omega

/-- A text that is longer than the signature of a command. -/
def longValue (prims : CommandPrimitives) (command : String) : Token :=
  List.replicate ((normalizeSignature prims command).length + 1) 'x'

theorem lt_length_longValue (prims : CommandPrimitives) (command : String) :
    (normalizeSignature prims command).length < (longValue prims command).length := by
  simp [longValue]

theorem equals_notMem_longValue (prims : CommandPrimitives) (command : String) :
    '=' ∉ longValue prims command := by
  simp [longValue]

/-- The executable is a value: it shows in the signature. -/
theorem exists_variant_of_executable (keeps : ∀ text, '=' ∈ text → '=' ∈ prims.lower text)
    {executable : Token} (found : executable? (signatureWords (tokenize command)) = some executable)
    (value : ¬ ExecutableIsNoValue prims (signatureWords (tokenize command)) executable) :
    ∃ command', SameButValues prims command command' ∧
      normalizeSignature prims command' ≠ normalizeSignature prims command := by
  obtain ⟨positional, front, back, split, options⟩ := List.find?_eq_some_iff_append.1 found
  simp only [Bool.not_eq_true', Bool.not_eq_false'] at positional options
  simp only [ExecutableIsNoValue, not_or, not_and, not_not] at value
  have executes (word' : Token) (positional' : isOption word' = false) (rest : List Token) :
      ((front ++ word' :: (back ++ rest)).foldl (SignatureParts.read prims) {}).family ≠ [] ∧
        word' ∈ ((front ++ word' :: (back ++ rest)).foldl (SignatureParts.read prims) {}).family := by
    have empty : (front.foldl (SignatureParts.read prims) {}).family = [] := family_foldl_of_options options
    rw [List.foldl_append, List.foldl_cons, read_of_empty positional' empty]
    have kept := (foldl_read_mono prims { front.foldl (SignatureParts.read prims) {} with family := [word'] }
      (back ++ rest)).1
    exact ⟨List.ne_nil_of_mem (kept List.mem_cons_self), kept List.mem_cons_self⟩
  have longer := lt_length_longValue prims command
  cases front with
  | nil =>
      -- the first word, with an equals sign
      have equals : '=' ∈ executable := value.1 (by rw [split]; rfl)
      obtain ⟨name, text, rfl⟩ := List.append_of_mem equals
      refine exists_variant_of_kept split (.afterEquals name text (longValue prims command)) ?_
      intro rest
      rw [isOption_append_equals name text (longValue prims command)] at positional
      obtain ⟨nonempty, kept⟩ := executes _ positional rest
      refine ⟨nonempty, _, ?_, Or.inl kept⟩
      simp only [List.length_append, List.length_cons]
      omega
  | cons option front =>
      -- a positional word behind an option
      have listed : executable ∈ signatureWords (tokenize command) := by
        rw [split]
        simp
      have bare : IsPositionalValue prims executable :=
        ⟨positional, notMem_shellOperators (endsSignature_of_mem listed), value.2⟩
      have other : IsPositionalValue prims ('=' :: longValue prims command) :=
        ⟨by simp, notMem_shellOperators (endsSignature_of_equals (by simp)),
          lower_notMem_of_equals keeps (by simp)⟩
      refine exists_variant_of_kept split (.positional rfl bare other) ?_
      intro rest
      obtain ⟨nonempty, kept⟩ := executes ('=' :: longValue prims command) (by simp) rest
      refine ⟨nonempty, _, ?_, Or.inl kept⟩
      rw [List.length_cons]
      omega

/-- A short option whose kept part is longer than its letter. -/
theorem exists_letter (value : ¬ NameIsLetter word) :
    ∃ letter text, word = '-' :: letter :: text ∧ letter ≠ '-' ∧ letter ≠ '=' := by
  simp only [NameIsLetter, not_forall, not_le] at value
  obtain ⟨option, short, equals, long⟩ := value
  match word with
  | [] => cases equals
  | [c] =>
      have length := (List.takeWhile_sublist (fun c => decide (c ≠ '=')) (l := [c])).length_le
      rw [List.length_singleton] at length
      omega
  | c :: letter :: text =>
      have dash : '-' = c := by simpa using option
      subst dash
      refine ⟨letter, text, rfl, ?_, ?_⟩
      · rintro rfl
        simp [List.isPrefixOf] at short
      · rintro rfl
        simp at long

/-- The part before the equals sign is the name of the flag. -/
theorem flagName_long {letter : Char} (sign : letter ≠ '=') {text : Token} (plain : '=' ∉ text) :
    flagName ('-' :: letter :: (text ++ ['='])) = some ('-' :: letter :: text) := by
  have before : ∀ c ∈ '-' :: letter :: text, decide (c ≠ '=') = true := by
    intro c listed
    refine decide_eq_true ?_
    rintro rfl
    simp [sign.symm, plain] at listed
  rw [flagName, if_pos (by simp), ← List.cons_append, ← List.cons_append,
    List.takeWhile_append_of_pos before]
  simp

/-- A short option with an equals sign in its value shows it in the signature. -/
theorem exists_variant_of_option {executable : Token}
    (found : executable? (signatureWords (tokenize command)) = some executable)
    (listed : word ∈ signatureWords (tokenize command)) (value : ¬ NameIsLetter word) :
    ∃ command', SameButValues prims command command' ∧
      normalizeSignature prims command' ≠ normalizeSignature prims command := by
  obtain ⟨letter, text, rfl, dash, sign⟩ := exists_letter value
  obtain ⟨front, back, split⟩ := List.append_of_mem listed
  refine exists_variant_of_kept split
    (.attached dash text (longValue prims command ++ ['='])) ?_
  intro rest
  have positional : isOption executable = false := by simpa using List.find?_some found
  have executes : executable ∈ front ++ ('-' :: letter :: (longValue prims command ++ ['='])) :: (back ++ rest) := by
    have among := List.mem_of_find?_eq_some found
    rw [split, List.mem_append, List.mem_cons] at among
    rcases among with before | rfl | behind
    · simp [before]
    · simp at positional
    · simp [behind]
  refine ⟨family_foldl_ne_nil executes positional, '-' :: letter :: longValue prims command, ?_, Or.inr ?_⟩
  · have longer := lt_length_longValue prims command
    simp only [List.length_cons]
    omega
  · rw [List.foldl_append, List.foldl_cons, read_of_option (by simp),
      flagName_long sign (equals_notMem_longValue prims command)]
    exact (foldl_read_mono prims _ (back ++ rest)).2 (by simp)

end Leaks

/-! ### The history of durations -/

/-- An observed duration of a command. -/
structure CommandRun where
  command : String
  durationS : ℚ
  background : Bool
  success : Bool
  now : ℚ
  stored : Bool

/-- The learner after a sequence of runs. -/
def recordedHistory (prims : CommandPrimitives) (h : CommandDurationHistory) (runs : List CommandRun) :
    CommandDurationHistory :=
  runs.foldl (fun h run =>
    h.record prims run.command run.durationS run.background run.success run.now run.stored) h

/-- Two runs that differ in the values of their commands only, which keep none. -/
def SameRunButValues (prims : CommandPrimitives) (run run' : CommandRun) : Prop :=
  SameButValues prims run.command run'.command ∧ KeepsNoValue prims run.command ∧
    KeepsNoValue prims run'.command ∧ run' = { run with command := run'.command }

/-- The history does not tell such runs apart. -/
theorem recordedHistory_eq {prims : CommandPrimitives} (keeps : ∀ text, '=' ∈ text → '=' ∈ prims.lower text)
    {runs runs' : List CommandRun} (same : List.Forall₂ (SameRunButValues prims) runs runs')
    (h : CommandDurationHistory) : recordedHistory prims h runs = recordedHistory prims h runs' := by
  induction same generalizing h with
  | nil => rfl
  | @cons run run' runs runs' here rest ih =>
      obtain ⟨values, kept, kept', data⟩ := here
      have signature := normalizeSignature_eq_of_variant keeps values kept kept'
      have step : h.record prims run.command run.durationS run.background run.success run.now run.stored =
          h.record prims run'.command run'.durationS run'.background run'.success run'.now run'.stored := by
        rw [data]
        simp only [CommandDurationHistory.record, signature]
      have later := ih (h.record prims run.command run.durationS run.background run.success run.now run.stored)
      rw [recordedHistory, List.foldl_cons, ← recordedHistory, later, recordedHistory, recordedHistory,
        List.foldl_cons, ← step]

/-! ### The signature and the values -/

/-- Commands that differ in their values only, and keep none, have one signature, and the history does not tell
    runs of them apart. A command that keeps a value has a variant with another signature. -/
theorem signatures_hide_values (prims : CommandPrimitives)
    (keeps : ∀ text, '=' ∈ text → '=' ∈ prims.lower text) :
    (∀ command command', SameButValues prims command command' → KeepsNoValue prims command →
        KeepsNoValue prims command' → normalizeSignature prims command = normalizeSignature prims command') ∧
      (∀ runs runs', List.Forall₂ (SameRunButValues prims) runs runs' → ∀ h,
        recordedHistory prims h runs = recordedHistory prims h runs') ∧
      ∀ command, ¬ KeepsNoValue prims command →
        ∃ command', SameButValues prims command command' ∧
          normalizeSignature prims command' ≠ normalizeSignature prims command := by
  refine ⟨fun _ _ => normalizeSignature_eq_of_variant keeps, fun _ _ => recordedHistory_eq keeps, ?_⟩
  intro command value
  simp only [KeepsNoValue, not_forall, not_and_or] at value
  obtain ⟨executable, found, executes | ⟨word, listed, kept⟩⟩ := value
  · exact exists_variant_of_executable keeps found executes
  · exact exists_variant_of_option found listed kept

/-- The sample primitives keep an equals sign. -/
theorem sample_lower_keeps (text : List Char) (equals : '=' ∈ text) :
    '=' ∈ sampleCommandPrimitives.lower text :=
  List.mem_map.2 ⟨'=', equals, by decide⟩

/-- The number of jobs and the target leave no trace. -/
theorem signatures_hide_values_sample :
    normalizeSignature sampleCommandPrimitives "make -j8 all" =
      normalizeSignature sampleCommandPrimitives "make -j4 docs" := by
  have words : tokenize "make -j8 all" = ["make".toList, '-' :: 'j' :: ['8'], "all".toList] := by
    decide +kernel
  have words' : tokenize "make -j4 docs" = ["make".toList, '-' :: 'j' :: ['4'], "docs".toList] := by
    decide +kernel
  have same : SameButValues sampleCommandPrimitives "make -j8 all" "make -j4 docs" := by
    rw [SameButValues, words, words']
    refine .cons (.same _) (.cons (.attached (by decide) _ _) (.cons ?_ (.nil _)))
    exact .positional rfl ⟨by decide, by decide, by decide +kernel⟩ ⟨by decide, by decide, by decide +kernel⟩
  exact (signatures_hide_values sampleCommandPrimitives sample_lower_keeps).1 _ _ same (by decide +kernel)
    (by decide +kernel)

/-- A secret in front of the command, and one that is attached to a short option and has an equals sign, are in the
    signatures. -/
theorem secrets_in_signatures :
    (¬ ∀ command command', SameButValues sampleCommandPrimitives command command' →
      normalizeSignature sampleCommandPrimitives command =
        normalizeSignature sampleCommandPrimitives command') ∧
    normalizeSignature sampleCommandPrimitives "TOKEN=hunter2 make" = "TOKEN=hunter2 make" ∧
    normalizeSignature sampleCommandPrimitives "TOKEN=swordfish make" = "TOKEN=swordfish make" ∧
    normalizeSignature sampleCommandPrimitives "mysql -phunter2=" = "mysql -phunter2" := by
  have secret : normalizeSignature sampleCommandPrimitives "TOKEN=hunter2 make" = "TOKEN=hunter2 make" := by
    decide +kernel
  have other : normalizeSignature sampleCommandPrimitives "TOKEN=swordfish make" = "TOKEN=swordfish make" := by
    decide +kernel
  refine ⟨?_, secret, other, by decide +kernel⟩
  intro hides
  have words : tokenize "TOKEN=hunter2 make" = ["TOKEN".toList ++ '=' :: "hunter2".toList, "make".toList] := by
    decide +kernel
  have words' : tokenize "TOKEN=swordfish make" =
      ["TOKEN".toList ++ '=' :: "swordfish".toList, "make".toList] := by
    decide +kernel
  have same : SameButValues sampleCommandPrimitives "TOKEN=hunter2 make" "TOKEN=swordfish make" := by
    rw [SameButValues, words, words']
    exact .cons (.afterEquals _ _ _) (.cons (.same _) (.nil _))
  have equal := hides _ _ same
  rw [secret, other] at equal
  exact absurd equal (by decide)

end CachePilot
