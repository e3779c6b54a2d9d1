/-
Module: CachePilot.Hermes.CommandSignature
Layer: Hermes
Purpose: The persistable identity of a shell command: its executable, the recognised subcommand words and the
  names of its flags. A command is split like a POSIX shell splits it, and at blanks when its quotes do not
  close. Texts are lists of characters. Lower case and the reading of a float are parameters.
Trusted boundary: the reading of duration_history.py and of shell splitting; lower case is a parameter
Main exports: CommandPrimitives, shlexSplit, tokenize, normalizeSignature
-/
import Mathlib.Data.List.Sort
import CachePilot.Core.Telemetry

namespace CachePilot

/-- What is used of text as it is: the lower-case form of a text, and the float that a text reads as. -/
structure CommandPrimitives where
  lower : List Char → List Char
  parseFloat : String → Option JsonFloat

/-- A word of a command. -/
abbrev Token := List Char

/-! ### Splitting a command -/

/-- Blank characters of a text. -/
def isSpace (c : Char) : Bool :=
  (0x09 ≤ c.toNat ∧ c.toNat ≤ 0x0D) ∨ (0x1C ≤ c.toNat ∧ c.toNat ≤ 0x20) ∨
    (0x2000 ≤ c.toNat ∧ c.toNat ≤ 0x200A) ∨
    c.toNat ∈ [0x85, 0xA0, 0x1680, 0x2028, 0x2029, 0x202F, 0x205F, 0x3000]

/-- The text has a character that is not blank. -/
def hasContent (text : String) : Bool := text.toList.any fun c => !isSpace c

/-- Words between blanks; `word` is the word being read. -/
def splitBlanks (word : Token) : List Char → List Token
  | [] => if word = [] then [] else [word]
  | c :: rest =>
      if isSpace c then
        if word = [] then splitBlanks [] rest else word :: splitBlanks [] rest
      else splitBlanks (word ++ [c]) rest

/-- Where the lexer is: between words, in a word, inside quotes, or behind a backslash, which remembers the
    quotes it stands in. -/
inductive LexerState where
  | blank
  | word
  | quoted (quote : Char)
  | escaped (within : Option Char)
deriving DecidableEq

/-- The blanks between the words of a shell command. -/
def isShellBlank (c : Char) : Bool := c = ' ' ∨ c = '\t' ∨ c = '\r' ∨ c = '\n'

def isQuote (c : Char) : Bool := c = '\'' ∨ c = '"'

/-- A word ends: it counts when it has a character or had quotes. -/
def emitToken (token : Token) (hadQuotes : Bool) (rest : List Token) : List Token :=
  if token ≠ [] ∨ hadQuotes then token :: rest else rest

/-- POSIX words of a command. Quotes that are not closed and a backslash at the end raise. Inside double quotes
    a backslash escapes only itself and the quote. -/
def shlexSplit (state : LexerState) (token : Token) (hadQuotes : Bool) :
    List Char → Option (List Token)
  | [] =>
      match state with
      | .blank => some []
      | .word => some (emitToken token hadQuotes [])
      | .quoted _ => none
      | .escaped _ => none
  | c :: rest =>
      match state with
      | .blank =>
          if isShellBlank c then shlexSplit .blank [] false rest
          else if c = '\\' then shlexSplit (.escaped none) [] false rest
          else if isQuote c then shlexSplit (.quoted c) [] true rest
          else shlexSplit .word [c] false rest
      | .word =>
          if isShellBlank c then
            (shlexSplit .blank [] false rest).map (emitToken token hadQuotes)
          else if isQuote c then shlexSplit (.quoted c) token true rest
          else if c = '\\' then shlexSplit (.escaped none) token hadQuotes rest
          else shlexSplit .word (token ++ [c]) hadQuotes rest
      | .quoted quote =>
          if c = quote then shlexSplit .word token hadQuotes rest
          else if c = '\\' ∧ quote = '"' then shlexSplit (.escaped (some quote)) token hadQuotes rest
          else shlexSplit (.quoted quote) (token ++ [c]) hadQuotes rest
      | .escaped none => shlexSplit .word (token ++ [c]) hadQuotes rest
      | .escaped (some quote) =>
          if c ≠ '\\' ∧ c ≠ quote then
            shlexSplit (.quoted quote) (token ++ ['\\', c]) hadQuotes rest
          else shlexSplit (.quoted quote) (token ++ [c]) hadQuotes rest

/-- The words of a command, at blanks when it does not lex. -/
def tokenize (command : String) : List Token :=
  match shlexSplit .blank [] false command.toList with
  | some tokens => tokens
  | none => splitBlanks [] command.toList

/-- An unclosed quote falls back to the blanks. -/
example : tokenize "uv run 'my test' a\\ b" = ["uv", "run", "my test", "a b"].map String.toList ∧
    tokenize "echo 'it" = ["echo", "'it"].map String.toList := by
  decide +kernel

/-! ### The signature -/

/-- The operators that end the command portion of a line. -/
def shellOperators : List Token :=
  ["&&", "||", ";", "|", ">", ">>", "<", "2>", "2>>", "&", "(", ")"].map String.toList

/-- Words that are safe to persist behind the executable. -/
def safeSubcommandWords : List Token :=
  ["run", "test", "build", "install", "uninstall", "exec", "compose",
    "clone", "pull", "push", "add", "update", "upgrade", "lint", "fmt",
    "format", "check", "bench", "benchmark", "init", "new", "generate",
    "deploy", "serve", "watch", "dev", "start", "stop", "clean", "audit",
    "sync", "list", "show", "get", "set", "configure", "buildx", "search",
    "download", "fetch", "compile", "package", "publish", "login", "logout",
    "create", "delete", "remove", "reset", "verify", "validate", "export",
    "import", "migrate", "seed", "scaffold", "doctor", "env", "shell",
    "repl", "lock", "unlock", "stats", "status",
    "pytest", "unittest", "ruff", "mypy", "pip", "npm", "yarn", "pnpm",
    "uv", "poetry", "cargo", "docker", "make", "cmake", "ninja", "git",
    "go", "node", "python", "python3", "pipenv", "nox", "tox",
    "pre-commit", "black", "isort", "flake8", "sphinx", "mkdocs"].map String.toList

/-- What is kept of a command so far. -/
structure SignatureParts where
  family : List Token := []
  flags : List Token := []

/-- The name of a flag, without its value: the part before the equals sign, a long flag, or the letter of a
    short one. The lone dash of the standard input is no flag. -/
def flagName (token : Token) : Option Token :=
  if '=' ∈ token then some (token.takeWhile (· ≠ '='))
  else if ['-', '-'].isPrefixOf token then some token
  else if token = ['-'] then none
  else some (token.take 2)

/-- Read one word: a flag keeps its name, the executable is kept, and up to two more words that are safe. -/
def SignatureParts.read (prims : CommandPrimitives) (parts : SignatureParts) (token : Token) :
    SignatureParts :=
  if ['-'].isPrefixOf token then
    match flagName token with
    | some name => { parts with flags := parts.flags ++ [name] }
    | none => parts
  else if parts.family = [] ∨
      (parts.family.length < 3 ∧ prims.lower token ∈ safeSubcommandWords) then
    { parts with family := parts.family ++ [token] }
  else parts

/-- Read the words up to the first shell operator or double dash. -/
def SignatureParts.collect (prims : CommandPrimitives) (parts : SignatureParts) :
    List Token → SignatureParts
  | [] => parts
  | token :: rest =>
      if token ∈ shellOperators ∨ token = ['-', '-'] then parts
      else SignatureParts.collect prims (parts.read prims token) rest

/-- The kept words and the sorted flag names, with single blanks between them; empty without an executable. -/
def SignatureParts.text (parts : SignatureParts) : String :=
  if parts.family = [] then ""
  else
    let flags := (parts.flags.map String.ofList).dedup.insertionSort (· ≤ ·)
    " ".intercalate (parts.family.map String.ofList ++ flags)

/-- Reduce a shell command to a persistable identity. -/
def normalizeSignature (prims : CommandPrimitives) (command : String) : String :=
  (SignatureParts.collect prims {} (tokenize command)).text

/-- The primitives, for ASCII texts and numerals of integers. -/
def sampleCommandPrimitives : CommandPrimitives where
  lower := List.map Char.toLower
  parseFloat := fun text => text.toInt?.map fun n => .finite n

/-- Flag values and positional values leave no trace. -/
example : normalizeSignature sampleCommandPrimitives "uv run pytest tests/unit -x --seed=7 -pSECRET" =
    "uv run pytest --seed -p -x" := by
  decide +kernel

end CachePilot
