/-
Module: CachePilot.Hermes.ToolMiddleware
Layer: Hermes
Purpose: The tool-request middleware: the deterministic classifier of terminal commands and the promotion to the
  background, which registers a process target. An error anywhere passes the call through unchanged. What the
  duration learner answers for a command is an argument. Floats are exact, and an integer too large for a float
  raises. The environment of the classifier is read by nothing and left out, and so are log lines.
Trusted boundary: the reading of tool_middleware.py and classifier.py, with exact durations
Main exports: LongTasksSettings, CommandDurationStats, Classification, classify, ToolPromotion, toolRequest
-/
import CachePilot.Core.Adapters
import CachePilot.Hermes.Targets

namespace CachePilot

/-- Comparison of floats; nothing compares with a nan. -/
def JsonFloat.le : JsonFloat → JsonFloat → Bool
  | .nan, _ => false
  | _, .nan => false
  | .negInfinity, _ => true
  | _, .infinity => true
  | .finite a, .finite b => a ≤ b
  | _, _ => false

/-- Static long-running hints. -/
def defaultKnownLongCommands : List String :=
  ["pytest", "uv run pytest", "yarn test", "yarn build", "yarn lint", "docker build",
    "docker compose build", "cargo build", "cargo test", "make", "cmake --build", "ninja",
    "git clone", "git submodule update", "pip install", "npm install", "apt-get install",
    "brew install", "mvn test", "mvn package", "gradle build", "go test", "go build", "benchmark",
    "bench"]

/-- Likely-fast commands. -/
def defaultKnownForegroundCommands : List String :=
  ["pwd", "ls", "git status", "git diff", "git diff --stat", "cat", "head", "tail", "rg", "sed",
    "which", "echo", "printf", "true", "false"]

/-- Long-task manager settings. -/
structure LongTasksSettings where
  enabled : Bool := true
  autoBackground : Bool := true
  timeoutThresholdS : JsonFloat := .finite 20
  learnCommandDurations : Bool := true
  notifyOnComplete : Bool := true
  knownLongCommands : List String := defaultKnownLongCommands
  knownForegroundCommands : List String := defaultKnownForegroundCommands
  enforceForegroundHardPolicy : Bool := false

/-- Aggregate duration stats for one command signature. -/
structure CommandDurationStats where
  signature : String
  sampleCount : ℕ
  runtimeP50 : Option JsonFloat := none
  runtimeP90 : Option JsonFloat := none
  runtimeP95 : Option JsonFloat := none
  backgroundSuccessRate : Option JsonFloat := none

/-! ### The classifier -/

/-- Why a command was classified as it was. -/
inductive ClassificationReason where
  | noCommand
  | explicitBackground
  | explicitForeground
  | requestedTimeout (seconds : JsonFloat)
  | learnedP90 (seconds : JsonFloat)
  | knownFast
  | knownLong
  | default
deriving DecidableEq

/-- The verdict on a command with its reason. -/
structure Classification where
  longRunning : Bool
  reason : ClassificationReason
deriving DecidableEq

/-- Learned durations need this many samples. -/
def minLearnedSamples : ℕ := 2

/-- The integers that no float is near. -/
def overflowsFloat (n : ℤ) : Bool := Nat.pow 2 1024 - Nat.pow 2 970 ≤ n.natAbs

/-- A value as a float, where it is one; an integer that is too large raises. -/
def asFloat (prims : CommandPrimitives) : Json → Option (Option JsonFloat)
  | .null => some none
  | .bool value => some (some (.finite (if value then 1 else 0)))
  | .int value => if overflowsFloat value then none else some (some (.finite value))
  | .float value => some (some value)
  | .str value => some (prims.parseFloat value)
  | .arr _ => some none
  | .obj _ => some none

/-- Command families as words; blank entries are dropped. -/
def tokenizeFamilies (entries : List String) : List (List Token) :=
  (entries.filter hasContent).map fun entry => splitBlanks [] entry.toList

/-- The first words of the command are a family, but for the case. -/
def matchesAnyFamily (prims : CommandPrimitives) (tokens : List Token) (families : List (List Token)) :
    Bool :=
  families.any fun family => (family.map prims.lower).isPrefixOf (tokens.map prims.lower)

/-- The command of a tool call. -/
def commandOf (args : List (String × Json)) : Option String :=
  match getMember args "command" with
  | some (.str command) => if hasContent command then some command else none
  | _ => none

/-- Classify one terminal tool call by the explicit flag, the requested timeout, the learned duration and the
    known families, in this order. -/
def classify (prims : CommandPrimitives) (settings : LongTasksSettings) (args : List (String × Json))
    (stats : Option CommandDurationStats) : Option Classification :=
  match commandOf args with
  | none => some ⟨false, .noCommand⟩
  | some command =>
      match getMember args "background" with
      | some (.bool true) => some ⟨true, .explicitBackground⟩
      | background =>
          if background matches some (.bool false) ∧ !settings.enforceForegroundHardPolicy then
            some ⟨false, .explicitForeground⟩
          else
            match asFloat prims ((getMember args "timeout").getD .null) with
            | none => none
            | some requested =>
                match requested.filter settings.timeoutThresholdS.le with
                | some seconds => some ⟨true, .requestedTimeout seconds⟩
                | none =>
                    let learned := (stats.filter fun s => minLearnedSamples ≤ s.sampleCount).bind
                      CommandDurationStats.runtimeP90
                    match learned.filter settings.timeoutThresholdS.le with
                    | some seconds => some ⟨true, .learnedP90 seconds⟩
                    | none =>
                        let tokens := tokenize command
                        if matchesAnyFamily prims tokens
                            (tokenizeFamilies settings.knownForegroundCommands) then
                          some ⟨false, .knownFast⟩
                        else if matchesAnyFamily prims tokens
                            (tokenizeFamilies settings.knownLongCommands) then
                          some ⟨true, .knownLong⟩
                        else some ⟨false, .default⟩

/-! ### The middleware -/

/-- Assign to a key, in its place when it is present. -/
def setMember (members : List (String × Json)) (key : String) (value : Json) :
    List (String × Json) :=
  if key ∈ memberKeys members then replaceMember members key value else members ++ [(key, value)]

/-- What a promotion returns. -/
structure ToolPromotion where
  args : List (String × Json)
  source : String := "cachepilot"
  reason : String := "long-running command"

/-- The arguments of a promoted call. -/
def promotedArgs (settings : LongTasksSettings) (args : List (String × Json)) : List (String × Json) :=
  let updated := setMember args "background" (.bool true)
  if settings.notifyOnComplete then setMember updated "notify_on_complete" (.bool true) else updated

/-- Arm a process target for a promoted command. -/
def registerProcessTarget (prims : CommandPrimitives) (registry : BackgroundTargetRegistry)
    (args : List (String × Json)) (sessionId : String) (now : ℚ) : BackgroundTargetRegistry :=
  match commandOf args with
  | none => registry
  | some command =>
      BackgroundTargetRegistry.register registry
        { id := processTargetId prims command, kind := .process, sessionId, startedAt := now }

/-- The tool-request middleware. A terminal call that is long-running is promoted and registered; every other
    call, and every error, passes through. `learned` is what the duration learner answers for a command. -/
def toolRequest (prims : CommandPrimitives) (settings : LongTasksSettings)
    (learned : String → Option CommandDurationStats) (registry : BackgroundTargetRegistry)
    (toolName : String) (args : Json) (sessionId : String) (now : ℚ) :
    BackgroundTargetRegistry × Option ToolPromotion :=
  if toolName ≠ "terminal" ∨ !settings.enabled ∨ !settings.autoBackground then (registry, none)
  else
    match args with
    | .obj members =>
        let stats :=
          match settings.learnCommandDurations, getMember members "command" with
          | true, some (.str command) => learned command
          | _, _ => none
        match classify prims settings members stats with
        | some ⟨true, _⟩ =>
            (registerProcessTarget prims registry members sessionId now,
              some { args := promotedArgs settings members })
        | _ => (registry, none)
    | _ => (registry, none)

/-- Assigning to one key leaves the others alone. -/
theorem getMember_setMember_of_ne (members : List (String × Json)) {key other : String} (value : Json)
    (differs : other ≠ key) : getMember (setMember members key value) other = getMember members other := by
  unfold setMember
  split
  · rw [getMember_replaceMember, if_neg differs]
  · have miss : (other == key) = false := by simpa using differs
    simp [getMember, List.lookup_append, List.lookup_cons, miss]

/-- A promotion keeps the command. -/
theorem commandOf_promotedArgs (settings : LongTasksSettings) (members : List (String × Json)) :
    commandOf (promotedArgs settings members) = commandOf members := by
  have kept : getMember (promotedArgs settings members) "command" = getMember members "command" := by
    unfold promotedArgs
    dsimp only
    split
    · rw [getMember_setMember_of_ne _ _ (by decide), getMember_setMember_of_ne _ _ (by decide)]
    · rw [getMember_setMember_of_ne _ _ (by decide)]
  rw [commandOf, kept, commandOf]

/-- A call without a command is never long-running. -/
theorem commandOf_of_longRunning {prims : CommandPrimitives} {settings : LongTasksSettings}
    {args : List (String × Json)} {stats : Option CommandDurationStats} {reason : ClassificationReason}
    (long : classify prims settings args stats = some ⟨true, reason⟩) :
    ∃ command, commandOf args = some command := by
  cases found : commandOf args with
  | some command => exact ⟨command, rfl⟩
  | none =>
      rw [classify, found] at long
      cases long

/-- What the middleware does to a call: it passes it through and registers nothing, or it promotes a terminal
    call with a command and registers its target. -/
theorem toolRequest_cases (prims : CommandPrimitives) (settings : LongTasksSettings)
    (learned : String → Option CommandDurationStats) (registry : BackgroundTargetRegistry)
    (toolName : String) (args : Json) (sessionId : String) (now : ℚ) :
    toolRequest prims settings learned registry toolName args sessionId now = (registry, none) ∨
      ∃ members command, toolName = "terminal" ∧ settings.enabled = true ∧ args = .obj members ∧
        commandOf members = some command ∧
        toolRequest prims settings learned registry toolName args sessionId now =
          (registry.acquire (processTargetId prims command)
              { id := processTargetId prims command, kind := .process, sessionId, startedAt := now },
            some { args := promotedArgs settings members }) := by
  unfold toolRequest
  split
  · exact Or.inl rfl
  · rename_i candidate
    simp only [not_or, Bool.not_eq_true', Bool.not_eq_false] at candidate
    cases args with
    | obj members =>
        dsimp only
        split
        · rename_i reason long
          obtain ⟨command, found⟩ := commandOf_of_longRunning long
          refine Or.inr ⟨members, command, not_not.1 candidate.1, candidate.2.1, rfl, found, ?_⟩
          rw [registerProcessTarget, found]
          dsimp only
          rw [BackgroundTargetRegistry.register_named _ (processTargetId_ne_empty prims command)]
        · exact Or.inl rfl
    | _ => exact Or.inl rfl

/-- A known-long command is promoted, in its explicit foreground form it is not. -/
example :
    (toolRequest sampleCommandPrimitives {} (fun _ => none) ∅ "terminal"
      (.obj [("command", .str "make all")]) "s" 0).2.isSome = true ∧
    (toolRequest sampleCommandPrimitives {} (fun _ => none) ∅ "terminal"
      (.obj [("command", .str "make all"), ("background", .bool false)]) "s" 0).2.isSome = false := by
  decide +kernel

end CachePilot
