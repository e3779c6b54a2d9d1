/-
Module: CachePilot.Proofs.PrefixLoss
Layer: Proofs
Purpose: What the estimated prefix loss counts. A request is serialized with sorted keys, so its members stand in
  the order cache key, messages, model, route, system, tools. The loss is the rest of the first member that
  differs and everything behind it. An appended message breaks the list of messages in front of the system and
  the tools; the layers of the request have another order. So a change of the tools alone is estimated faithfully, one
  of the cache key never, and one of the messages only where they share as much as is written behind them.
Trusted boundary: none
Main exports: serializedMembers, serialize_toList, lostCharacters, estimatedLoss_serialize, Appended,
  charactersFromBreak, FaithfulLoss, not_faithfulLoss_of_cacheKey, faithfulLoss_of_tools, shared_of_faithfulLoss,
  faithful_loss_iff, appended_turn_lost
-/
import Mathlib.Algebra.Order.BigOperators.Group.List
import CachePilot.Proofs.StoredTopology

namespace CachePilot

open Churn NestedText QuotedText

/-! ### Common prefixes -/

theorem commonPrefixLength_self (text : List Char) : commonPrefixLength text text = text.length := by
  induction text with
  | nil => rfl
  | cons c rest ih => rw [commonPrefixLength, if_pos rfl, ih, List.length_cons]

theorem commonPrefixLength_append (shared s t : List Char) :
    commonPrefixLength (shared ++ s) (shared ++ t) = shared.length + commonPrefixLength s t := by
  induction shared with
  | nil => rw [List.nil_append, List.nil_append, List.length_nil, Nat.zero_add]
  | cons c rest ih =>
      rw [List.cons_append, List.cons_append, commonPrefixLength, if_pos rfl, ih, List.length_cons]
      omega

theorem commonPrefixLength_le (s t : List Char) : commonPrefixLength s t ≤ s.length := by
  induction s generalizing t with
  | nil => exact Nat.zero_le _
  | cons c rest ih =>
      cases t with
      | nil => exact Nat.zero_le _
      | cons d more =>
          rw [commonPrefixLength, List.length_cons]
          split
          · exact Nat.succ_le_succ (ih more)
          · exact Nat.zero_le _

/-- Two texts part, or one of them goes on behind the other. -/
theorem parts_or_extends (s t : List Char) :
    (∀ s' t', commonPrefixLength (s ++ s') (t ++ t') = commonPrefixLength s t) ∨
      (∃ c more, t = s ++ c :: more) ∨ (∃ c more, s = t ++ c :: more) ∨ s = t := by
  induction s generalizing t with
  | nil =>
      cases t with
      | nil => exact Or.inr (Or.inr (Or.inr rfl))
      | cons d more => exact Or.inr (Or.inl ⟨d, more, rfl⟩)
  | cons c rest ih =>
      cases t with
      | nil => exact Or.inr (Or.inr (Or.inl ⟨c, rest, rfl⟩))
      | cons d more =>
          by_cases same : c = d
          · subst same
            rcases ih more with parts | ⟨e, z, rfl⟩ | ⟨e, z, rfl⟩ | rfl
            · left
              intro s' t'
              rw [List.cons_append, List.cons_append, commonPrefixLength, commonPrefixLength, if_pos rfl, if_pos rfl,
                parts]
            · exact Or.inr (Or.inl ⟨e, z, rfl⟩)
            · exact Or.inr (Or.inr (Or.inl ⟨e, z, rfl⟩))
            · exact Or.inr (Or.inr (Or.inr rfl))
          · left
            intro s' t'
            rw [List.cons_append, List.cons_append, commonPrefixLength, commonPrefixLength, if_neg same,
              if_neg same]

/-- A closed text does not go on behind a closed text with a stop. -/
theorem closed_not_extended {s t : List Char} (closed : Closed s) (closed' : Closed t) {c : Char} (stop : Stop c)
    {more : List Char} : t ≠ s ++ c :: more := by
  intro extended
  have whole := closed'.token_eq (Or.inl rfl : Stop ',') []
  rw [extended, List.append_assoc, List.cons_append, closed.token_eq stop] at whole
  have lengths := congrArg List.length whole
  rw [List.length_append, List.length_cons] at lengths
  omega

/-- Two closed texts that differ have their common prefix whatever follows behind a stop. -/
theorem commonPrefixLength_closed {s t : List Char} (closed : Closed s) (closed' : Closed t) (differ : s ≠ t)
    {c d : Char} (stop : Stop c) (stop' : Stop d) (s' t' : List Char) :
    commonPrefixLength (s ++ c :: s') (t ++ d :: t') = commonPrefixLength s t := by
  rcases parts_or_extends s t with parts | ⟨e, more, rfl⟩ | ⟨e, more, rfl⟩ | same
  · exact parts _ _
  · have stops : c ≠ e := by
      rintro rfl
      exact closed_not_extended closed closed' stop rfl
    have plain := commonPrefixLength_append s [] (e :: more)
    rw [List.append_nil] at plain
    rw [List.append_assoc, commonPrefixLength_append, plain, List.cons_append, commonPrefixLength, if_neg stops]
    rfl
  · have stops : e ≠ d := by
      rintro rfl
      exact closed_not_extended closed' closed stop' rfl
    have plain := commonPrefixLength_append t (e :: more) []
    rw [List.append_nil] at plain
    rw [List.append_assoc, commonPrefixLength_append, plain, List.cons_append, commonPrefixLength, if_neg stops]
    rfl
  · exact absurd same differ

/-! ### The serialization -/

/-- The members of the serialization, in the order in which they are written. -/
def serializedMembers : List (String × (RequestContent → Json)) :=
  [("cache_key", fun content => Json.ofText content.cacheKey), ("messages", fun content => .arr content.messages),
    ("model", fun content => Json.ofText content.model),
    ("route_hash", fun content => Json.ofText content.routeHash),
    ("system", fun content => Json.ofText content.system),
    ("tools", fun content => content.toolItems.elim .null .arr)]

variable (prims : TextPrimitives)

/-- A member as it is written for a request. -/
def writtenMember (content : RequestContent) (member : String × (RequestContent → Json)) : List Char :=
  memberText (member.1, dumpChars prims.floatRepr (member.2 content))

/-- The members of the view, sorted by their keys. -/
theorem sorted_members (content : RequestContent) :
    (dumpMembers prims.floatRepr
        [("system", Json.ofText content.system), ("messages", .arr content.messages),
          ("tools", content.toolItems.elim .null .arr), ("route_hash", Json.ofText content.routeHash),
          ("model", Json.ofText content.model), ("cache_key", Json.ofText content.cacheKey)]).insertionSort
        (fun a b => a.1 ≤ b.1) =
      serializedMembers.map fun member => (member.1, dumpChars prims.floatRepr (member.2 content)) := by
  simp [dumpMembers, dumpMember, List.insertionSort, List.orderedInsert, serializedMembers]

/-- The serialization writes the members in this order. -/
theorem serialize_toList (content : RequestContent) :
    (content.serialize prims).toList =
      '\x7b' :: (joinWith [','] (serializedMembers.map (writtenMember prims content)) ++ ['\x7d']) := by
  rw [RequestContent.serialize, canonicalJson, String.toList_ofList, dumpChars]
  rw [sorted_members, List.map_map]
  rfl

/-! ### What is lost -/

variable (previous current : RequestContent)

/-- The characters of the previous request that are not shared: the rest of the first member that differs, the
    members behind it with their commas, and the closing brace. -/
def lostCharacters : List (String × (RequestContent → Json)) → ℕ
  | [] => 0
  | member :: later =>
      let before := dumpChars prims.floatRepr (member.2 previous)
      let after := dumpChars prims.floatRepr (member.2 current)
      if before = after then lostCharacters later
      else
        before.length - commonPrefixLength before after +
          (later.map fun member => (writtenMember prims previous member).length + 1).sum + 1

/-- The text behind a member. -/
def behindMember (content : RequestContent) (later : List (String × (RequestContent → Json))) : List Char :=
  behind '\x7d' (later.map (writtenMember prims content))

theorem behind_cons (close : Char) (item : List Char) (items : List (List Char)) :
    behind close (item :: items) = ',' :: (item ++ behind close items) := by
  simp [behind]

theorem behindMember_cons (content : RequestContent) (member : String × (RequestContent → Json))
    (later : List (String × (RequestContent → Json))) :
    behindMember prims content (member :: later) =
      (',' :: (quote member.1.toList ++ [':'])) ++
        (dumpChars prims.floatRepr (member.2 content) ++ behindMember prims content later) := by
  simp [behindMember, behind_cons, writtenMember, memberText]

theorem behindMember_length (content : RequestContent) (later : List (String × (RequestContent → Json))) :
    (behindMember prims content later).length =
      (later.map fun member => (writtenMember prims content member).length + 1).sum + 1 := by
  rw [behindMember, behind, List.length_append, List.length_flatMap, List.map_map]
  rfl

variable {prims} {previous current}

/-- What is lost of the text behind a member. -/
theorem behindMember_lost (previous current : RequestContent) (plain : FloatsPlain prims)
    (members : List (String × (RequestContent → Json))) :
    (behindMember prims previous members).length -
        commonPrefixLength (behindMember prims previous members) (behindMember prims current members) =
      lostCharacters prims previous current members := by
  induction members with
  | nil => rfl
  | cons member later ih =>
      rw [behindMember_cons, behindMember_cons, commonPrefixLength_append, List.length_append, lostCharacters]
      split
      · rename_i same
        rw [← same, commonPrefixLength_append, List.length_append, ← ih]
        omega
      · rename_i differ
        have closes : Closing '\x7d' := Or.inr rfl
        obtain ⟨c, s, stop, shape⟩ := behind_eq_cons closes
          (later.map (writtenMember prims previous))
        obtain ⟨d, t, stop', shape'⟩ := behind_eq_cons closes
          (later.map (writtenMember prims current))
        have parted : commonPrefixLength
            (dumpChars prims.floatRepr (member.2 previous) ++ behindMember prims previous later)
            (dumpChars prims.floatRepr (member.2 current) ++ behindMember prims current later) =
              commonPrefixLength (dumpChars prims.floatRepr (member.2 previous))
                (dumpChars prims.floatRepr (member.2 current)) := by
          rw [behindMember, behindMember, shape, shape']
          exact commonPrefixLength_closed (closed_dumpChars plain _) (closed_dumpChars plain _) differ stop stop' s t
        have inside := commonPrefixLength_le (dumpChars prims.floatRepr (member.2 previous))
          (dumpChars prims.floatRepr (member.2 current))
        rw [parted, List.length_append, behindMember_length]
        omega

/-- The serialization is what stands behind a member, with a brace in the place of the first comma. -/
theorem serialize_behind (prims : TextPrimitives) (content : RequestContent) :
    ∃ body, (content.serialize prims).toList = '\x7b' :: body ∧
      behindMember prims content serializedMembers = ',' :: body := by
  refine ⟨_, serialize_toList prims content, ?_⟩
  rw [behindMember, serializedMembers, List.map_cons, joinWith_behind]
  exact behind_cons _ _ _

/-- The estimate counts the lost characters. -/
theorem estimatedLoss_serialize (plain : FloatsPlain prims) :
    estimatedLoss (previous.serialize prims) (current.serialize prims) =
      lostCharacters prims previous current serializedMembers / 4 := by
  obtain ⟨body, written, behindText⟩ := serialize_behind prims previous
  obtain ⟨body', written', behindText'⟩ := serialize_behind prims current
  have lost := behindMember_lost previous current plain serializedMembers
  rw [behindText, behindText', commonPrefixLength, if_pos rfl, List.length_cons] at lost
  rw [estimatedLoss]
  split
  · rename_i same
    have bodies : body = body' := by
      rw [same, written'] at written
      exact (List.cons.inj written).2.symm
    rw [bodies, commonPrefixLength_self] at lost
    rw [← lost]
    omega
  · rw [← String.length_toList, written, written', commonPrefixLength, if_pos rfl, List.length_cons, ← lost]

/-! ### What the layers promise -/

/-- The current messages are the previous ones with more appended, and everything else is the same. -/
def Appended (previous current : RequestContent) : Prop :=
  current.system = previous.system ∧ current.tools = previous.tools ∧ current.model = previous.model ∧
    current.routeHash = previous.routeHash ∧ current.cacheKey = previous.cacheKey ∧
    ∃ more, current.messages = previous.messages ++ more

/-- The serialized text of a content layer. The system prompt is written escaped. -/
def serializedLayer (patterns : ChurnPatterns) (prims : TextPrimitives) (content : RequestContent) :
    ContentLayer → List Char
  | .systemPrefix => (content.layerText patterns prims .systemPrefix).toList.flatMap escapeChar
  | .systemSuffix => (content.layerText patterns prims .systemSuffix).toList.flatMap escapeChar
  | layer => (content.layerText patterns prims layer).toList

/-- The content layers from the first one that differs on, in prefix order. -/
def layersFromBreak (patterns : ChurnPatterns) (prims : TextPrimitives) (previous current : RequestContent) :
    List ContentLayer :=
  contentLayerOrder.dropWhile fun layer =>
    decide (previous.layerText patterns prims layer = current.layerText patterns prims layer)

/-- The serialized characters of the previous request in these layers. -/
def charactersFromBreak (patterns : ChurnPatterns) (prims : TextPrimitives)
    (previous current : RequestContent) : ℕ :=
  ((layersFromBreak patterns prims previous current).map fun layer =>
    (serializedLayer patterns prims previous layer).length).sum

/-- The loss a classification estimates is that of the layers: nothing is lost by appending, and never more than
    what follows the break. -/
def FaithfulLoss (patterns : ChurnPatterns) (prims : TextPrimitives) (previous current : RequestContent)
    (classification : ChurnClassification) : Prop :=
  (Appended previous current → classification.estimatedPrefixLossTokens = some 0) ∧
    ∃ tokens, classification.estimatedPrefixLossTokens = some tokens ∧
      tokens * 4 ≤ charactersFromBreak patterns prims previous current

theorem refinePrefixVolatility_loss (patterns : ChurnPatterns) (classification : ChurnClassification)
    (current : RequestContent) :
    (refinePrefixVolatility patterns classification current).estimatedPrefixLossTokens =
      classification.estimatedPrefixLossTokens := by
  unfold refinePrefixVolatility
  split
  · dsimp only
    split
    · rfl
    · rfl
  · rfl

theorem classify_loss (patterns : ChurnPatterns) (cacheIdentityChanged : Bool) (plain : FloatsPlain prims) :
    (Churn.classify patterns prims previous current cacheIdentityChanged).estimatedPrefixLossTokens =
      some (lostCharacters prims previous current serializedMembers / 4) := by
  rw [← estimatedLoss_serialize plain, Churn.classify]
  exact refinePrefixVolatility_loss patterns _ current

/-- An encoded list is the longer one, if it has more items. -/
theorem dumpChars_append_ne (plain : FloatsPlain prims) (items : List Json) {more : List Json} (some : more ≠ []) :
    dumpChars prims.floatRepr (.arr items) ≠ dumpChars prims.floatRepr (.arr (items ++ more)) := by
  intro same
  have texts : canonicalJson prims (.arr items) = canonicalJson prims (.arr (items ++ more)) :=
    congrArg String.ofList same
  have lengths := congrArg List.length ((canonicalJson_arr_eq_iff plain).mp texts)
  rw [List.length_map, List.length_map, List.length_append] at lengths
  exact some (List.eq_nil_of_length_eq_zero (by omega))

/-- An appended message loses a token at least: the members behind the messages. -/
theorem appended_lost (plain : FloatsPlain prims) (appended : Appended previous current)
    (grown : current.messages ≠ previous.messages) :
    4 ≤ lostCharacters prims previous current serializedMembers := by
  obtain ⟨-, -, -, -, cacheKey, more, messages⟩ := appended
  have some : more ≠ [] := by
    rintro rfl
    exact grown (messages.trans (List.append_nil _))
  have differ := dumpChars_append_ne plain previous.messages some
  rw [← messages] at differ
  have keyed := congrArg (fun key => dumpChars prims.floatRepr (Json.ofText key)) cacheKey.symm
  rw [serializedMembers, lostCharacters, if_pos keyed, lostCharacters, if_neg differ]
  simp only [List.map_cons, List.sum_cons]
  omega

/-- Without an appended message an appended request is the same text. -/
theorem unchanged_lost (appended : Appended previous current) (same : current.messages = previous.messages) :
    lostCharacters prims previous current serializedMembers = 0 := by
  obtain ⟨system, tools, model, route, cacheKey, -⟩ := appended
  simp [serializedMembers, lostCharacters, RequestContent.toolItems, system, tools, model, route, cacheKey, same]

/-! ### The first member that differs -/

section FirstDifference

variable (patterns : ChurnPatterns) (prims : TextPrimitives)

/-- An encoded list is its items, each with a bracket or a comma, and one bracket more. -/
theorem length_dumpChars_arr (items : List Json) :
    (dumpChars prims.floatRepr (.arr items)).length =
      (items.map fun item => (dumpChars prims.floatRepr item).length + 1).sum + if items = [] then 2 else 1 := by
  have dumped : ∀ rest : List Json, dumpItems prims.floatRepr rest = rest.map (dumpChars prims.floatRepr) := by
    intro rest
    induction rest with
    | nil => rfl
    | cons item rest ih => rw [dumpItems, ih, List.map_cons]
  cases items with
  | nil => rfl
  | cons item rest =>
      have commas : ∀ texts : List (List Char), (texts.flatMap fun next => [','] ++ next).length =
          (texts.map fun text => text.length + 1).sum := by
        intro texts
        rw [List.length_flatMap]
        refine congrArg List.sum (List.map_congr_left fun text _ => ?_)
        rw [List.length_append, List.length_singleton, Nat.add_comm]
      rw [dumpChars, dumped, List.map_cons, joinWith_cons, List.length_cons, List.length_append, List.length_append,
        commas, List.map_map, List.map_cons, List.sum_cons, if_neg (List.cons_ne_nil item rest),
        List.length_singleton]
      simp only [Function.comp_def]
      omega

/-- The history and the tail are written with two brackets more than the messages at most. -/
theorem length_history_tail (content : RequestContent) :
    (serializedLayer patterns prims content .history).length +
        (serializedLayer patterns prims content .historyTail).length ≤
      (dumpChars prims.floatRepr (.arr content.messages)).length + 2 := by
  have items : content.historyMessages ++ content.tailMessages = content.messages := by
    rw [RequestContent.historyMessages, RequestContent.tailMessages, List.dropLast_eq_take]
    exact List.take_append_drop _ _
  have history : (serializedLayer patterns prims content .history).length =
      (dumpChars prims.floatRepr (.arr content.historyMessages)).length :=
    congrArg List.length (String.toList_ofList)
  have tail : (serializedLayer patterns prims content .historyTail).length =
      (dumpChars prims.floatRepr (.arr content.tailMessages)).length :=
    congrArg List.length (String.toList_ofList)
  rw [history, tail, ← items, length_dumpChars_arr, length_dumpChars_arr, length_dumpChars_arr, List.map_append,
    List.sum_append]
  by_cases earlier : content.historyMessages = []
  · rw [earlier, List.nil_append, if_pos rfl]
    omega
  · rw [if_neg earlier, if_neg (List.append_ne_nil_of_left_ne_nil earlier _)]
    split <;> omega

/-- The two system layers are written as the system is, but for its quotes. -/
theorem length_system_layers (content : RequestContent) :
    (serializedLayer patterns prims content .systemPrefix).length +
        (serializedLayer patterns prims content .systemSuffix).length ≤
      (dumpChars prims.floatRepr (Json.ofText content.system)).length := by
  have whole : (serializedLayer patterns prims content .systemPrefix).length +
      (serializedLayer patterns prims content .systemSuffix).length =
        ((content.system.getD "").toList.flatMap escapeChar).length := by
    rw [← List.length_append]
    refine congrArg List.length ?_
    rw [serializedLayer, serializedLayer, ← List.flatMap_append, ← String.toList_append, RequestContent.layerText,
      RequestContent.layerText, splitSystemLayers_append]
  rw [whole, dumpChars_ofText]
  cases content.system with
  | none => exact Nat.zero_le _
  | some system =>
      rw [Option.getD_some, fieldText, Option.elim_some, quote.eq_1, List.length_cons, List.length_append]
      omega

theorem length_tools_layer (content : RequestContent) :
    (serializedLayer patterns prims content .tools).length =
      (dumpChars prims.floatRepr (content.toolItems.elim .null .arr)).length :=
  congrArg List.length (String.toList_ofList)

/-- The layers hold no more than the system, the tools and the messages do. -/
theorem charactersFromBreak_le (previous current : RequestContent) :
    charactersFromBreak patterns prims previous current ≤
      (dumpChars prims.floatRepr (Json.ofText previous.system)).length +
        (dumpChars prims.floatRepr (previous.toolItems.elim .null .arr)).length +
          (dumpChars prims.floatRepr (.arr previous.messages)).length + 2 := by
  have dropped : charactersFromBreak patterns prims previous current ≤
      (contentLayerOrder.map fun layer => (serializedLayer patterns prims previous layer).length).sum :=
    ((List.dropWhile_suffix _).sublist.map _).sum_le_sum (fun _ _ => Nat.zero_le _)
  have layers : (contentLayerOrder.map fun layer => (serializedLayer patterns prims previous layer).length).sum =
      ((serializedLayer patterns prims previous .systemPrefix).length +
        (serializedLayer patterns prims previous .systemSuffix).length) +
          ((serializedLayer patterns prims previous .tools).length +
            ((serializedLayer patterns prims previous .history).length +
              (serializedLayer patterns prims previous .historyTail).length)) := by
    simp only [contentLayerOrder, List.map_cons, List.map_nil, List.sum_cons, List.sum_nil, Nat.add_zero]
    omega
  have system := length_system_layers patterns prims previous
  have tools := length_tools_layer patterns prims previous
  have messages := length_history_tail patterns prims previous
  omega

theorem length_writtenMember (content : RequestContent) (member : String × (RequestContent → Json)) :
    (writtenMember prims content member).length =
      (quote member.1.toList).length + (dumpChars prims.floatRepr (member.2 content)).length + 1 := by
  rw [writtenMember, memberText, List.length_append, List.length_cons]
  dsimp only
  omega

variable {patterns prims} {previous current : RequestContent}

/-- A faithful estimate is within the tokens of the layers. -/
theorem lost_le_of_faithfulLoss (plain : FloatsPlain prims) {cacheIdentityChanged : Bool}
    (faithful : FaithfulLoss patterns prims previous current
      (Churn.classify patterns prims previous current cacheIdentityChanged)) :
    lostCharacters prims previous current serializedMembers ≤
      charactersFromBreak patterns prims previous current + 3 := by
  obtain ⟨tokens, estimated, within⟩ := faithful.2
  rw [classify_loss patterns cacheIdentityChanged plain, Option.some.injEq] at estimated
  omega

/-- A change of the cache key is never estimated faithfully: every other member counts as lost, also those whose layers
    are as they were. -/
theorem not_faithfulLoss_of_cacheKey (plain : FloatsPlain prims) (differ : previous.cacheKey ≠ current.cacheKey)
    (cacheIdentityChanged : Bool) :
    ¬ FaithfulLoss patterns prims previous current
      (Churn.classify patterns prims previous current cacheIdentityChanged) := by
  intro faithful
  have written : dumpChars prims.floatRepr (Json.ofText previous.cacheKey) ≠
      dumpChars prims.floatRepr (Json.ofText current.cacheKey) := by
    rw [dumpChars_ofText, dumpChars_ofText]
    exact fun same => differ (fieldText_inj same)
  have lost := lost_le_of_faithfulLoss plain faithful
  have layers := charactersFromBreak_le patterns prims previous current
  have names : (quote "messages".toList).length = 10 ∧ (quote "model".toList).length = 7 := by decide
  rw [serializedMembers, lostCharacters, if_neg written] at lost
  simp only [List.map_cons, List.map_nil, List.sum_cons, List.sum_nil, length_writtenMember] at lost
  omega

/-- A change of the tools alone is: the tools are written last, as their layer is. -/
theorem faithfulLoss_of_tools (plain : FloatsPlain prims) (system : current.system = previous.system)
    (messages : current.messages = previous.messages) (route : current.routeHash = previous.routeHash)
    (model : current.model = previous.model) (cacheKey : current.cacheKey = previous.cacheKey)
    (cacheIdentityChanged : Bool) :
    FaithfulLoss patterns prims previous current
      (Churn.classify patterns prims previous current cacheIdentityChanged) := by
  refine ⟨fun appended => ?_, _, classify_loss patterns cacheIdentityChanged plain, ?_⟩
  · rw [classify_loss patterns cacheIdentityChanged plain, unchanged_lost appended messages]
  · simp only [serializedMembers, lostCharacters, cacheKey, messages, model, route, system, if_true]
    split
    · exact Nat.zero_le _
    · rename_i differ
      have broken : layersFromBreak patterns prims previous current = [.tools, .history, .historyTail] := by
        have moved : canonicalJson prims (previous.toolItems.elim .null .arr) ≠
            canonicalJson prims (current.toolItems.elim .null .arr) := by
          rw [canonicalJson, canonicalJson, Ne, String.ofList_inj]
          exact differ
        simp [layersFromBreak, contentLayerOrder, RequestContent.layerText, system, moved]
      have history : 1 ≤ (serializedLayer patterns prims previous .history).length := by
        have shape : (serializedLayer patterns prims previous .history).length =
            (dumpChars prims.floatRepr (.arr previous.historyMessages)).length :=
          congrArg List.length String.toList_ofList
        rw [shape, length_dumpChars_arr]
        split <;> omega
      have tools := length_tools_layer patterns prims previous
      rw [charactersFromBreak, broken]
      simp only [List.map_cons, List.map_nil, List.sum_cons, List.sum_nil]
      omega

/-- A change of the messages alone is estimated faithfully only if what is written behind the messages, which counts as
    lost though it is as it was, is not longer than what the messages share, up to a token. -/
theorem shared_of_faithfulLoss (plain : FloatsPlain prims)
    (differ : dumpChars prims.floatRepr (.arr previous.messages) ≠ dumpChars prims.floatRepr (.arr current.messages))
    (system : current.system = previous.system) (tools : current.tools = previous.tools)
    (cacheKey : current.cacheKey = previous.cacheKey) {cacheIdentityChanged : Bool}
    (faithful : FaithfulLoss patterns prims previous current
      (Churn.classify patterns prims previous current cacheIdentityChanged)) :
    (behindMember prims previous (serializedMembers.drop 2)).length ≤
      commonPrefixLength (dumpChars prims.floatRepr (.arr previous.messages))
        (dumpChars prims.floatRepr (.arr current.messages)) + 5 := by
  have lost := lost_le_of_faithfulLoss plain faithful
  have keyed := congrArg (fun key => dumpChars prims.floatRepr (Json.ofText key)) cacheKey.symm
  rw [serializedMembers, lostCharacters, if_pos keyed, lostCharacters, if_neg differ] at lost
  have within : charactersFromBreak patterns prims previous current ≤
      (serializedLayer patterns prims previous .history).length +
        (serializedLayer patterns prims previous .historyTail).length := by
    have unmoved : layersFromBreak patterns prims previous current =
        [ContentLayer.history, .historyTail].dropWhile fun layer =>
          decide (previous.layerText patterns prims layer = current.layerText patterns prims layer) := by
      simp [layersFromBreak, contentLayerOrder, RequestContent.layerText, RequestContent.toolItems, system, tools,
        List.dropWhile_cons]
    have kept := ((List.dropWhile_suffix (l := [ContentLayer.history, .historyTail]) fun layer => decide
      (previous.layerText patterns prims layer = current.layerText patterns prims layer)).sublist.map fun layer =>
        (serializedLayer patterns prims previous layer).length).sum_le_sum fun _ _ => Nat.zero_le _
    rw [charactersFromBreak, unmoved]
    simpa using kept
  have messages := length_history_tail patterns prims previous
  have inside := commonPrefixLength_le (dumpChars prims.floatRepr (.arr previous.messages))
    (dumpChars prims.floatRepr (.arr current.messages))
  rw [behindMember_length, serializedMembers, List.drop_succ_cons, List.drop_succ_cons, List.drop_zero]
  dsimp only at lost
  omega

end FirstDifference

/-! ### All requests -/

/-- The estimate is faithful to the layers exactly when no message is appended and the characters lost in the
    order of the serialization make no more tokens than those of the layers behind the break. -/
theorem faithful_loss_iff (patterns : ChurnPatterns) (prims : TextPrimitives) (plain : FloatsPlain prims)
    (previous current : RequestContent) (cacheIdentityChanged : Bool) :
    FaithfulLoss patterns prims previous current
        (Churn.classify patterns prims previous current cacheIdentityChanged) ↔
      (Appended previous current → current.messages = previous.messages) ∧
        lostCharacters prims previous current serializedMembers / 4 ≤
          charactersFromBreak patterns prims previous current / 4 := by
  rw [FaithfulLoss, classify_loss patterns cacheIdentityChanged plain]
  have bound : (∃ tokens, some (lostCharacters prims previous current serializedMembers / 4) = some tokens ∧
      tokens * 4 ≤ charactersFromBreak patterns prims previous current) ↔
        lostCharacters prims previous current serializedMembers / 4 ≤
          charactersFromBreak patterns prims previous current / 4 := by
    constructor
    · rintro ⟨tokens, ⟨⟩, within⟩
      omega
    · intro within
      exact ⟨_, rfl, by omega⟩
  rw [bound]
  refine and_congr_left fun _ => ?_
  constructor
  · intro nothing appended
    by_contra grown
    have lost := appended_lost plain appended grown
    have zero := Option.some.inj (nothing appended)
    omega
  · intro unchanged appended
    rw [unchanged_lost appended (unchanged appended)]

/-- A changed prompt loses what its layers promise. -/
theorem faithful_loss_sample :
    FaithfulLoss noPatterns samplePrimitives (sampleAsk (some "s") "a") (sampleAsk (some "t") "a")
      (Churn.classify noPatterns samplePrimitives (sampleAsk (some "s") "a") (sampleAsk (some "t") "a") true) :=
  (faithful_loss_iff noPatterns samplePrimitives floatsPlain_sample _ _ true).2
    ⟨fun _ => rfl, by decide +kernel⟩

/-- The same prompt under another cache key does not. -/
example (cacheKey : String) :
    ¬ FaithfulLoss noPatterns samplePrimitives (sampleAsk none "a")
      { sampleAsk none "a" with cacheKey := some cacheKey }
      (Churn.classify noPatterns samplePrimitives (sampleAsk none "a")
        { sampleAsk none "a" with cacheKey := some cacheKey } true) :=
  not_faithfulLoss_of_cacheKey floatsPlain_sample (Option.some_ne_none cacheKey).symm true

/-- The next turn of a conversation of one message. -/
def nextTurn : RequestContent :=
  { sampleAsk none "a" with messages := (sampleAsk none "a").messages ++ (sampleAsk none "b").messages }

/-- An ordinary turn of a conversation is counted as a loss. -/
theorem appended_turn_lost :
    ¬FaithfulLoss noPatterns samplePrimitives (sampleAsk none "a") nextTurn
      (Churn.classify noPatterns samplePrimitives (sampleAsk none "a") nextTurn false) := by
  rintro ⟨nothing, -⟩
  have appended : Appended (sampleAsk none "a") nextTurn := ⟨rfl, rfl, rfl, rfl, rfl, _, rfl⟩
  have lost := appended_lost floatsPlain_sample appended fun same => by cases same
  have zero := nothing appended
  rw [classify_loss noPatterns false floatsPlain_sample, Option.some.injEq] at zero
  omega

end CachePilot
