/-
Module: CachePilot.Proofs.DurationRestarts
Layer: Proofs
Purpose: Learned durations over process restarts. The row of a signature counts all its records, but its percentiles
  are those of the last records of the process that wrote it; they are those of the last records of all exactly as
  long as each record finds enough others of its own process.
Trusted boundary: none
Main exports: percentile_eq, percentile_mono, SignatureRecords, recordsAfter, historyAfter_tracks, RecordedHere,
  RowReflects, PromotedOnRecords, learned_durations_reflect_records, promoted_by_one_observation
-/
import Mathlib.Data.Rat.Floor
import CachePilot.Hermes.LearnedDurations
import CachePilot.Lib.Execution
import CachePilot.Lib.Interpolation

namespace CachePilot

/-! ### Percentiles -/

/-- A percentile is interpolated between the samples. -/
theorem percentile_eq {samples : List ℚ} (filled : samples ≠ []) {p : ℚ} (le : p ≤ 1) :
    percentile samples p = some (lerp (clampedAt samples) (((samples.length : ℚ) - 1) * p)) := by
  have length : 1 ≤ samples.length := List.length_pos_iff.mpr filled
  have last : (0 : ℚ) ≤ (samples.length : ℚ) - 1 := by
    have cast : (1 : ℚ) ≤ samples.length := by exact_mod_cast length
    linarith
  have inside : ⌊((samples.length : ℚ) - 1) * p⌋₊ ≤ samples.length - 1 := by
    refine Nat.floor_le_of_le ?_
    rw [Nat.cast_sub length, Nat.cast_one]
    exact mul_le_of_le_one_right last le
  have low := getElem?_eq_clampedAt filled ⌊((samples.length : ℚ) - 1) * p⌋₊
  have high := getElem?_eq_clampedAt filled (⌊((samples.length : ℚ) - 1) * p⌋₊ + 1)
  rw [Nat.min_eq_left inside] at low
  match samples, filled with
  | [sample], _ =>
      rw [percentile, lerp]
      norm_num [clampedAt]
  | first :: second :: rest, filled =>
      have floor : ((((first :: second :: rest).length : ℚ) - 1) * p).floor.toNat =
          ⌊(((first :: second :: rest).length : ℚ) - 1) * p⌋₊ := rfl
      unfold percentile
      dsimp only
      rw [floor, low, high, lerp]

/-- A larger share of sorted samples is a larger percentile. -/
theorem percentile_mono {samples : List ℚ} (sorted : samples.Pairwise (· ≤ ·)) {p q low high : ℚ}
    (nonneg : 0 ≤ p) (le : p ≤ q) (most : q ≤ 1) (first : percentile samples p = some low)
    (second : percentile samples q = some high) : low ≤ high := by
  cases samples with
  | nil => cases first
  | cons sample rest =>
      have filled : sample :: rest ≠ [] := List.cons_ne_nil sample rest
      rw [percentile_eq filled (le.trans most), Option.some.injEq] at first
      rw [percentile_eq filled most, Option.some.injEq] at second
      have last : (0 : ℚ) ≤ ((sample :: rest).length : ℚ) - 1 := by
        rw [List.length_cons, Nat.cast_add, Nat.cast_one, add_sub_cancel_right]
        exact Nat.cast_nonneg _
      rw [← first, ← second]
      exact lerp_mono (clampedAt_mono sorted) (mul_nonneg last nonneg) (mul_le_mul_of_nonneg_left le last)

/-! ### Records of a signature -/

/-- The last entries, as many as a window holds. -/
def lastEntries (entries : List ℚ) : List ℚ := entries.drop (entries.length - windowSize)

theorem lastEntries_nil : lastEntries [] = [] := List.drop_nil

theorem length_lastEntries (entries : List ℚ) : (lastEntries entries).length = min entries.length windowSize := by
  rw [lastEntries, List.length_drop]
  omega

theorem windowSize_pos : 0 < windowSize := by decide

/-- A window of the last entries keeps them. -/
theorem appendWindow_lastEntries (entries : List ℚ) (entry : ℚ) :
    appendWindow (lastEntries entries) entry = lastEntries (entries ++ [entry]) := by
  have total : (entries ++ [entry]).length = entries.length + 1 := List.length_append
  have window := windowSize_pos
  rw [appendWindow, length_lastEntries, lastEntries, lastEntries, total]
  generalize windowSize = size at window
  have front : entries.length - size ≤ entries.length := Nat.sub_le _ _
  rw [← List.drop_append_of_le_length front, List.drop_drop]
  have skipped : entries.length - size + (min entries.length size + 1 - size) = entries.length + 1 - size := by omega
  rw [skipped]

/-- A list that is long enough has the last entries of every list that it ends. -/
theorem lastEntries_append (earlier entries : List ℚ)
    (enough : min (earlier ++ entries).length windowSize ≤ entries.length) :
    lastEntries (earlier ++ entries) = lastEntries entries := by
  rw [List.length_append] at enough
  rw [lastEntries, lastEntries, List.length_append]
  rcases Nat.le_total windowSize entries.length with long | short
  · have skipped : earlier.length + entries.length - windowSize = earlier.length + (entries.length - windowSize) := by
      omega
    rw [skipped, List.drop_length_add_append]
  · rcases Nat.eq_zero_or_pos earlier.length with none | some
    · rw [List.eq_nil_of_length_eq_zero none, List.nil_append, List.length_nil, Nat.zero_add]
    · have whole : windowSize = entries.length := by omega
      rw [whole, Nat.add_sub_cancel, List.drop_left, Nat.sub_self, List.drop_zero]

/-- What was recorded under a signature: all durations, those of the present process, and those that the row was
    written with. -/
structure SignatureRecords where
  all : List ℚ := []
  here : List ℚ := []
  written : List ℚ := []

/-- A record is added when it is one of the signature; a restart forgets what the process has seen. -/
def SignatureRecords.note (prims : CommandPrimitives) (signature : String) (g : SignatureRecords) :
    DurationAct → SignatureRecords
  | .record command durationS _ _ _ =>
      if normalizeSignature prims command = signature then
        { all := g.all ++ [durationS]
          here := g.here ++ [durationS]
          written := lastEntries (g.here ++ [durationS]) }
      else g
  | .restart => { g with here := [] }

/-- What was recorded under a signature by some acts. -/
def recordsAfter (prims : CommandPrimitives) (signature : String) (acts : List DurationAct) : SignatureRecords :=
  acts.foldl (SignatureRecords.note prims signature) {}

/-- A row that counts so many records, with the percentiles of these samples. -/
structure RowHolds (row : CommandHistoryRow) (count : ℕ) (samples : List ℚ) : Prop where
  sampleCount : row.sampleCount = count
  p50 : percentile (samples.insertionSort (· ≤ ·)) (1 / 2) = some row.runtimeP50
  p90 : percentile (samples.insertionSort (· ≤ ·)) (9 / 10) = some row.runtimeP90
  p95 : percentile (samples.insertionSort (· ≤ ·)) (19 / 20) = some row.runtimeP95

/-- The percentiles of a row are in order. -/
theorem RowHolds.ordered {row : CommandHistoryRow} {count : ℕ} {samples : List ℚ}
    (holds : RowHolds row count samples) :
    row.runtimeP50 ≤ row.runtimeP90 ∧ row.runtimeP90 ≤ row.runtimeP95 := by
  have sorted := List.pairwise_insertionSort (· ≤ ·) samples
  exact ⟨percentile_mono sorted (by norm_num) (by norm_num) (by norm_num) holds.p50 holds.p90,
    percentile_mono sorted (by norm_num) (by norm_num) (by norm_num) holds.p90 holds.p95⟩

/-- The success windows are all that a success rate changes. -/
theorem updatedSuccessRate_fst (h : CommandDurationHistory) (signature : String) (background success : Bool) :
    ∃ windows, (h.updatedSuccessRate signature background success).1 = { h with successWindows := windows } := by
  unfold CommandDurationHistory.updatedSuccessRate
  cases background with
  | false => exact ⟨h.successWindows, rfl⟩
  | true => exact ⟨_, rfl⟩

theorem appendWindow_ne_nil (window : List ℚ) (entry : ℚ) : appendWindow window entry ≠ [] := by
  have positive := windowSize_pos
  have length : (appendWindow window entry).length = window.length + 1 - (window.length + 1 - windowSize) := by
    rw [appendWindow, List.length_drop, List.length_append, List.length_singleton]
  intro empty
  rw [empty, List.length_nil] at length
  omega

/-- The percentiles of a window that is not empty. -/
theorem exists_percentile {window : List ℚ} (filled : window ≠ []) {p : ℚ} (le : p ≤ 1) :
    ∃ value, percentile (window.insertionSort (· ≤ ·)) p = some value := by
  have sorted : window.insertionSort (· ≤ ·) ≠ [] := by
    intro empty
    have length := List.length_insertionSort (· ≤ ·) window
    rw [empty] at length
    exact filled (List.length_eq_zero_iff.mp length.symm)
  exact ⟨_, percentile_eq sorted le⟩

/-- What a record of a command with a signature does to a learner that is not disabled. -/
theorem record_spec (prims : CommandPrimitives) {h : CommandDurationHistory} {command : String} (durationS : ℚ)
    (background success : Bool) (now : ℚ) (enabled : h.disabled = false)
    (named : normalizeSignature prims command ≠ "") :
    ∃ row, RowHolds row (((h.rows.get? (normalizeSignature prims command)).map fun r => r.sampleCount).getD 0 + 1)
        (appendWindow ((h.windows.get? (normalizeSignature prims command)).getD []) durationS) ∧
      (h.record prims command durationS background success now true).disabled = false ∧
      (h.record prims command durationS background success now true).windows =
        h.windows.set (normalizeSignature prims command)
          (appendWindow ((h.windows.get? (normalizeSignature prims command)).getD []) durationS) ∧
      (h.record prims command durationS background success now true).rows =
        h.rows.set (normalizeSignature prims command) row := by
  generalize written : appendWindow ((h.windows.get? (normalizeSignature prims command)).getD []) durationS = window
  have filled : window ≠ [] := by
    rw [← written]
    exact appendWindow_ne_nil _ durationS
  obtain ⟨p50, half⟩ := exists_percentile filled (p := 1 / 2) (by norm_num)
  obtain ⟨p90, ninety⟩ := exists_percentile filled (p := 9 / 10) (by norm_num)
  obtain ⟨p95, last⟩ := exists_percentile filled (p := 19 / 20) (by norm_num)
  obtain ⟨successes, rates⟩ := updatedSuccessRate_fst
    { h with windows := h.windows.set (normalizeSignature prims command) window }
    (normalizeSignature prims command) background success
  rw [enabled] at rates
  unfold CommandDurationHistory.record
  simp only [enabled, Bool.false_eq_true, if_false, if_neg named, written, half, ninety, last, rates, Bool.not_true]
  exact ⟨_, ⟨rfl, half, ninety, last⟩, trivial, trivial, rfl⟩

/-- A command without a signature is not recorded. -/
theorem record_of_no_signature (prims : CommandPrimitives) (h : CommandDurationHistory) {command : String}
    (durationS : ℚ) (background success : Bool) (now : ℚ) (stored : Bool)
    (nameless : normalizeSignature prims command = "") :
    h.record prims command durationS background success now stored = h := by
  unfold CommandDurationHistory.record
  rw [nameless, if_pos rfl, ite_self]

/-! ### The learner over restarts -/

/-- A learner and its rows know of a signature what was recorded under it. -/
structure LearnerTracks (h : CommandDurationHistory) (signature : String) (g : SignatureRecords) : Prop where
  enabled : h.disabled = false
  window : (h.windows.get? signature).getD [] = lastEntries g.here
  absent : g.all = [] → h.rows.get? signature = none
  row : g.all ≠ [] → ∃ row, h.rows.get? signature = some row ∧ RowHolds row g.all.length g.written

/-- The row of a signature counts the records of it. -/
theorem LearnerTracks.sampleCount {h : CommandDurationHistory} {signature : String} {g : SignatureRecords}
    (tracks : LearnerTracks h signature g) :
    ((h.rows.get? signature).map CommandHistoryRow.sampleCount).getD 0 = g.all.length := by
  rcases List.eq_nil_or_concat g.all with none | ⟨earlier, last, some⟩
  · rw [tracks.absent none, none]
    rfl
  · have recorded : g.all ≠ [] := by simp [some]
    obtain ⟨row, stored, holds⟩ := tracks.row recorded
    rw [stored, Option.map_some, Option.getD_some, holds.sampleCount]

/-- Every act keeps it so. -/
theorem LearnerTracks.step (prims : CommandPrimitives) {h : CommandDurationHistory} {signature : String}
    {g : SignatureRecords} (named : signature ≠ "") (tracks : LearnerTracks h signature g) (act : DurationAct) :
    LearnerTracks (durationStep prims h act) signature (g.note prims signature act) := by
  cases act with
  | restart =>
      exact
        { enabled := rfl
          window := lastEntries_nil.symm
          absent := tracks.absent
          row := tracks.row }
  | record command durationS background success now =>
      by_cases nameless : normalizeSignature prims command = ""
      · have other : normalizeSignature prims command ≠ signature := by
          rw [nameless]
          exact Ne.symm named
        rw [durationStep, record_of_no_signature prims h durationS background success now true nameless,
          SignatureRecords.note, if_neg other]
        exact tracks
      · obtain ⟨row, holds, enabled, windows, rows⟩ :=
          record_spec prims durationS background success now tracks.enabled nameless
        rw [durationStep, SignatureRecords.note]
        by_cases same : normalizeSignature prims command = signature
        · rw [same] at holds windows rows
          rw [tracks.sampleCount, tracks.window, appendWindow_lastEntries] at holds
          rw [tracks.window, appendWindow_lastEntries] at windows
          have length : (g.all ++ [durationS]).length = g.all.length + 1 := List.length_append
          rw [if_pos same]
          refine ⟨enabled, ?_, fun empty => ?_, fun _ => ⟨row, ?_, ?_⟩⟩
          · rw [windows, Dict.get?_set_self, Option.getD_some]
          · exact absurd empty (List.append_ne_nil_of_right_ne_nil _ (List.cons_ne_nil _ _))
          · rw [rows, Dict.get?_set_self]
          · dsimp only
            rw [length]
            exact holds
        · have other : signature ≠ normalizeSignature prims command := Ne.symm same
          rw [if_neg same]
          refine ⟨enabled, ?_, fun empty => ?_, fun recorded => ?_⟩
          · rw [windows, Dict.get?_set, if_neg other]
            exact tracks.window
          · rw [rows, Dict.get?_set, if_neg other]
            exact tracks.absent empty
          · rw [rows, Dict.get?_set, if_neg other]
            exact tracks.row recorded

theorem historyAfter_snoc (prims : CommandPrimitives) (acts : List DurationAct) (act : DurationAct) :
    historyAfter prims (acts ++ [act]) = durationStep prims (historyAfter prims acts) act := by
  rw [historyAfter, List.foldl_append, ← historyAfter]
  rfl

theorem recordsAfter_snoc (prims : CommandPrimitives) (signature : String) (acts : List DurationAct)
    (act : DurationAct) :
    recordsAfter prims signature (acts ++ [act]) = (recordsAfter prims signature acts).note prims signature act := by
  rw [recordsAfter, List.foldl_append, ← recordsAfter]
  rfl

/-- After any acts the row of a signature counts all its records, and its percentiles are those of the records that
    it was written with. -/
theorem historyAfter_tracks (prims : CommandPrimitives) {signature : String} (named : signature ≠ "")
    (acts : List DurationAct) :
    LearnerTracks (historyAfter prims acts) signature (recordsAfter prims signature acts) := by
  induction acts using List.reverseRecOn with
  | nil => exact ⟨rfl, lastEntries_nil.symm, fun _ => rfl, fun recorded => absurd rfl recorded⟩
  | append_singleton acts act ih =>
      rw [historyAfter_snoc, recordsAfter_snoc]
      exact ih.step prims named act

/-- What the present process has seen are the last of all records. -/
theorem here_suffix_all (prims : CommandPrimitives) (signature : String) (acts : List DurationAct) :
    (recordsAfter prims signature acts).here <:+ (recordsAfter prims signature acts).all := by
  induction acts using List.reverseRecOn with
  | nil => exact List.suffix_refl []
  | append_singleton acts act ih =>
      rw [recordsAfter_snoc]
      cases act with
      | restart => exact List.nil_suffix
      | record command durationS background success now =>
          rw [SignatureRecords.note]
          split
          · obtain ⟨earlier, whole⟩ := ih
            refine ⟨earlier, ?_⟩
            rw [← whole, List.append_assoc]
          · exact ih

/-- A record of a signature finds enough others in its process: with it these fill a window or are all. -/
def RecordedHere (prims : CommandPrimitives) (signature : String) (past : List DurationAct) : DurationAct → Prop
  | .record command _ _ _ _ =>
      normalizeSignature prims command = signature →
        min ((recordsAfter prims signature past).all.length + 1) windowSize ≤
          (recordsAfter prims signature past).here.length + 1
  | .restart => True

instance (prims : CommandPrimitives) (signature : String) (past : List DurationAct) :
    ∀ act, Decidable (RecordedHere prims signature past act)
  | .record _ _ _ _ _ => inferInstanceAs (Decidable (_ → _))
  | .restart => inferInstanceAs (Decidable True)

/-- When each record finds enough others in its process, the row is written with the last of all. -/
theorem written_eq (prims : CommandPrimitives) {signature : String} {acts : List DurationAct}
    (recorded : Execution.AtEach (RecordedHere prims signature) [] acts) :
    (recordsAfter prims signature acts).written = lastEntries (recordsAfter prims signature acts).all := by
  induction acts using List.reverseRecOn with
  | nil => exact lastEntries_nil.symm
  | append_singleton acts act ih =>
      obtain ⟨before, now⟩ := Execution.atEach_snoc.mp recorded
      rw [List.nil_append] at now
      have earlier := ih before
      rw [recordsAfter_snoc]
      cases act with
      | restart => exact earlier
      | record command durationS background success time =>
          rw [SignatureRecords.note]
          split
          · next same =>
              have enough := now same
              obtain ⟨previous, whole⟩ := here_suffix_all prims signature acts
              have all : (recordsAfter prims signature acts).all ++ [durationS] =
                  previous ++ ((recordsAfter prims signature acts).here ++ [durationS]) := by
                rw [← whole, List.append_assoc]
              dsimp only
              rw [all]
              refine (lastEntries_append previous _ ?_).symm
              rw [← all, List.length_append, List.length_append]
              exact enough
          · exact earlier

/-! ### Learned promotions -/

/-- A promotion by a learned duration has stats with enough samples and this percentile. -/
theorem classify_learned {prims : CommandPrimitives} {settings : LongTasksSettings} {args : List (String × Json)}
    {stats : Option CommandDurationStats} {seconds : JsonFloat}
    (promoted : classify prims settings args stats = some ⟨true, .learnedP90 seconds⟩) :
    ∃ s, stats = some s ∧ minLearnedSamples ≤ s.sampleCount ∧ s.runtimeP90 = some seconds := by
  have learned : (stats.filter fun s => minLearnedSamples ≤ s.sampleCount).bind CommandDurationStats.runtimeP90 =
      some seconds := by
    unfold classify at promoted
    dsimp only at promoted
    repeat' split at promoted
    -- every other branch gives another reason
    all_goals cases promoted
    all_goals
      next long => exact (Option.filter_eq_some_iff.mp long).1
  obtain ⟨s, kept, percentile⟩ := Option.bind_eq_some_iff.mp learned
  obtain ⟨given, enough⟩ := Option.filter_eq_some_iff.mp kept
  exact ⟨s, given, of_decide_eq_true enough, percentile⟩

/-- The row of a signature says how many records there were, and its percentiles are in order and those of the last
    of them. -/
def RowReflects (prims : CommandPrimitives) (signature : String) (acts : List DurationAct) : Prop :=
  match (historyAfter prims acts).rows.get? signature with
  | none => (recordsAfter prims signature acts).all = []
  | some row =>
      (recordsAfter prims signature acts).all ≠ [] ∧
        RowHolds row (recordsAfter prims signature acts).all.length
          (lastEntries (recordsAfter prims signature acts).all) ∧
        row.runtimeP50 ≤ row.runtimeP90 ∧ row.runtimeP90 ≤ row.runtimeP95

/-- A command of the signature is promoted by a learned duration only if that is the percentile of two records or
    more. -/
def PromotedOnRecords (prims : CommandPrimitives) (signature : String) (acts : List DurationAct) : Prop :=
  ∀ settings args command seconds, normalizeSignature prims command = signature →
    classify prims settings args ((historyAfter prims acts).stats prims command) =
      some ⟨true, .learnedP90 seconds⟩ →
    ∃ p90, seconds = .finite p90 ∧ 2 ≤ (lastEntries (recordsAfter prims signature acts).all).length ∧
      percentile ((lastEntries (recordsAfter prims signature acts).all).insertionSort (· ≤ ·)) (9 / 10) = some p90

theorem rowReflects_of_written (prims : CommandPrimitives) {signature : String} (named : signature ≠ "")
    {acts : List DurationAct}
    (written : (recordsAfter prims signature acts).written = lastEntries (recordsAfter prims signature acts).all) :
    RowReflects prims signature acts := by
  have tracks := historyAfter_tracks prims named acts
  unfold RowReflects
  split
  · next absent =>
      by_contra recorded
      obtain ⟨row, stored, holds⟩ := tracks.row recorded
      rw [absent] at stored
      cases stored
  · next row stored =>
      have recorded : (recordsAfter prims signature acts).all ≠ [] := by
        intro none
        rw [tracks.absent none] at stored
        cases stored
      obtain ⟨row', stored', holds⟩ := tracks.row recorded
      rw [stored] at stored'
      cases stored'
      rw [written] at holds
      exact ⟨recorded, holds, holds.ordered⟩

/-- What a row reflects, a promotion rests on. -/
theorem RowReflects.promoted {prims : CommandPrimitives} {signature : String} {acts : List DurationAct}
    (named : signature ≠ "") (reflects : RowReflects prims signature acts) :
    PromotedOnRecords prims signature acts := by
  intro settings args command seconds same promoted
  obtain ⟨stats, found, enough, p90⟩ := classify_learned promoted
  have enabled := (historyAfter_tracks prims named acts).enabled
  rw [CommandDurationHistory.stats, enabled, if_neg Bool.false_ne_true, same] at found
  dsimp only at found
  rw [if_neg named] at found
  obtain ⟨row, stored, rfl⟩ := Option.map_eq_some_iff.mp found
  rw [RowReflects, stored] at reflects
  obtain ⟨recorded, holds, ordered⟩ := reflects
  cases p90
  refine ⟨row.runtimeP90, rfl, ?_, holds.p90⟩
  have counted : minLearnedSamples ≤ (recordsAfter prims signature acts).all.length := by
    rw [← holds.sampleCount]
    exact enough
  rw [length_lastEntries]
  exact le_min counted (by decide)

/-- In every run in which each record of a signature finds enough others in its process, after every act: the row
    counts the records, holds the ordered percentiles of the last of them, and no promotion rests on a single one. -/
theorem learned_durations_reflect_records (prims : CommandPrimitives) (signature : String) (named : signature ≠ "")
    (acts : List DurationAct) (recorded : Execution.AtEach (RecordedHere prims signature) [] acts) :
    ∀ before, before <+: acts →
      RowReflects prims signature before ∧ PromotedOnRecords prims signature before := by
  intro before within
  have every : Execution.AtEach (RecordedHere prims signature) [] before := by
    rw [Execution.atEach_iff] at recorded ⊢
    intro earlier act reached
    exact recorded earlier act (reached.trans within)
  have reflects := rowReflects_of_written prims named (written_eq prims every)
  exact ⟨reflects, reflects.promoted named⟩

/-- Two records in one process, and a restart. -/
def twoListings : List DurationAct :=
  [.record "ls" 1 false true 0, .record "ls" 21 false true 1, .restart]

/-- Two records of one process are reflected. -/
theorem learned_durations_two_listings :
    RowReflects sampleCommandPrimitives "ls" twoListings ∧
      PromotedOnRecords sampleCommandPrimitives "ls" twoListings :=
  learned_durations_reflect_records sampleCommandPrimitives "ls" (by decide) twoListings (by decide +kernel)
    twoListings List.prefix_rfl

/-- A record, a restart, and one more record. -/
def splitListings : List DurationAct :=
  [.record "ls" 1 false true 0, .restart, .record "ls" 21 false true 1]

/-- After a restart the percentile of two records is that of the last one, and promotes a command that both would
    not. -/
theorem promoted_by_one_observation :
    ¬ RowReflects sampleCommandPrimitives "ls" splitListings ∧
      ¬ PromotedOnRecords sampleCommandPrimitives "ls" splitListings := by
  have stored : ((historyAfter sampleCommandPrimitives splitListings).rows.get? "ls").map
      CommandHistoryRow.runtimeP90 = some 21 := by
    decide +kernel
  have both : percentile ((lastEntries (recordsAfter sampleCommandPrimitives "ls" splitListings).all).insertionSort
      (· ≤ ·)) (9 / 10) = some 19 := by
    decide +kernel
  constructor
  · intro reflects
    obtain ⟨row, found, p90⟩ := Option.map_eq_some_iff.mp stored
    rw [RowReflects, found] at reflects
    obtain ⟨recorded, holds, ordered⟩ := reflects
    have same := holds.p90
    rw [both, p90] at same
    exact absurd same (by decide +kernel)
  · intro promotes
    have promoted : classify sampleCommandPrimitives {} [("command", .str "ls")]
        ((historyAfter sampleCommandPrimitives splitListings).stats sampleCommandPrimitives "ls") =
          some ⟨true, .learnedP90 (.finite 21)⟩ := by
      decide +kernel
    obtain ⟨p90, seconds, enough, same⟩ :=
      promotes {} [("command", .str "ls")] "ls" (.finite 21) (by decide +kernel) promoted
    cases seconds
    rw [both] at same
    exact absurd same (by decide +kernel)

end CachePilot
