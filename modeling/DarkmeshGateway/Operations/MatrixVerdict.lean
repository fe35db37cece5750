import DarkmeshGateway.Operations.AttestationRoundTrip
import DarkmeshGateway.Operations.MatrixComparison

/-!
Contract: what the exit code of a comparison says of the answers.

Owns the verdict over all gateways, the outcome of a run in its terms, the plans
of both modes, and the attestation of the same states.
-/

namespace DarkmeshGateway.Operations.MatrixComparison

open Foundation.Js
open Foundation.Outcome
open Attestation (Platform Network GatewayResult comparedFields getField deepEqual compareField
  fieldValue agree exitCode extractComparedFields extractComparedFields_eq)

/-! ### The verdict -/

/-- What a gateway has under a path, when it answered. -/
def UrlResult.held (result : UrlResult) (path : List String) : Option Json :=
  match result.answer with
  | .ok snapshot => getField snapshot path
  | .error _ => none

/-- A value that is no object and no array. -/
def isPlain : Json → Bool
  | .arr _ => false
  | .obj _ => false
  | _ => true

/-- Some gateway did not answer with every compared field. -/
def Incomplete (results : List UrlResult) : Prop :=
  ∃ result ∈ results, ∃ field ∈ comparedFields, result.held field.2 = none

/-- Under every compared field all gateways have one plain value. -/
def Unanimous (results : List UrlResult) : Prop :=
  ∀ field ∈ comparedFields, ∃ value, isPlain value = true ∧
    ∀ result ∈ results, result.held field.2 = some value

open Classical in
/-- The exit code that the answers call for, whichever gateways are compared with
which. -/
noncomputable def verdict (results : List UrlResult) : Nat :=
  if Incomplete results then 2 else if Unanimous results then 0 else 3

/-! ### Rows -/

theorem objectIs_iff {left right : Json} :
    objectIs left right = true ↔ isPlain right = true ∧ left = right := by
  cases left <;> cases right <;> simp [objectIs, isPlain]

/-- Of two values or more, a first that the others are is plain. -/
theorem allSame_iff {values : List Json} (several : 2 ≤ values.length) :
    allSame values = true ↔ ∃ value, isPlain value = true ∧ ∀ other ∈ values, other = value := by
  obtain _ | ⟨first, _ | ⟨second, rest⟩⟩ := values
  · simp at several
  · simp at several
  · rw [allSame, List.all_eq_true]
    constructor
    · intro same
      have plain := (objectIs_iff.mp (same second List.mem_cons_self)).1
      refine ⟨first, plain, List.forall_mem_cons.mpr ⟨rfl, fun other member => ?_⟩⟩
      exact (objectIs_iff.mp (same other member)).2
    · rintro ⟨value, plain, each⟩ other member
      have head := each first List.mem_cons_self
      have own := each other (List.mem_cons_of_mem _ member)
      exact objectIs_iff.mpr ⟨head ▸ plain, own.trans head.symm⟩

section Rows

variable {results : List Snapshot} {field : String × List String}

theorem any_isNone_iff :
    ((results.map fun result => getField result.2 field.2).any Option.isNone) = true ↔
      ∃ result ∈ results, getField result.2 field.2 = none := by
  simp

theorem invalid_row_iff : (compareRow results field).status = .invalid ↔
    ∃ result ∈ results, getField result.2 field.2 = none := by
  rw [← any_isNone_iff, compareRow]
  split
  next missing => exact iff_of_true rfl missing
  next present =>
    refine iff_of_false ?_ present
    dsimp only
    split <;> simp

/-- A row without a missing value compares the values. -/
theorem consensus_row_iff (several : 2 ≤ results.length) :
    (compareRow results field).status = .consensus ↔
      ∃ value, isPlain value = true ∧
        ∀ result ∈ results, getField result.2 field.2 = some value := by
  by_cases missing : ∃ result ∈ results, getField result.2 field.2 = none
  · obtain ⟨result, member, lacking⟩ := missing
    have invalid := invalid_row_iff.mpr ⟨result, member, lacking⟩
    rw [invalid]
    refine iff_of_false (by decide) ?_
    rintro ⟨value, -, each⟩
    rw [each result member] at lacking
    cases lacking
  · have shown : ∀ result ∈ results, (getField result.2 field.2).isSome = true := by
      intro result member
      by_contra hidden
      exact missing ⟨result, member, by simpa using hidden⟩
    have rendered : ∀ value, value ∈ (results.map fun result =>
        getField result.2 field.2).filterMap id ↔
          ∃ result ∈ results, getField result.2 field.2 = some value := by
      simp
    have length : ((results.map fun result => getField result.2 field.2).filterMap id).length =
        results.length := by
      rw [List.filterMap_map, List.filterMap_length_eq_length]
      exact shown
    rw [compareRow, if_neg (mt any_isNone_iff.mp missing)]
    have same := allSame_iff (length ▸ several : 2 ≤ ((results.map fun result =>
      getField result.2 field.2).filterMap id).length)
    have status : ((if allSame ((results.map fun result =>
        getField result.2 field.2).filterMap id) then RowStatus.consensus else .mismatch) =
          .consensus) ↔ allSame ((results.map fun result =>
            getField result.2 field.2).filterMap id) = true := by
      split <;> simp_all
    refine status.trans (same.trans (exists_congr fun value => and_congr_right fun _ => ?_))
    constructor
    · intro each result member
      obtain ⟨own, found⟩ := Option.isSome_iff_exists.mp (shown result member)
      rw [found, each own ((rendered own).mpr ⟨result, member, found⟩)]
    · intro each other member
      obtain ⟨result, asked, found⟩ := (rendered other).mp member
      rw [each result asked] at found
      exact (Option.some.inj found).symm

theorem foldl_push (fields : List (String × List String)) (report : Report) :
    fields.foldl (fun report field => report.push (compareRow results field)) report =
      { rows := report.rows ++ fields.map (compareRow results)
        mismatches := report.mismatches +
          (fields.map (compareRow results)).countP fun row => row.status = .mismatch
        invalid := report.invalid ||
          (fields.map (compareRow results)).any fun row => row.status = .invalid
        totalFields := report.totalFields } := by
  induction fields generalizing report with
  | nil => simp
  | cons field rest inductionHypothesis =>
      rw [List.foldl_cons, inductionHypothesis]
      simp [Report.push, List.countP_cons, Nat.add_assoc, Nat.add_comm, Bool.or_assoc]

theorem invalid_report_iff : (buildComparisonReport results).invalid = true ↔
    ∃ field ∈ comparedFields, (compareRow results field).status = .invalid := by
  rw [buildComparisonReport, foldl_push]
  simp

theorem mismatches_report_iff : (buildComparisonReport results).mismatches = 0 ↔
    ∀ field ∈ comparedFields, (compareRow results field).status ≠ .mismatch := by
  rw [buildComparisonReport, foldl_push]
  simp [List.countP_eq_zero]

end Rows

/-! ### Outcomes -/

section Outcomes

variable {entries : List UrlResult}

theorem runErrors_ne_nil_iff : 0 < (runErrors entries).length ↔
    ∃ entry ∈ entries, ∃ message, entry.answer = .error message := by
  rw [List.length_pos_iff_exists_mem]
  constructor
  · rintro ⟨text, listed⟩
    obtain ⟨entry, member, written⟩ := List.mem_filterMap.mp listed
    obtain ⟨message, failed, -⟩ := Option.map_eq_some_iff.mp written
    refine ⟨entry, member, message, ?_⟩
    unfold UrlResult.error at failed
    split at failed
    next => cases failed
    next other answer =>
      obtain rfl := Option.some.inj failed
      exact answer
  · rintro ⟨entry, member, message, failed⟩
    refine ⟨entry.label ++ js ": " ++ message, List.mem_filterMap.mpr ⟨entry, member, ?_⟩⟩
    rw [UrlResult.error, failed]
    rfl

theorem held_of_error {entry : UrlResult} {message : JsString}
    (failed : entry.answer = .error message) (path : List String) : entry.held path = none := by
  rw [UrlResult.held, failed]

/-- A gateway that answered has what its snapshot has. -/
theorem held_eq_getField (answered : ¬∃ entry ∈ entries, ∃ message, entry.answer = .error message)
    {entry : UrlResult} (member : entry ∈ entries) (path : List String) :
    entry.held path = getField entry.snapshot path := by
  rw [UrlResult.held, UrlResult.snapshot]
  cases answer : entry.answer with
  | ok snapshot => rfl
  | error message => exact absurd ⟨entry, member, message, answer⟩ answered

theorem exists_snapshot_iff {path : List String} {found : Option Json} :
    (∃ result ∈ entries.map (fun entry => (entry.label, entry.snapshot)),
        getField result.2 path = found) ↔
      ∃ entry ∈ entries, getField entry.snapshot path = found := by
  simp

theorem forall_snapshot_iff {path : List String} {found : Option Json} :
    (∀ result ∈ entries.map (fun entry => (entry.label, entry.snapshot)),
        getField result.2 path = found) ↔
      ∀ entry ∈ entries, getField entry.snapshot path = found := by
  simp

theorem summarizeRun_failure_iff {report : Report} :
    (summarizeRun report []).outcome = .failure ↔ report.invalid = true := by
  unfold summarizeRun
  cases report.invalid <;> by_cases differ : 0 < report.mismatches <;> simp [differ]

theorem summarizeRun_pass_iff {report : Report} :
    (summarizeRun report []).outcome = .pass ↔ report.invalid = false ∧ report.mismatches = 0 := by
  unfold summarizeRun
  cases report.invalid <;> by_cases differ : 0 < report.mismatches <;> simp [differ] <;> omega

/-- A run fails when one of its gateways lacks something. -/
theorem failure_iff : (summaryOf entries).outcome = .failure ↔ Incomplete entries := by
  unfold summaryOf
  split
  next failing =>
    obtain ⟨entry, member, message, failed⟩ := runErrors_ne_nil_iff.mp failing
    refine iff_of_true ?_ ⟨entry, member, ("policy.paused", ["policy", "paused"]),
      List.mem_cons_self, held_of_error failed _⟩
    rw [summarizeRun, if_pos failing]
  next answering =>
    have answered := mt runErrors_ne_nil_iff.mpr answering
    rw [summarizeRun_failure_iff, invalid_report_iff]
    constructor
    · rintro ⟨field, listed, invalid⟩
      obtain ⟨entry, member, lacking⟩ := exists_snapshot_iff.mp (invalid_row_iff.mp invalid)
      exact ⟨entry, member, field, listed, (held_eq_getField answered member _).trans lacking⟩
    · rintro ⟨entry, member, field, listed, lacking⟩
      rw [held_eq_getField answered member] at lacking
      exact ⟨field, listed, invalid_row_iff.mpr (exists_snapshot_iff.mpr ⟨entry, member, lacking⟩)⟩

/-- A run passes when its gateways are unanimous. -/
theorem pass_iff (several : 2 ≤ entries.length) :
    (summaryOf entries).outcome = .pass ↔ Unanimous entries := by
  unfold summaryOf
  split
  next failing =>
    obtain ⟨entry, member, message, failed⟩ := runErrors_ne_nil_iff.mp failing
    rw [summarizeRun, if_pos failing]
    refine iff_of_false (by simp) fun unanimous => ?_
    obtain ⟨value, -, each⟩ := unanimous ("policy.paused", ["policy", "paused"]) List.mem_cons_self
    have held := each entry member
    rw [held_of_error failed] at held
    cases held
  next answering =>
    have answered := mt runErrors_ne_nil_iff.mpr answering
    have snapshots : 2 ≤ (entries.map fun entry => (entry.label, entry.snapshot)).length := by
      rwa [List.length_map]
    have row (field : String × List String) :
        (compareRow (entries.map fun entry => (entry.label, entry.snapshot)) field).status =
            .consensus ↔
          ∃ value, isPlain value = true ∧ ∀ entry ∈ entries, entry.held field.2 = some value := by
      refine (consensus_row_iff snapshots).trans (exists_congr fun value => and_congr_right
        fun _ => forall_snapshot_iff.trans (forall₂_congr fun entry member => ?_))
      rw [held_eq_getField answered member]
    rw [summarizeRun_pass_iff, mismatches_report_iff, ← Bool.not_eq_true, invalid_report_iff]
    constructor
    · rintro ⟨complete, same⟩ field listed
      refine (row field).mp ?_
      cases status : (compareRow (entries.map fun entry => (entry.label, entry.snapshot))
          field).status with
      | consensus => rfl
      | mismatch => exact absurd status (same field listed)
      | invalid => exact absurd ⟨field, listed, status⟩ complete
    · intro unanimous
      constructor
      · rintro ⟨field, listed, invalid⟩
        rw [(row field).mpr (unanimous field listed)] at invalid
        cases invalid
      · intro field listed mismatch
        rw [(row field).mpr (unanimous field listed)] at mismatch
        cases mismatch

end Outcomes

/-! ### The plan -/

section Plan

variable {results : List UrlResult}

theorem entries_all (plan : RunPlan) (whole : plan.indices = List.range results.length) :
    plan.entries results = results := by
  have found : (List.range results.length).map (fun index => results[index]?) =
      results.map some := by
    apply List.ext_getElem
    · simp
    · intro index below listed
      simp at below
      simp [below]
  rw [RunPlan.entries, whole]
  calc (List.range results.length).filterMap (fun index => results[index]?)
      = ((List.range results.length).map fun index => results[index]?).filterMap id := by
        rw [List.filterMap_map]; rfl
    _ = results := by
        rw [found, List.filterMap_map]
        exact List.filterMap_some

theorem mem_of_entries {plan : RunPlan} {entry : UrlResult}
    (member : entry ∈ plan.entries results) : entry ∈ results := by
  obtain ⟨index, -, found⟩ := List.mem_filterMap.mp member
  exact List.mem_of_getElem? found

/-- An adjacent pair. -/
def pairAt (index : Nat) : RunPlan :=
  { type := .pairwise
    name := js "pair-" ++ decimalDigits (index + 1)
    indices := [index, index + 1] }

theorem entries_pair {index : Nat} (below : index + 1 < results.length) :
    (pairAt index).entries results = [results[index], results[index + 1]] := by
  have first : index < results.length := by omega
  simp [RunPlan.entries, pairAt, first, below]

theorem mem_pairwise {plan : RunPlan} :
    plan ∈ buildRunPlan results.length .pairwise ↔
      ∃ index, index + 1 < results.length ∧ pairAt index = plan := by
  rw [buildRunPlan, List.mem_map]
  refine exists_congr fun index => and_congr_left fun _ => ?_
  rw [List.mem_range]
  omega

/-- Every run has two gateways or more. -/
theorem several_entries (several : 2 ≤ results.length) {mode : Mode} {plan : RunPlan}
    (planned : plan ∈ buildRunPlan results.length mode) : 2 ≤ (plan.entries results).length := by
  cases mode with
  | all =>
      obtain rfl := List.mem_singleton.mp planned
      rwa [entries_all _ rfl]
  | pairwise =>
      obtain ⟨index, below, rfl⟩ := mem_pairwise.mp planned
      rw [entries_pair below]
      exact Nat.le_refl 2

/-- Every gateway has a run. -/
theorem exists_run (several : 2 ≤ results.length) (mode : Mode) {entry : UrlResult}
    (member : entry ∈ results) :
    ∃ plan ∈ buildRunPlan results.length mode, entry ∈ plan.entries results := by
  cases mode with
  | all => exact ⟨_, List.mem_singleton_self _, by rwa [entries_all _ rfl]⟩
  | pairwise =>
      obtain ⟨index, below, rfl⟩ := List.getElem_of_mem member
      by_cases last : index + 1 < results.length
      · refine ⟨pairAt index, mem_pairwise.mpr ⟨index, last, rfl⟩, ?_⟩
        rw [entries_pair last]
        exact List.mem_cons_self
      · obtain ⟨previous, rfl⟩ : ∃ previous, index = previous + 1 := ⟨index - 1, by omega⟩
        refine ⟨pairAt previous, mem_pairwise.mpr ⟨previous, below, rfl⟩, ?_⟩
        rw [entries_pair below]
        exact List.mem_cons_of_mem _ List.mem_cons_self

/-- What every run agrees on is the same in all runs. -/
theorem one_value (several : 2 ≤ results.length) {mode : Mode} {held : UrlResult → Option Json}
    {good : Json → Prop}
    (each : ∀ plan ∈ buildRunPlan results.length mode, ∃ value, good value ∧
      ∀ entry ∈ plan.entries results, held entry = some value) :
    ∃ value, good value ∧ ∀ entry ∈ results, held entry = some value := by
  cases mode with
  | all =>
      obtain ⟨value, fine, same⟩ := each _ (List.mem_singleton_self _)
      rw [entries_all _ rfl] at same
      exact ⟨value, fine, same⟩
  | pairwise =>
      have pair (index : Nat) (below : index + 1 < results.length) : ∃ value, good value ∧
          held results[index] = some value ∧ held results[index + 1] = some value := by
        obtain ⟨value, fine, same⟩ := each (pairAt index) (mem_pairwise.mpr ⟨index, below, rfl⟩)
        rw [entries_pair below] at same
        exact ⟨value, fine, same _ List.mem_cons_self,
          same _ (List.mem_cons_of_mem _ List.mem_cons_self)⟩
      obtain ⟨value, fine, first, -⟩ := pair 0 several
      refine ⟨value, fine, fun entry member => ?_⟩
      obtain ⟨index, below, rfl⟩ := List.getElem_of_mem member
      -- the value goes from each gateway to the next
      induction index with
      | zero => exact first
      | succ previous inductionHypothesis =>
          have here := inductionHypothesis (by omega) (List.getElem_mem _)
          obtain ⟨other, -, left, right⟩ := pair previous below
          rw [here] at left
          rw [right, Option.some.inj left]

theorem incomplete_runs_iff (several : 2 ≤ results.length) (mode : Mode) :
    (∃ plan ∈ buildRunPlan results.length mode, Incomplete (plan.entries results)) ↔
      Incomplete results := by
  constructor
  · rintro ⟨plan, -, entry, member, lacking⟩
    exact ⟨entry, mem_of_entries member, lacking⟩
  · rintro ⟨entry, member, lacking⟩
    obtain ⟨plan, planned, inRun⟩ := exists_run several mode member
    exact ⟨plan, planned, entry, inRun, lacking⟩

theorem unanimous_runs_iff (several : 2 ≤ results.length) (mode : Mode) :
    (∀ plan ∈ buildRunPlan results.length mode, Unanimous (plan.entries results)) ↔
      Unanimous results := by
  constructor
  · intro each field listed
    exact one_value several fun plan planned => each plan planned field listed
  · intro unanimous plan planned field listed
    obtain ⟨value, plain, same⟩ := unanimous field listed
    exact ⟨value, plain, fun entry member => same entry (mem_of_entries member)⟩

end Plan

/-! ### The exit code -/

theorem foldl_add (runs : List Run) (counts : Counts) :
    (runs.foldl Counts.add counts).failure =
        counts.failure + runs.countP (fun run => run.summary.outcome = .failure) ∧
      (runs.foldl Counts.add counts).mismatch =
        counts.mismatch + runs.countP (fun run => run.summary.outcome = .mismatch) := by
  induction runs generalizing counts with
  | nil => simp
  | cons run rest inductionHypothesis =>
      obtain ⟨failures, mismatches⟩ := inductionHypothesis (counts.add run)
      rw [List.foldl_cons, failures, mismatches, List.countP_cons, List.countP_cons]
      cases outcome : run.summary.outcome <;> simp [Counts.add, outcome] <;> omega

theorem counted_iff {runs : List Run} :
    (0 < (countRuns runs).failure ↔ ∃ run ∈ runs, run.summary.outcome = .failure) ∧
      (0 < (countRuns runs).mismatch ↔ ∃ run ∈ runs, run.summary.outcome = .mismatch) := by
  obtain ⟨failures, mismatches⟩ :=
    foldl_add runs { total := 0, pass := 0, mismatch := 0, failure := 0 }
  rw [countRuns, failures, mismatches]
  simp [List.countP_pos_iff]

theorem exists_run_iff {mode : Mode} {results : List UrlResult} {holds : RunSummary → Prop} :
    (∃ run ∈ runsOf mode results, holds run.summary) ↔
      ∃ plan ∈ buildRunPlan results.length mode, holds (summaryOf (plan.entries results)) := by
  constructor
  · rintro ⟨run, listed, held⟩
    obtain ⟨index, below, rfl⟩ := List.mem_mapIdx.mp listed
    exact ⟨_, List.getElem_mem below, held⟩
  · rintro ⟨plan, planned, held⟩
    obtain ⟨index, below, rfl⟩ := List.getElem_of_mem planned
    exact ⟨_, List.mem_mapIdx.mpr ⟨index, below, rfl⟩, held⟩

/-- Both modes call for the exit code of the verdict. -/
theorem codeOf_runs {results : List UrlResult} (several : 2 ≤ results.length) (mode : Mode) :
    codeOf (countRuns (runsOf mode results)) = verdict results := by
  have failing : 0 < (countRuns (runsOf mode results)).failure ↔ Incomplete results := by
    rw [counted_iff.1, @exists_run_iff mode results fun summary => summary.outcome = .failure]
    simp only [failure_iff]
    exact incomplete_runs_iff several mode
  have passing : (∀ plan ∈ buildRunPlan results.length mode,
      (summaryOf (plan.entries results)).outcome = .pass) ↔ Unanimous results := by
    rw [← unanimous_runs_iff several mode]
    exact forall₂_congr fun plan planned => pass_iff (several_entries several planned)
  have differing : 0 < (countRuns (runsOf mode results)).mismatch ↔
      ∃ plan ∈ buildRunPlan results.length mode,
        (summaryOf (plan.entries results)).outcome = .mismatch := by
    rw [counted_iff.2, @exists_run_iff mode results fun summary => summary.outcome = .mismatch]
  rw [codeOf, verdict]
  by_cases incomplete : Incomplete results
  · rw [if_pos (failing.mpr incomplete), if_pos incomplete]
  · rw [if_neg (mt failing.mp incomplete), if_neg incomplete]
    have complete : ∀ plan ∈ buildRunPlan results.length mode,
        (summaryOf (plan.entries results)).outcome ≠ .failure := fun plan planned failure =>
      incomplete ((incomplete_runs_iff several mode).mp ⟨plan, planned, failure_iff.mp failure⟩)
    by_cases unanimous : Unanimous results
    · rw [if_pos unanimous, if_neg]
      rintro differ
      obtain ⟨plan, planned, mismatch⟩ := differing.mp differ
      rw [passing.mpr unanimous plan planned] at mismatch
      cases mismatch
    · rw [if_neg unanimous, if_pos]
      by_contra same
      refine unanimous (passing.mp fun plan planned => ?_)
      cases outcome : (summaryOf (plan.entries results)).outcome with
      | pass => rfl
      | mismatch => exact absurd (differing.mpr ⟨plan, planned, outcome⟩) same
      | failure => exact absurd outcome (complete plan planned)

theorem length_of_mapM {ε α β : Type} {read : α → Except ε β} {items : List α} {values : List β}
    (ran : items.mapM read = .ok values) : values.length = items.length := by
  induction items generalizing values with
  | nil =>
      obtain rfl := pure_eq_ok.mp ran
      rfl
  | cons item rest inductionHypothesis =>
      rw [List.mapM_cons] at ran
      obtain ⟨value, -, ran⟩ := bind_eq_ok.mp ran
      obtain ⟨others, later, ran⟩ := bind_eq_ok.mp ran
      obtain rfl := pure_eq_ok.mp ran
      rw [List.length_cons, List.length_cons, inductionHypothesis later]

theorem length_urlResults {platform : Platform} {network : Network} {tokens urls : List JsString}
    {index : Nat} {results : List UrlResult}
    (ran : urlResults platform network tokens index urls = .ok results) :
    results.length = urls.length := by
  induction urls generalizing index results with
  | nil =>
      obtain rfl := Except.ok.inj ran
      rfl
  | cons url rest inductionHypothesis =>
      obtain ⟨label, -, ran⟩ := bind_eq_ok.mp ran
      obtain ⟨others, later, ran⟩ := bind_eq_ok.mp ran
      obtain rfl := pure_eq_ok.mp ran
      rw [List.length_cons, List.length_cons, inductionHypothesis later]

theorem several_gathered {platform : Platform} {network : Network} {request : Request}
    {results : List UrlResult} (gathered : gatherStates platform network request = .ok results) :
    2 ≤ results.length := by
  obtain ⟨urls, parsed, gathered⟩ := bind_eq_ok.mp gathered
  obtain ⟨tokens, -, gathered⟩ := bind_eq_ok.mp gathered
  rw [length_urlResults gathered]
  unfold parseGatewayUrls at parsed
  split at parsed
  next => cases parsed
  next enough =>
    rw [length_of_mapM parsed]
    omega

/-! ### The attestation of the same states -/

/-- The result as the attestation takes it. -/
def UrlResult.toAttest (result : UrlResult) : GatewayResult :=
  { label := result.label, url := result.url, snapshot := result.snapshot }

theorem getField_snapshot (result : UrlResult) {key : String} {path : List String} :
    getField result.snapshot (key :: path) = result.held (key :: path) := by
  rw [UrlResult.snapshot, UrlResult.held]
  cases result.answer <;> rfl

theorem getField_compared {field : String × List String} (listed : field ∈ comparedFields)
    (result : UrlResult) : getField result.snapshot field.2 = result.held field.2 := by
  have nonempty : ∀ field ∈ comparedFields, field.2 ≠ [] := by decide
  obtain ⟨key, path, whole⟩ := List.exists_cons_of_ne_nil (nonempty field listed)
  rw [whole, getField_snapshot]

theorem attested_invalid_iff {results : List UrlResult} {field : String × List String}
    (listed : field ∈ comparedFields) :
    (compareField (results.map UrlResult.toAttest) field).status = .invalid ↔
      ∃ result ∈ results, result.held field.2 = none := by
  have missing : (((results.map UrlResult.toAttest).map (fieldValue field.2)).any
      fun entry => !entry.found) = true ↔ ∃ result ∈ results, result.held field.2 = none := by
    simp [fieldValue, UrlResult.toAttest, getField_compared listed]
  rw [← missing, compareField]
  dsimp only
  split
  next lacking => exact iff_of_true rfl lacking
  next present =>
    refine iff_of_false ?_ present
    split <;> simp

/-- Equal values are deeply equal. -/
theorem agree_of_unanimous {results : List UrlResult} {field : String × List String} {value : Json}
    (listed : field ∈ comparedFields)
    (each : ∀ result ∈ results, result.held field.2 = some value) :
    agree ((results.map UrlResult.toAttest).map (fieldValue field.2)) = true := by
  have same : ∀ entry ∈ (results.map UrlResult.toAttest).map (fieldValue field.2),
      entry.value = value := by
    intro entry member
    obtain ⟨attested, inResults, rfl⟩ := List.mem_map.mp member
    obtain ⟨result, asked, rfl⟩ := List.mem_map.mp inResults
    show (getField result.snapshot field.2).getD .null = value
    rw [getField_compared listed, each result asked]
    rfl
  cases whole : (results.map UrlResult.toAttest).map (fieldValue field.2) with
  | nil => rfl
  | cons first rest =>
      rw [whole] at same
      rw [agree, List.all_eq_true]
      intro entry member
      rw [same entry member, same first List.mem_cons_self, deepEqual]
      exact decide_eq_true rfl

theorem exitCode_incomplete_iff {results : List UrlResult} :
    exitCode (extractComparedFields (results.map UrlResult.toAttest)) = 2 ↔ Incomplete results := by
  have counted : 0 < (extractComparedFields (results.map UrlResult.toAttest)).invalidFieldCount ↔
      Incomplete results := by
    rw [extractComparedFields_eq, List.countP_pos_iff]
    constructor
    · rintro ⟨entry, member, invalid⟩
      obtain ⟨field, listed, rfl⟩ := List.mem_map.mp member
      obtain ⟨result, asked, lacking⟩ :=
        (attested_invalid_iff listed).mp (of_decide_eq_true invalid)
      exact ⟨result, asked, field, listed, lacking⟩
    · rintro ⟨result, asked, field, listed, lacking⟩
      exact ⟨_, List.mem_map_of_mem listed,
        decide_eq_true ((attested_invalid_iff listed).mpr ⟨result, asked, lacking⟩)⟩
  rw [← counted, exitCode]
  split
  next invalid => exact iff_of_true rfl invalid
  next => split <;> simp_all

theorem exitCode_unanimous {results : List UrlResult} (unanimous : Unanimous results)
    (complete : ¬Incomplete results) :
    exitCode (extractComparedFields (results.map UrlResult.toAttest)) = 0 := by
  have code := mt exitCode_incomplete_iff.mp complete
  have same : (extractComparedFields (results.map UrlResult.toAttest)).mismatchCount = 0 := by
    rw [extractComparedFields_eq, List.countP_eq_zero]
    intro entry member
    obtain ⟨field, listed, rfl⟩ := List.mem_map.mp member
    obtain ⟨value, -, each⟩ := unanimous field listed
    rw [decide_eq_true_eq, compareField]
    dsimp only
    rw [agree_of_unanimous listed each]
    split <;> simp
  rw [exitCode] at code ⊢
  rw [same] at code ⊢
  split at code
  next => exact absurd rfl code
  next invalid =>
    rw [if_neg invalid]
    rfl

/-- The exit code is the verdict over the answers in either mode; an attestation of the
same states reports it too, or consensus where the verdict is a mismatch. -/
theorem compareMatrix_verdict (platform : Platform) (network : Network) (request : Request)
    (mode : Mode) :
    (compareMatrix platform network request mode).map Summary.exitCode =
        (gatherStates platform network request).map verdict ∧
      ∀ results : List UrlResult,
        exitCode (extractComparedFields (results.map UrlResult.toAttest)) = verdict results ∨
          (verdict results = 3 ∧
            exitCode (extractComparedFields (results.map UrlResult.toAttest)) = 0) := by
  constructor
  · rw [compareMatrix]
    cases gathered : gatherStates platform network request with
    | error message => rfl
    | ok results => exact congrArg Except.ok (codeOf_runs (several_gathered gathered) mode)
  · intro results
    rw [verdict]
    by_cases incomplete : Incomplete results
    · rw [if_pos incomplete]
      exact .inl (exitCode_incomplete_iff.mpr incomplete)
    · rw [if_neg incomplete]
      by_cases unanimous : Unanimous results
      · rw [if_pos unanimous]
        exact .inl (exitCode_unanimous unanimous incomplete)
      · rw [if_neg unanimous]
        have code := mt exitCode_incomplete_iff.mp incomplete
        rw [exitCode] at code ⊢
        split at code
        next => exact absurd rfl code
        next invalid =>
          rw [if_neg invalid]
          split
          next => exact .inl rfl
          next => exact .inr ⟨rfl, rfl⟩

end DarkmeshGateway.Operations.MatrixComparison
