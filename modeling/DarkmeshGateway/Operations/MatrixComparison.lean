import DarkmeshGateway.Operations.Attestation

/-!
Contract: the comparison of the states of several gateways, by adjacent pairs or
all at once.

Owns the URLs and tokens, the plan of the runs, the report and outcome of a run,
and the exit code.

Does not own the command line and the printed tables.
-/

namespace DarkmeshGateway.Operations.MatrixComparison

open Foundation.Js
open Attestation (Platform Network isHttpProtocol comparedFields getField formatGatewayLabel
  notAnObject)

/-! ### URLs and tokens -/

def validateGatewayUrl (platform : Platform) (value : JsString) : Except JsString JsString :=
  match platform.parseUrl value with
  | none => .error (js "invalid url: " ++ value)
  | some parsed =>
      if isHttpProtocol parsed.protocol then .ok parsed.href
      else .error (js "unsupported url protocol: " ++ value)

def parseGatewayUrls (platform : Platform) (urls : List JsString) :
    Except JsString (List JsString) :=
  if urls.length < 2 then .error (js "at least two --url values are required")
  else urls.mapM (validateGatewayUrl platform)

def resolveTokensForUrls (urls tokens : List JsString) (envToken : JsString)
    (allowAnonymous : Bool) : Except JsString (List JsString) :=
  if tokens.any fun token => trim token = [] then .error (js "--token values must not be blank")
  else if 0 < tokens.length ∧ tokens.length ≠ 1 ∧ tokens.length ≠ urls.length then
    .error (js "pass either one --token for all URLs or one --token per URL")
  else if tokens.length = urls.length then .ok tokens
  else if tokens.length = 1 then .ok (urls.map fun _ => tokens.getD 0 [])
  else if allowAnonymous then .ok (urls.map fun _ => [])
  else if trim envToken = [] then
    .error (js "missing token: set GATEWAY_INTEGRITY_STATE_TOKEN or pass --token")
  else .ok (urls.map fun _ => envToken)

/-! ### The report of a run -/

inductive RowStatus where
  | consensus
  | mismatch
  | invalid
deriving DecidableEq

structure Row where
  field : String
  status : RowStatus
  details : JsString
  values : Option (List Json)

structure Report where
  rows : List Row
  mismatches : Nat
  invalid : Bool
  totalFields : Nat

/-- `Object.is` of values out of two snapshots, which have no object in common. -/
def objectIs : Json → Json → Bool
  | .null, .null => true
  | .bool left, .bool right => left == right
  | .num left, .num right => decide (left = right)
  | .str left, .str right => left == right
  | _, _ => false

/-- Every value is the first one, which is the same object as itself. -/
def allSame : List Json → Bool
  | [] => true
  | first :: rest => rest.all fun value => objectIs value first

def formatValue : Json → JsString
  | .null => js "null"
  | .bool value => if value then js "true" else js "false"
  | .num value => value.toString
  | value => value.stringify

/-- A labelled snapshot. -/
abbrev Snapshot := JsString × Json

def compareRow (results : List Snapshot) (field : String × List String) : Row :=
  let values := results.map fun result => getField result.2 field.2
  if values.any Option.isNone then
    { field := field.1
      status := .invalid
      details := js "missing field in one or more snapshots"
      values := none }
  else
    let renderedValues := values.filterMap id
    { field := field.1
      status := if allSame renderedValues then .consensus else .mismatch
      details := List.intercalate (js " | ") (List.zipWith
        (fun result value => result.1 ++ 61 :: formatValue value) results renderedValues)
      values := some renderedValues }

/-- One turn of the loop over the fields. -/
def Report.push (report : Report) (row : Row) : Report :=
  { report with
    rows := report.rows ++ [row]
    mismatches := report.mismatches + if row.status = .mismatch then 1 else 0
    invalid := report.invalid || decide (row.status = .invalid) }

def buildComparisonReport (results : List Snapshot) : Report :=
  comparedFields.foldl (fun report field => report.push (compareRow results field))
    { rows := [], mismatches := 0, invalid := false, totalFields := comparedFields.length }

/-! ### The runs -/

inductive Mode where
  | pairwise
  | all
deriving DecidableEq

structure RunPlan where
  type : Mode
  name : JsString
  indices : List Nat

/-- The plan for a number of gateways. -/
def buildRunPlan (count : Nat) : Mode → List RunPlan
  | .all => [{ type := .all, name := js "all", indices := List.range count }]
  | .pairwise => (List.range (count - 1)).map fun index =>
      { type := .pairwise
        name := js "pair-" ++ decimalDigits (index + 1)
        indices := [index, index + 1] }

def previewText (text : JsString) : JsString :=
  if 260 < text.length then text.take 260 ++ js "…" else text

def fetchState (platform : Platform) (network : Network) (index : Nat) (url token : JsString) :
    Except JsString Json :=
  match network index url (if trim token = [] then none else some (js "Bearer " ++ token)) with
  | .failed message => .error message
  | .answered false status statusText body =>
      .error (js "HTTP " ++ decimalDigits status ++ js " " ++
        (if statusText = [] then js "response" else statusText) ++ js ": " ++ previewText body)
  | .answered true _ _ body =>
      if body = [] then .error notAnObject
      else
        match parse platform.readNumeral body with
        | none => .error (js "invalid JSON response: " ++ platform.syntaxMessage body)
        | some (.obj fields) => .ok (.obj fields)
        | some (.arr elements) => .ok (.arr elements)
        | some _ => .error notAnObject

/-- A gateway with its snapshot or the message of its failure. -/
structure UrlResult where
  index : Nat
  url : JsString
  label : JsString
  answer : Except JsString Json

def UrlResult.snapshot (result : UrlResult) : Json :=
  match result.answer with
  | .ok snapshot => snapshot
  | .error _ => .null

def UrlResult.error (result : UrlResult) : Option JsString :=
  match result.answer with
  | .ok _ => none
  | .error message => some message

/-- The results of the gateways from an index on. -/
def urlResults (platform : Platform) (network : Network) (tokens : List JsString) :
    Nat → List JsString → Except JsString (List UrlResult)
  | _, [] => .ok []
  | index, url :: rest => do
      let label ← formatGatewayLabel platform url index
      let results ← urlResults platform network tokens (index + 1) rest
      let answer := fetchState platform network index url (tokens.getD index [])
      return ⟨index, url, label, answer⟩ :: results

inductive RunOutcome where
  | pass
  | mismatch
  | failure
deriving DecidableEq

/-- A run as it is summed up; its `status` goes with the outcome. -/
structure RunSummary where
  outcome : RunOutcome
  reason : JsString
  mismatches : Nat
  invalid : Bool
  totalFields : Nat
  report : Option Report

def summarizeRun (report : Report) (errors : List JsString) : RunSummary :=
  if 0 < errors.length then
    { outcome := .failure
      reason := List.intercalate (js "; ") errors
      mismatches := 0
      invalid := false
      totalFields := comparedFields.length
      report := none }
  else if report.invalid then
    { outcome := .failure
      reason := js "one or more snapshots were incomplete"
      mismatches := report.mismatches
      invalid := true
      totalFields := report.totalFields
      report := some report }
  else if 0 < report.mismatches then
    { outcome := .mismatch
      reason := decimalDigits report.mismatches ++ js " field(s) differ"
      mismatches := report.mismatches
      invalid := false
      totalFields := report.totalFields
      report := some report }
  else
    { outcome := .pass
      reason := js "all compared fields match"
      mismatches := 0
      invalid := false
      totalFields := report.totalFields
      report := some report }

structure Run where
  index : Nat
  plan : RunPlan
  labels : List JsString
  urls : List JsString
  summary : RunSummary

/-- The results a plan asks for. -/
def RunPlan.entries (plan : RunPlan) (results : List UrlResult) : List UrlResult :=
  plan.indices.filterMap fun index => results[index]?

def runErrors (entries : List UrlResult) : List JsString :=
  entries.filterMap fun entry => entry.error.map fun message => entry.label ++ js ": " ++ message

def emptyReport : Report :=
  { rows := [], mismatches := 0, invalid := false, totalFields := comparedFields.length }

def summaryOf (entries : List UrlResult) : RunSummary :=
  if 0 < (runErrors entries).length then summarizeRun emptyReport (runErrors entries)
  else summarizeRun (buildComparisonReport (entries.map fun entry => (entry.label, entry.snapshot)))
    []

def compareRun (results : List UrlResult) (runIndex : Nat) (plan : RunPlan) : Run :=
  { index := runIndex + 1
    plan
    labels := (plan.entries results).map UrlResult.label
    urls := (plan.entries results).map UrlResult.url
    summary := summaryOf (plan.entries results) }

structure Counts where
  total : Nat
  pass : Nat
  mismatch : Nat
  failure : Nat

def Counts.add (counts : Counts) (run : Run) : Counts :=
  match run.summary.outcome with
  | .pass => { counts with total := counts.total + 1, pass := counts.pass + 1 }
  | .mismatch => { counts with total := counts.total + 1, mismatch := counts.mismatch + 1 }
  | .failure => { counts with total := counts.total + 1, failure := counts.failure + 1 }

def countRuns (runs : List Run) : Counts :=
  runs.foldl Counts.add { total := 0, pass := 0, mismatch := 0, failure := 0 }

/-! ### The comparison -/

structure Request where
  urls : List JsString
  tokens : List JsString
  envToken : JsString
  allowAnon : Bool

structure Summary where
  mode : Mode
  pairingStrategy : String
  urls : List JsString
  tokensMode : String
  comparedFields : List String
  runPlan : List RunPlan
  runs : List Run
  counts : Counts
  exitCode : Nat

def tokensMode (request : Request) (urls : List JsString) : String :=
  if request.tokens.length = 1 then "shared"
  else if request.tokens.length = urls.length then "per-url"
  else if request.envToken ≠ [] then "env-shared"
  else if request.allowAnon then "anonymous"
  else "none"

/-- The gateways with their answers, before any of them is compared. -/
def gatherStates (platform : Platform) (network : Network) (request : Request) :
    Except JsString (List UrlResult) := do
  let urls ← parseGatewayUrls platform request.urls
  let tokens ← resolveTokensForUrls urls request.tokens request.envToken request.allowAnon
  urlResults platform network tokens 0 urls

def runsOf (mode : Mode) (results : List UrlResult) : List Run :=
  (buildRunPlan results.length mode).mapIdx (compareRun results)

def codeOf (counts : Counts) : Nat :=
  if 0 < counts.failure then 2 else if 0 < counts.mismatch then 3 else 0

/-- The message of an error is the one that the command line reports with 64. -/
def compareMatrix (platform : Platform) (network : Network) (request : Request) (mode : Mode) :
    Except JsString Summary := do
  let results ← gatherStates platform network request
  let urls := results.map UrlResult.url
  let counts := countRuns (runsOf mode results)
  return {
    mode
    pairingStrategy := if mode = .pairwise then "adjacent" else "all"
    urls
    tokensMode := tokensMode request urls
    comparedFields := comparedFields.map Prod.fst
    runPlan := buildRunPlan results.length mode
    runs := runsOf mode results
    counts
    exitCode := codeOf counts }

end DarkmeshGateway.Operations.MatrixComparison
