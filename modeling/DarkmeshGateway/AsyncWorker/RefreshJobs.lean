import DarkmeshGateway.AsyncWorker.Refresh

/-!
Contract: the jobs of the async worker.

Owns the authorization of a job, the requests in the bodies of the job routes
and in the schedule, the batch loop with its summary, and what each route
answers.

Does not own a single refresh. Requests are handled one after another; a
refresh is given what the network, the clock and the store answer meanwhile.
-/

namespace DarkmeshGateway.AsyncWorker.RefreshJobs

open Foundation.Js
open AsyncWorker.ConfigSignature (Platform)
open AsyncWorker.DomainMap
open AsyncWorker.Refresh

/-! ### Environment -/

/-- The bindings of the job routes beside those of a refresh. -/
structure WorkerEnv extends Env where
  jobsAuthToken : Option JsString := none
  mailerAuthToken : Option JsString := none
  refreshDomains : Option JsString := none
  refreshBatchLimit : Option JsString := none
  domainRefreshQueue : Bool := false

/-- `reqToken?.replace(/^Bearer\s+/i, '').trim()` of a present header. -/
def getAuthToken (header : JsString) : JsString :=
  match header.drop 6 with
  | space :: _ =>
      if toLowerCase (header.take 6) = js "bearer" ∧ isWhitespace space then trim (header.drop 6)
      else trim header
  | [] => trim header

def verifyInternalAuth (env : WorkerEnv) (authorization : Option JsString) : Except Failure Unit :=
  let token := (authorization.map getAuthToken).getD []
  let expected := ((env.jobsAuthToken.filter (· ≠ [])).or env.mailerAuthToken).getD []
  if token = [] ∨ expected = [] ∨ token ≠ expected then
    refuse 401 "unauthorized" "Missing or invalid internal auth token."
  else .ok ()

def defaultRefreshBatchLimit : Int := 10

def maxRefreshBatchLimit : Int := 100

def batchLimit (env : WorkerEnv) : Nat :=
  (min (parsePositiveInt env.refreshBatchLimit defaultRefreshBatchLimit)
    maxRefreshBatchLimit).toNat

def csvList (input : Option JsString) : List JsString :=
  match input with
  | none => []
  | some text =>
      ((text.splitOn 44).map fun item => toLowerCase (trim item)).filter (· ≠ []) |>.eraseDups

/-! ### Requests -/

def parseJsonObject (value : Option Json) (code : String) :
    Except Failure Fields :=
  match value with
  | some (.obj fields) => .ok fields
  | _ => refuse 400 code "Expected JSON object payload."

/-- `typeof value === 'string' ? value : undefined`. -/
def stringOf : Option Json → Option JsString
  | some (.str text) => some text
  | _ => none

/-- `value === true`. -/
def isTrue : Option Json → Bool
  | some (.bool flag) => flag
  | _ => false

/-- An object that is no array. -/
def objectOf : Option Json → Option Json
  | some (.obj fields) => some (.obj fields)
  | _ => none

/-- The request for a domain with the other properties of a record. -/
def requestFor (fields : Fields) (domain : JsString) : DomainRefreshRequest where
  domain := domain
  dryRun := isTrue (fields.get (js "dryRun"))
  txtPayload := stringOf (fields.get (js "txtPayload"))
  configJson := objectOf (fields.get (js "configJson"))
  hbProbeUrl := stringOf (fields.get (js "hbProbeUrl"))

def parseBatchItem (item : Json) : Except Failure DomainRefreshRequest := do
  let parsed ← parseJsonObject (some item) "invalid_batch_item"
  let domain ← normalizeDomain (parsed.get (js "domain"))
  return requestFor parsed domain

def parseBatchDomain (body : Fields) (domain : Json) : Except Failure DomainRefreshRequest := do
  let domain ← normalizeDomain (some domain)
  return requestFor body domain

def batchCandidates (body : Fields) : Except Failure (List DomainRefreshRequest) :=
  match body.get (js "items"), body.get (js "domains") with
  | some (.arr items), _ => items.mapM parseBatchItem
  | _, some (.arr domains) => domains.mapM (parseBatchDomain body)
  | _, _ => refuse 400 "invalid_batch_payload" "Batch payload requires domains[] or items[]."

/-- The requests of a batch, and the domains it names again. -/
structure BatchPlan where
  requests : List DomainRefreshRequest
  duplicates : List JsString

/-- The first request of each domain. -/
def dedupe (seen : List JsString) : List DomainRefreshRequest → BatchPlan
  | [] => ⟨[], []⟩
  | candidate :: rest =>
      if seen.contains candidate.domain then
        let plan := dedupe seen rest
        ⟨plan.requests, candidate.domain :: plan.duplicates⟩
      else
        let plan := dedupe (candidate.domain :: seen) rest
        ⟨candidate :: plan.requests, plan.duplicates⟩

def parseBatchRequests (body : Fields) : Except Failure BatchPlan := do
  let candidates ← batchCandidates body
  if candidates = [] then
    refuse 400 "invalid_batch_payload" "Batch payload cannot be empty."
  else return dedupe [] candidates

/-- The requests of `runScheduledRefreshBatch`. -/
def scheduledRequests (env : WorkerEnv) : List DomainRefreshRequest :=
  (csvList env.refreshDomains).map fun domain => { domain }

/-- `POST /jobs/refresh-domain`; the payload of `handleRefreshDomainPost`. -/
def parseRefreshPost (body : Option Json) : Except Failure DomainRefreshRequest := do
  let fields ← parseJsonObject body "invalid_payload"
  let domain ← normalizeDomain (fields.get (js "domain"))
  return requestFor fields domain

/-- The payload of `POST /jobs/enqueue`. -/
def parseEnqueuedJob (body : Option Json) : Except Failure DomainRefreshRequest := do
  let fields ← parseJsonObject body "invalid_payload"
  let payload ← parseJsonObject (fields.get (js "payload")) "invalid_job_payload"
  if stringOf (fields.get (js "type")) ≠ some (js "refresh-domain") then
    refuse 400 "unsupported_job_type" "Only refresh-domain jobs are currently supported."
  else
    let domain ← normalizeDomain (payload.get (js "domain"))
    return { domain, dryRun := isTrue (payload.get (js "dryRun")) }

/-! ### Batches -/

/-- What the network, the clock and the store answer during one refresh. -/
structure World where
  answers : Answers
  persistence : PersistenceAnswers

/-- A request to refresh, with the environment and the world it meets. -/
structure Job where
  env : Env
  request : DomainRefreshRequest
  world : World

/-- One tracked refresh over the store. -/
def refresh (platform : Platform) (job : Job) (store : Store) :
    Except Failure RefreshResult × Store :=
  let tracked := runDomainRefreshTracked platform job.env job.request job.world.answers store
    job.world.persistence
  (tracked.outcome, Store.putAll store tracked.puts)

/-- What a batch reports about one request. -/
inductive BatchOutcome where
  | refreshed (result : RefreshResult)
  | failed (domain : JsString) (code : String) (message : JsString)

structure BatchSummary where
  attempted : Nat
  ok : Nat
  failed : Nat
  outcomes : List BatchOutcome

def failureCode : Failure → String
  | .controlled error => error.code
  | .unexpected _ => "unexpected_error"

def failureMessage : Failure → JsString
  | .controlled error => error.message
  | .unexpected message => message

def batchOutcome (domain : JsString) : Except Failure RefreshResult → BatchOutcome
  | .ok result => .refreshed result
  | .error failure => .failed domain (failureCode failure) (failureMessage failure)

/-- One round of the loop of a batch. -/
def batchRound (platform : Platform) (state : BatchSummary × Store) (job : Job) :
    BatchSummary × Store :=
  let (summary, store) := state
  let (outcome, after) := refresh platform job store
  let outcomes := summary.outcomes ++ [batchOutcome job.request.domain outcome]
  match outcome with
  | .ok _ => ({ summary with ok := summary.ok + 1, outcomes }, after)
  | .error _ => ({ summary with failed := summary.failed + 1, outcomes }, after)

/-- The jobs of a batch: at most the limit of its requests, each with the world
of its place. -/
def batchJobs (env : WorkerEnv) (world : Nat → World) (requests : List DomainRefreshRequest) :
    List Job :=
  (requests.take (batchLimit env)).zipIdx.map fun request =>
    ⟨env.toEnv, request.1, world request.2⟩

def runRefreshBatch (platform : Platform) (env : WorkerEnv) (world : Nat → World)
    (requests : List DomainRefreshRequest) (store : Store) : BatchSummary × Store :=
  let jobs := batchJobs env world requests
  jobs.foldl (batchRound platform) (⟨jobs.length, 0, 0, []⟩, store)

/-! ### Routes -/

/-- The body of a job route, or a run of the schedule. -/
inductive Call where
  | refreshDomain (body : Option Json)
  | refreshBatch (body : Option Json)
  | enqueue (body : Option Json)
  | scheduled

inductive Reply where
  | refreshed (result : RefreshResult)
  | batch (summary : BatchSummary) (duplicates : List JsString)
  | queued (job : DomainRefreshRequest)
  | accepted (result : RefreshResult)
  | scheduled (attempted ok failed : Nat)

structure Delivery where
  env : WorkerEnv
  authorization : Option JsString
  call : Call
  world : Nat → World

/-- What a request asks for once it is authorized and read. -/
inductive Task where
  | refreshDomain (request : DomainRefreshRequest)
  | refreshBatch (plan : BatchPlan)
  | enqueue (job : DomainRefreshRequest)
  | scheduled (requests : List DomainRefreshRequest)

def readCall (delivery : Delivery) : Except Failure Task :=
  match delivery.call with
  | .scheduled => .ok (.scheduled (scheduledRequests delivery.env))
  | .refreshDomain body => do
      verifyInternalAuth delivery.env delivery.authorization
      return .refreshDomain (← parseRefreshPost body)
  | .refreshBatch body => do
      verifyInternalAuth delivery.env delivery.authorization
      let fields ← parseJsonObject body "invalid_payload"
      return .refreshBatch (← parseBatchRequests fields)
  | .enqueue body => do
      verifyInternalAuth delivery.env delivery.authorization
      return .enqueue (← parseEnqueuedJob body)

def runTask (platform : Platform) (delivery : Delivery) (task : Task) (store : Store) :
    Except Failure Reply × Store :=
  let { env, world, .. } := delivery
  match task with
  | .refreshDomain request =>
      let (outcome, after) := refresh platform ⟨env.toEnv, request, world 0⟩ store
      (outcome.map .refreshed, after)
  | .refreshBatch plan =>
      let (summary, after) := runRefreshBatch platform env world plan.requests store
      (.ok (.batch summary plan.duplicates), after)
  | .enqueue job =>
      if env.domainRefreshQueue then (.ok (.queued job), store)
      else
        let (outcome, after) := refresh platform ⟨env.toEnv, job, world 0⟩ store
        (outcome.map .accepted, after)
  | .scheduled requests =>
      let (summary, after) := runRefreshBatch platform env world requests store
      (.ok (.scheduled summary.attempted summary.ok summary.failed), after)

/-- The answer to a request, and the store behind it. -/
def handle (platform : Platform) (delivery : Delivery) (store : Store) :
    Except Failure Reply × Store :=
  match readCall delivery with
  | .error failure => (.error failure, store)
  | .ok task => runTask platform delivery task store

end DarkmeshGateway.AsyncWorker.RefreshJobs
