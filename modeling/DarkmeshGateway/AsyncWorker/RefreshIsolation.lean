import DarkmeshGateway.AsyncWorker.EntryCoherence
import DarkmeshGateway.AsyncWorker.RefreshJobs
import DarkmeshGateway.Foundation.Locality

/-!
Contract: what the refreshes of different domains have to do with each other.

Owns that a refresh works on the record of its domain alone, that a batch does
for each of its domains what a lone refresh does, and that over any run of
deliveries a record depends only on the refreshes of its domain.

A stored record must not name another domain than the one it is kept for; the
worker keeps that. A record of another host would be written under that host.

Does not own refreshes that run at the same time.
-/

namespace DarkmeshGateway.AsyncWorker.RefreshIsolation

open Foundation
open Foundation.Js
open Foundation.Locality
open Foundation.Outcome
open AsyncWorker.ConfigSignature (Platform)
open AsyncWorker.DomainMap
open AsyncWorker.DomainState
open AsyncWorker.Refresh
open AsyncWorker.RefreshJobs
open AsyncWorker.RefreshSoundness (alphaPlatform alphaAnswers)
open AsyncWorker.EntryCoherence (recordKey domainMapKey_eq lenientEnv shopPersistence)

/-! ### Records -/

/-- Whenever the record of a domain is read, it is about that domain. -/
def OwnRecord (key : JsString) (record : Option Persisted) : Prop :=
  ∀ domain, normalizeDomainHost domain = some domain → key = recordKey domain →
    ∀ raw ∈ record, ∀ nowMs entry, parseDomainMapEntry raw domain nowMs = some entry →
      entry.host = domain

theorem ownRecord_empty : Sound OwnRecord Store.empty := by
  intro key domain normal same raw present
  cases present

section Domain

variable {domain : JsString}

/-- A record written for a domain is read as one of it. -/
theorem parse_own (normal : normalizeDomainHost domain = some domain) {entry : DomainMapEntry}
    (host : entry.host = domain) {nowMs : Int} {read : DomainMapEntry}
    (parsed : parseDomainMapEntry (.json (.obj entry.toFields)) domain nowMs = some read) :
    read.host = domain := by
  have kept : safeNormalizeDomainHost (Fields.get entry.toFields (js "host")) domain = domain := by
    change (normalizeDomainHost entry.host).getD domainMapFallbackHost = domain
    rw [host, normal, Option.getD_some]
  have corrupted {code message : JsString}
      (made : makeCorruptedDomainMapEntry domain nowMs code message = some read) :
      read.host = domain := by
    simp only [makeCorruptedDomainMapEntry, createEmptyDomainMapEntry, normal, Option.map_some,
      Option.some.injEq] at made
    rw [← made]
    rfl
  simp only [parseDomainMapEntry] at parsed
  split at parsed
  next => exact corrupted parsed
  next version known =>
    split at parsed
    · rw [kept] at parsed
      exact corrupted parsed
    · rw [migrate_normal kept normal, Option.some.injEq] at parsed
      rw [← parsed]
      rfl

/-- A put that writes the record of a domain with an entry of it. -/
structure OwnPut (domain : JsString) (put : Put) : Prop where
  key : put.key = recordKey domain
  host : put.entry.host = domain

theorem recordKey_injective : Function.Injective recordKey := fun _ _ same =>
  List.append_cancel_left same

theorem own_put (normal : normalizeDomainHost domain = some domain) {put : Put}
    (own : OwnPut domain put) :
    OwnRecord (recordKey domain) (some (.json (.obj put.entry.toFields))) := by
  rintro other - same raw ⟨⟩ nowMs entry parsed
  obtain rfl := recordKey_injective same
  exact parse_own normal own.host parsed

/-- Puts of a domain leave the other records, and keep its own one its own. -/
theorem putAll_own (normal : normalizeDomainHost domain = some domain) {puts : List Put}
    (own : ∀ put ∈ puts, OwnPut domain put) {store : Store} (sound : Sound OwnRecord store) :
    Sound OwnRecord (Store.putAll store puts) ∧
      ∀ key, key ≠ recordKey domain → Store.putAll store puts key = store key := by
  induction puts generalizing store with
  | nil => exact ⟨sound, fun _ _ => rfl⟩
  | cons put rest inductionHypothesis =>
      obtain ⟨head, tail⟩ := List.forall_mem_cons.mp own
      have elsewhere (key : JsString) (other : key ≠ recordKey domain) :
          DomainMap.Store.put store put.key put.entry key = store key := by
        rw [DomainMap.Store.put, Function.update_of_ne (head.key ▸ other)]
      have next : Sound OwnRecord (DomainMap.Store.put store put.key put.entry) := by
        intro key
        by_cases here : key = recordKey domain
        · rw [here, DomainMap.Store.put, head.key, Function.update_self]
          exact own_put normal head
        · rw [elsewhere key here]
          exact sound key
      obtain ⟨kept, frame⟩ := inductionHypothesis tail next
      exact ⟨kept, fun key other => (frame key other).trans (elsewhere key other)⟩

/-- What puts leave under a key depends on the store only there. -/
theorem putAll_congr (puts : List Put) {key : JsString} {left right : Store}
    (agree : left key = right key) :
    Store.putAll left puts key = Store.putAll right puts key := by
  induction puts generalizing left right with
  | nil => exact agree
  | cons put rest inductionHypothesis =>
      apply inductionHypothesis
      by_cases here : key = put.key
      · subst here
        simp [DomainMap.Store.put]
      · simp [DomainMap.Store.put, here, agree]

/-! ### A persistence -/

theorem getDomainMapEntry_congr (normal : normalizeDomainHost domain = some domain)
    {left right : Store} (agree : left (recordKey domain) = right (recordKey domain))
    (nowMs : Int) : getDomainMapEntry left domain nowMs = getDomainMapEntry right domain nowMs := by
  simp only [getDomainMapEntry, domainMapKey_eq normal, Option.bind_eq_bind, Option.bind_some, agree]

theorem persistOutcome_congr (normal : normalizeDomainHost domain = some domain)
    {left right : Store} (agree : left (recordKey domain) = right (recordKey domain))
    (outcome : DomainRefreshOutcome) (env : Env) (nowMs : Int) (behaviour : StoreBehaviour) :
    persistOutcome left domain outcome env nowMs behaviour =
      persistOutcome right domain outcome env nowMs behaviour := by
  simp only [persistOutcome, getDomainMapEntry_congr normal agree]

/-- What is read for a domain is an entry of it. -/
theorem read_own (normal : normalizeDomainHost domain = some domain) {store : Store}
    (sound : Sound OwnRecord store) {nowMs : Int} {current : Option DomainMapEntry}
    (read : getDomainMapEntry store domain nowMs = some current) :
    ∀ entry ∈ current, entry.host = domain := by
  rintro entry rfl
  simp only [getDomainMapEntry, domainMapKey_eq normal, Option.bind_eq_bind, Option.bind_some]
    at read
  split at read
  next => simp at read
  next raw present =>
    obtain ⟨parsed, made, same⟩ := Option.bind_eq_some_iff.mp read
    obtain rfl : parsed = entry := by simpa using same
    exact sound (recordKey domain) domain normal rfl raw present nowMs parsed made

theorem applyRefreshOutcome_host (normal : normalizeDomainHost domain = some domain)
    {current : Option DomainMapEntry} (own : ∀ entry ∈ current, entry.host = domain)
    {outcome : DomainRefreshOutcome} {nowMs : Int} {options : DomainStateMachineOptions}
    {next : DomainMapEntry}
    (applied : applyRefreshOutcome current outcome domain nowMs options = some next) :
    next.host = domain := by
  obtain ⟨entry, started, rfl⟩ := Option.map_eq_some_iff.mp applied
  obtain ⟨before, chosen, rfl⟩ := Option.map_eq_some_iff.mp started
  have host : before.host = domain := by
    rcases Option.or_eq_some_iff.mp chosen with present | ⟨-, created⟩
    · exact own before present
    · simp only [createEmptyDomainMapEntry, normal, Option.map_some, Option.some.injEq] at created
      rw [← created]
      rfl
  have expired : (applyHardExpiry before nowMs).host = domain :=
    (applyHardExpiry_routing before nowMs).host.trans host
  cases outcome with
  | success outcome => exact expired
  | failure error => exact expired

theorem persistOutcome_own (normal : normalizeDomainHost domain = some domain) {store : Store}
    (sound : Sound OwnRecord store) {outcome : DomainRefreshOutcome} {env : Env} {nowMs : Int}
    {behaviour : StoreBehaviour} :
    ∀ put ∈ (persistOutcome store domain outcome env nowMs behaviour).puts,
      OwnPut domain put := by
  intro put written
  obtain ⟨current, read, applied, keyed⟩ := persistOutcome_put written
  have host := applyRefreshOutcome_host normal (read_own normal sound read) applied
  refine ⟨?_, host⟩
  rw [host, domainMapKey_eq normal] at keyed
  exact (Option.some.inj keyed).symm

end Domain

/-! ### A refresh -/

/-- The record a job works on. -/
def cell (job : Job) : Option JsString :=
  (normalizeDomain (some (.str job.request.domain))).toOption.map recordKey

section Tracked

variable {platform : Platform} {env : Env} {input : DomainRefreshRequest} {answers : Answers}
  {persistence : PersistenceAnswers} {domain : JsString}

theorem tracked_invalid {failure : Failure}
    (refused : normalizeDomain (some (.str input.domain)) = .error failure) (store : Store) :
    runDomainRefreshTracked platform env input answers store persistence =
      ⟨.error failure, []⟩ := by
  simp [runDomainRefreshTracked, refused]

/-- A tracked refresh reads nothing but the record of its domain. -/
theorem tracked_congr (requested : normalizeDomain (some (.str input.domain)) = .ok domain)
    {left right : Store} (agree : left (recordKey domain) = right (recordKey domain)) :
    runDomainRefreshTracked platform env input answers left persistence =
      runDomainRefreshTracked platform env input answers right persistence := by
  have normal := normalizeDomain_host requested
  cases bound : env.domainMapKv with
  | false =>
      rw [runDomainRefreshTracked_unbound requested bound,
        runDomainRefreshTracked_unbound requested bound]
  | true =>
      cases refreshed : runDomainRefresh platform env { input with domain } answers with
      | error failure =>
          rw [runDomainRefreshTracked_error requested bound refreshed,
            runDomainRefreshTracked_error requested bound refreshed, persistDomainRefreshFailure,
            persistOutcome_congr normal agree, persistDomainRefreshFailure]
      | ok result =>
          have same : persistDomainRefreshSuccess result env left persistence.successNowMs
              persistence.success = persistDomainRefreshSuccess result env right
                persistence.successNowMs persistence.success := by
            rw [persistDomainRefreshSuccess, runDomainRefresh_domain requested refreshed,
              persistOutcome_congr normal agree, persistDomainRefreshSuccess,
              runDomainRefresh_domain requested refreshed]
          cases threw : (persistDomainRefreshSuccess result env right persistence.successNowMs
              persistence.success).threw with
          | false =>
              rw [runDomainRefreshTracked_written requested bound refreshed (same ▸ threw),
                runDomainRefreshTracked_written requested bound refreshed threw, same]
          | true =>
              rw [runDomainRefreshTracked_thrown requested bound refreshed (same ▸ threw),
                runDomainRefreshTracked_thrown requested bound refreshed threw, same]
              simp only [persistDomainRefreshFailure,
                persistOutcome_congr normal (putAll_congr _ agree)]

/-- A tracked refresh puts entries of its domain under its key. -/
theorem tracked_own (requested : normalizeDomain (some (.str input.domain)) = .ok domain)
    {store : Store} (sound : Sound OwnRecord store) :
    ∀ put ∈ (runDomainRefreshTracked platform env input answers store persistence).puts,
      OwnPut domain put := by
  have normal := normalizeDomain_host requested
  cases bound : env.domainMapKv with
  | false =>
      rw [runDomainRefreshTracked_unbound requested bound]
      intro put member
      cases member
  | true =>
      cases refreshed : runDomainRefresh platform env { input with domain } answers with
      | error failure =>
          rw [runDomainRefreshTracked_error requested bound refreshed]
          exact persistOutcome_own normal sound
      | ok result =>
          have success : ∀ put ∈ (persistDomainRefreshSuccess result env store
              persistence.successNowMs persistence.success).puts, OwnPut domain put := by
            rw [persistDomainRefreshSuccess, runDomainRefresh_domain requested refreshed]
            exact persistOutcome_own normal sound
          cases threw : (persistDomainRefreshSuccess result env store persistence.successNowMs
              persistence.success).threw with
          | false =>
              rw [runDomainRefreshTracked_written requested bound refreshed threw]
              exact success
          | true =>
              rw [runDomainRefreshTracked_thrown requested bound refreshed threw]
              intro put member
              rcases List.mem_append.mp member with first | second
              · exact success put first
              · exact persistOutcome_own normal (putAll_own normal success sound).1 put second

end Tracked

/-- A refresh is local to the record of its domain. -/
theorem refresh_local (platform : Platform) : Local OwnRecord cell (refresh platform) where
  keeps job store sound := by
    cases requested : normalizeDomain (some (.str job.request.domain)) with
    | error failure =>
        rw [refresh, tracked_invalid requested]
        exact sound
    | ok domain =>
        exact (putAll_own (normalizeDomain_host requested) (tracked_own requested sound) sound).1
  frame job store sound key other := by
    cases requested : normalizeDomain (some (.str job.request.domain)) with
    | error failure =>
        rw [refresh, tracked_invalid requested]
        rfl
    | ok domain =>
        have elsewhere : key ≠ recordKey domain := by
          rintro rfl
          exact other (by rw [cell, requested]; rfl)
        exact (putAll_own (normalizeDomain_host requested) (tracked_own requested sound)
          sound).2 key elsewhere
  answers job left right _ _ agree := by
    cases requested : normalizeDomain (some (.str job.request.domain)) with
    | error failure => rw [refresh, refresh, tracked_invalid requested, tracked_invalid requested]
    | ok domain =>
        rw [refresh, refresh, tracked_congr requested (agree _ (by rw [cell, requested]; rfl))]
  writes job left right _ _ key works agree := by
    cases requested : normalizeDomain (some (.str job.request.domain)) with
    | error failure =>
        rw [cell, requested] at works
        cases works
    | ok domain =>
        obtain rfl : recordKey domain = key := by
          rw [cell, requested] at works
          exact Option.some.inj works
        rw [refresh, refresh, tracked_congr requested agree]
        exact putAll_congr _ agree

/-! ### Batches -/

/-- The requests name their domains in normal form, if at all, and each only once. -/
structure OncePerDomain (requests : List DomainRefreshRequest) : Prop where
  settled : ∀ request ∈ requests, ∀ domain,
    normalizeDomain (some (.str request.domain)) = .ok domain → domain = request.domain
  once : (requests.map DomainRefreshRequest.domain).Nodup

theorem dedupe_domains (seen : List JsString) (candidates : List DomainRefreshRequest) :
    ((dedupe seen candidates).requests.map DomainRefreshRequest.domain).Nodup ∧
      ∀ request ∈ (dedupe seen candidates).requests,
        request ∈ candidates ∧ request.domain ∉ seen := by
  induction candidates generalizing seen with
  | nil => simp [dedupe]
  | cons candidate rest inductionHypothesis =>
      rw [dedupe]
      split
      next again =>
        obtain ⟨once, fresh⟩ := inductionHypothesis seen
        refine ⟨once, fun request member => ?_⟩
        exact ⟨List.mem_cons_of_mem _ (fresh request member).1, (fresh request member).2⟩
      next new =>
        obtain ⟨once, fresh⟩ := inductionHypothesis (candidate.domain :: seen)
        have apart (request : DomainRefreshRequest)
            (member : request ∈ (dedupe (candidate.domain :: seen) rest).requests) :
            request.domain ≠ candidate.domain ∧ request.domain ∉ seen := by
          simpa using (fresh request member).2
        constructor
        · rw [List.map_cons, List.nodup_cons]
          refine ⟨?_, once⟩
          intro member
          obtain ⟨request, listed, same⟩ := List.mem_map.mp member
          exact (apart request listed).1 same
        · intro request member
          rcases List.mem_cons.mp member with rfl | later
          · exact ⟨List.mem_cons_self, by simpa using new⟩
          · exact ⟨List.mem_cons_of_mem _ (fresh request later).1, (apart request later).2⟩

theorem mapM_mem {α β : Type} {read : α → Except Failure β} {items : List α} {results : List β}
    (accepted : items.mapM read = .ok results) :
    ∀ result ∈ results, ∃ item ∈ items, read item = .ok result := by
  induction items generalizing results with
  | nil =>
      obtain rfl := Except.ok.inj accepted
      simp
  | cons item rest inductionHypothesis =>
      rw [List.mapM_cons] at accepted
      obtain ⟨first, readFirst, more⟩ := bind_eq_ok.mp accepted
      obtain ⟨others, readOthers, same⟩ := bind_eq_ok.mp more
      obtain rfl := pure_eq_ok.mp same
      intro result member
      rcases List.mem_cons.mp member with rfl | later
      · exact ⟨item, List.mem_cons_self, readFirst⟩
      · obtain ⟨source, listed, made⟩ := inductionHypothesis readOthers result later
        exact ⟨source, List.mem_cons_of_mem _ listed, made⟩

/-- A normalised domain is its own normal form. -/
theorem normalizeDomain_settled {value : Option Json} {domain other : JsString}
    (accepted : normalizeDomain value = .ok domain)
    (again : normalizeDomain (some (.str domain)) = .ok other) : other = domain := by
  cases value with
  | none => exact absurd accepted refuse_ne_ok
  | some value =>
      cases value with
      | str raw => exact Except.ok.inj (again.symm.trans (normalizeDomain_normal accepted))
      | _ => exact absurd accepted refuse_ne_ok

theorem parseBatchItem_settled {item : Json} {request : DomainRefreshRequest}
    (read : parseBatchItem item = .ok request) :
    ∃ value, normalizeDomain value = .ok request.domain := by
  obtain ⟨fields, -, rest⟩ := bind_eq_ok.mp read
  obtain ⟨domain, accepted, same⟩ := bind_eq_ok.mp rest
  obtain rfl := pure_eq_ok.mp same
  exact ⟨_, accepted⟩

theorem parseBatchDomain_settled {body : Fields} {item : Json} {request : DomainRefreshRequest}
    (read : parseBatchDomain body item = .ok request) :
    ∃ value, normalizeDomain value = .ok request.domain := by
  obtain ⟨domain, accepted, same⟩ := bind_eq_ok.mp read
  obtain rfl := pure_eq_ok.mp same
  exact ⟨_, accepted⟩

theorem batchCandidates_settled {body : Fields} {candidates : List DomainRefreshRequest}
    (read : batchCandidates body = .ok candidates) :
    ∀ request ∈ candidates, ∃ value, normalizeDomain value = .ok request.domain := by
  intro request member
  unfold batchCandidates at read
  split at read
  next items =>
    obtain ⟨item, -, made⟩ := mapM_mem read request member
    exact parseBatchItem_settled made
  next domains =>
    obtain ⟨item, -, made⟩ := mapM_mem read request member
    exact parseBatchDomain_settled made
  next => exact absurd read refuse_ne_ok

theorem parseBatchRequests_once {body : Fields} {plan : BatchPlan}
    (read : parseBatchRequests body = .ok plan) : OncePerDomain plan.requests := by
  obtain ⟨candidates, listed, rest⟩ := bind_eq_ok.mp read
  split at rest
  next => exact absurd rest refuse_ne_ok
  next =>
    obtain rfl := pure_eq_ok.mp rest
    obtain ⟨once, fresh⟩ := dedupe_domains [] candidates
    refine ⟨fun request member domain accepted => ?_, once⟩
    obtain ⟨value, settled⟩ := batchCandidates_settled listed request (fresh request member).1
    exact normalizeDomain_settled settled accepted

theorem csvList_nodup (input : Option JsString) : (csvList input).Nodup := by
  have erased : (items : List JsString) → items.eraseDups.Nodup := fun items => by
    induction shrinking : items.length using Nat.strong_induction_on generalizing items with
    | _ size inductionHypothesis =>
        cases items with
        | nil => exact List.nodup_nil
        | cons item rest =>
            have shorter : (rest.filter fun other => !other == item).length < size := by
              have := List.length_filter_le (fun other => !other == item) rest
              simp only [List.length_cons] at shrinking
              omega
            rw [List.eraseDups_cons, List.nodup_cons, List.mem_eraseDups]
            exact ⟨by simp, inductionHypothesis _ shorter _ rfl⟩
  unfold csvList
  split
  · exact List.nodup_nil
  · exact erased _

theorem csvList_mem {input : Option JsString} {item : JsString} (listed : item ∈ csvList input) :
    toLowerCase (trim item) = item := by
  unfold csvList at listed
  split at listed
  next => cases listed
  next text =>
    rw [List.mem_eraseDups] at listed
    obtain ⟨part, -, rfl⟩ := List.mem_map.mp (List.mem_of_mem_filter listed)
    rw [trim_toLowerCase_trim, toLowerCase_toLowerCase]

theorem scheduledRequests_once (env : WorkerEnv) : OncePerDomain (scheduledRequests env) := by
  constructor
  · intro request member domain accepted
    obtain ⟨item, listed, rfl⟩ := List.mem_map.mp member
    simp only [normalizeDomain] at accepted
    split at accepted
    next => exact (Except.ok.inj accepted).symm.trans (csvList_mem listed)
    next => exact absurd accepted refuse_ne_ok
  · have domains : (scheduledRequests env).map DomainRefreshRequest.domain =
        csvList env.refreshDomains := by
      simp [scheduledRequests, Function.comp_def]
    rw [domains]
    exact csvList_nodup _

/-- The jobs of such requests work on different records. -/
theorem batchJobs_apart {requests : List DomainRefreshRequest} (once : OncePerDomain requests)
    (env : WorkerEnv) (world : Nat → World) :
    (batchJobs env world requests).Pairwise (Apart cell) := by
  have taken : ((requests.take (batchLimit env)).zipIdx.map Prod.fst) =
      requests.take (batchLimit env) := by simp
  have distinct : (requests.take (batchLimit env)).zipIdx.Pairwise
      fun first second => first.1.domain ≠ second.1.domain := by
    have listed := once.once.sublist ((List.take_sublist (batchLimit env) requests).map _)
    rw [← taken, List.map_map] at listed
    exact List.pairwise_map.mp listed
  rw [batchJobs, List.pairwise_map]
  refine distinct.imp_of_mem ?_
  intro first second firstListed secondListed differ key own again
  have settled (request : DomainRefreshRequest × Nat)
      (listed : request ∈ (requests.take (batchLimit env)).zipIdx)
      (works : cell ⟨env.toEnv, request.1, world request.2⟩ = some key) :
      key = recordKey request.1.domain := by
    have member : request.1 ∈ requests := by
      refine (List.take_subset (batchLimit env) requests) ?_
      rw [← taken]
      exact List.mem_map_of_mem listed
    obtain ⟨domain, accepted, rfl⟩ := Option.map_eq_some_iff.mp works
    rw [once.settled _ member domain (toOption_eq_some.mp accepted)]
  exact differ (recordKey_injective
    ((settled first firstListed own).symm.trans (settled second secondListed again)))

/-! ### The loop -/

/-- The summary of some jobs with their outcomes. -/
def summaryOf (jobs : List Job) (outcomes : List (Except Failure RefreshResult)) : BatchSummary where
  attempted := jobs.length
  ok := outcomes.countP fun outcome => outcome.toOption.isSome
  failed := outcomes.countP fun outcome => outcome.toOption.isNone
  outcomes := List.zipWith (fun job outcome => batchOutcome job.request.domain outcome) jobs
    outcomes

theorem foldl_batchRound (platform : Platform) (jobs : List Job) (summary : BatchSummary)
    (store : Store) :
    jobs.foldl (batchRound platform) (summary, store) =
      let (outcomes, final) := run (refresh platform) jobs store
      ({ attempted := summary.attempted
         ok := summary.ok + (summaryOf jobs outcomes).ok
         failed := summary.failed + (summaryOf jobs outcomes).failed
         outcomes := summary.outcomes ++ (summaryOf jobs outcomes).outcomes }, final) := by
  induction jobs generalizing summary store with
  | nil => simp [summaryOf]
  | cons job rest inductionHypothesis =>
      rw [List.foldl_cons, run_cons]
      cases refreshed : refresh platform job store with
      | mk outcome after =>
          cases outcome with
          | ok result =>
              have round : batchRound platform (summary, store) job =
                  ({ summary with
                      ok := summary.ok + 1
                      outcomes := summary.outcomes ++
                        [batchOutcome job.request.domain (.ok result)] }, after) := by
                simp [batchRound, refreshed]
              rw [round, inductionHypothesis]
              simp [summaryOf, Except.toOption]
              omega
          | error failure =>
              have round : batchRound platform (summary, store) job =
                  ({ summary with
                      failed := summary.failed + 1
                      outcomes := summary.outcomes ++
                        [batchOutcome job.request.domain (.error failure)] }, after) := by
                simp [batchRound, refreshed]
              rw [round, inductionHypothesis]
              simp [summaryOf, Except.toOption]
              omega

theorem runRefreshBatch_eq (platform : Platform) (env : WorkerEnv) (world : Nat → World)
    (requests : List DomainRefreshRequest) (store : Store) :
    let jobs := batchJobs env world requests
    let (outcomes, final) := run (refresh platform) jobs store
    runRefreshBatch platform env world requests store = (summaryOf jobs outcomes, final) := by
  simp [runRefreshBatch, foldl_batchRound, summaryOf]

/-- A batch did for each of its jobs what the job does alone, and nothing else. -/
structure AsEachAlone (platform : Platform) (jobs : List Job) (before after : Store)
    (summary : BatchSummary) : Prop where
  attempted : summary.attempted = jobs.length
  outcomes : summary.outcomes =
    jobs.map fun job => batchOutcome job.request.domain (refresh platform job before).1
  ok : summary.ok = jobs.countP fun job => (refresh platform job before).1.toOption.isSome
  failed : summary.failed = jobs.countP fun job => (refresh platform job before).1.toOption.isNone
  records : ∀ job ∈ jobs, ∀ key ∈ cell job, after key = (refresh platform job before).2 key
  others : ∀ key, (∀ job ∈ jobs, cell job ≠ some key) → after key = before key
  sound : Sound OwnRecord after

/-- Where the requests of a batch come from. -/
def FromBatch (env : WorkerEnv) (requests : List DomainRefreshRequest) : Prop :=
  requests = scheduledRequests env ∨
    ∃ body plan, parseBatchRequests body = .ok plan ∧ plan.requests = requests

/-- A batch refreshes each of its domains as if it were the only one: no outcome
and no record depends on the other domains of the batch or on their failures. -/
theorem batch_refreshes_alone (platform : Platform) (env : WorkerEnv) (world : Nat → World)
    {requests : List DomainRefreshRequest} (source : FromBatch env requests) {store : Store}
    (sound : Sound OwnRecord store) :
    let batch := runRefreshBatch platform env world requests store
    AsEachAlone platform (batchJobs env world requests) store batch.2 batch.1 := by
  have once : OncePerDomain requests := by
    rcases source with rfl | ⟨body, plan, read, rfl⟩
    · exact scheduledRequests_once env
    · exact parseBatchRequests_once read
  have isLocal := refresh_local platform
  rw [runRefreshBatch_eq]
  generalize jobsOf : batchJobs env world requests = jobs
  obtain ⟨answers, records⟩ := isLocal.run_alone (jobsOf ▸ batchJobs_apart once env world) sound
  exact {
    attempted := rfl
    outcomes := by
      simp only [summaryOf, answers, List.zipWith_map_right]
      rw [List.zipWith_self]
    ok := by
      simp only [summaryOf, answers, List.countP_map]
      rfl
    failed := by
      simp only [summaryOf, answers, List.countP_map]
      rfl
    records
    others := fun key elsewhere => isLocal.run_frame elsewhere sound
    sound := isLocal.run_keeps jobs sound }

/-- A schedule of some domains. -/
def scheduleEnv (domains : JsString) : WorkerEnv :=
  { lenientEnv with refreshDomains := some domains }

def shopWorld (_ : Nat) : World := ⟨alphaAnswers, shopPersistence⟩

def shopsEnv : WorkerEnv := scheduleEnv (js "shop.example, Other.example,shop.example")

/-- What one round of the schedule stores. -/
def shopsStore : Store :=
  (runRefreshBatch alphaPlatform shopsEnv shopWorld (scheduledRequests shopsEnv) Store.empty).2

/-- A second round, over what the first one has stored. -/
theorem two_shops_refreshed_alone :
    let batch := runRefreshBatch alphaPlatform shopsEnv shopWorld (scheduledRequests shopsEnv)
      shopsStore
    AsEachAlone alphaPlatform (batchJobs shopsEnv shopWorld (scheduledRequests shopsEnv)) shopsStore
        batch.2 batch.1 ∧
      (batchJobs shopsEnv shopWorld (scheduledRequests shopsEnv)).map
          (fun job => job.request.domain) = [js "shop.example", js "other.example"] := by
  have first := batch_refreshes_alone alphaPlatform shopsEnv shopWorld (Or.inl rfl) ownRecord_empty
  exact ⟨batch_refreshes_alone alphaPlatform shopsEnv shopWorld (Or.inl rfl) first.sound,
    by decide +kernel⟩

/-! ### Runs of deliveries -/

/-- The refreshes a task makes. -/
def taskJobs (delivery : Delivery) : Task → List Job
  | .refreshDomain request => [⟨delivery.env.toEnv, request, delivery.world 0⟩]
  | .refreshBatch plan => batchJobs delivery.env delivery.world plan.requests
  | .enqueue job =>
      if delivery.env.domainRefreshQueue then []
      else [⟨delivery.env.toEnv, job, delivery.world 0⟩]
  | .scheduled requests => batchJobs delivery.env delivery.world requests

/-- The refreshes a delivery makes; a refused one makes none. -/
def deliveryJobs (delivery : Delivery) : List Job :=
  match readCall delivery with
  | .error _ => []
  | .ok task => taskJobs delivery task

theorem handle_store (platform : Platform) (delivery : Delivery) (store : Store) :
    (handle platform delivery store).2 =
      (run (refresh platform) (deliveryJobs delivery) store).2 := by
  unfold handle deliveryJobs
  cases readCall delivery with
  | error failure => rfl
  | ok task =>
      cases task with
      | refreshDomain request => rfl
      | refreshBatch plan => exact congrArg Prod.snd (runRefreshBatch_eq platform ..)
      | enqueue job =>
          simp only [runTask, taskJobs]
          split <;> rfl
      | scheduled requests => exact congrArg Prod.snd (runRefreshBatch_eq platform ..)

theorem run_handle_store (platform : Platform) (deliveries : List Delivery) (store : Store) :
    (run (handle platform) deliveries store).2 =
      (run (refresh platform) (deliveries.flatMap deliveryJobs) store).2 := by
  induction deliveries generalizing store with
  | nil => rfl
  | cons delivery rest inductionHypothesis =>
      rw [run_cons, List.flatMap_cons, run_append, inductionHypothesis, handle_store]

/-- The refreshes of one domain in a run of deliveries. -/
def refreshesOf (domain : JsString) (deliveries : List Delivery) : List Job :=
  (deliveries.flatMap deliveryJobs).filter fun job => cell job = some (recordKey domain)

/-- Domains do not interfere: when two runs of deliveries make the same refreshes
of a domain and start with the same record of it, they leave the same record,
whatever else they refresh, refuse or queue. -/
theorem domains_do_not_interfere (platform : Platform) (domain : JsString)
    {left right : List Delivery} (refreshes : refreshesOf domain left = refreshesOf domain right)
    {leftStore rightStore : Store} (leftSound : Sound OwnRecord leftStore)
    (rightSound : Sound OwnRecord rightStore)
    (agree : leftStore (recordKey domain) = rightStore (recordKey domain)) :
    (run (handle platform) left leftStore).2 (recordKey domain) =
      (run (handle platform) right rightStore).2 (recordKey domain) := by
  have isLocal := refresh_local platform
  rw [run_handle_store, run_handle_store,
    isLocal.run_projection (recordKey domain) _ leftSound leftSound rfl,
    isLocal.run_projection (recordKey domain) _ rightSound leftSound agree.symm]
  exact congrArg (fun jobs => (run (refresh platform) jobs leftStore).2 (recordKey domain)) refreshes

def scheduledRun (domains : JsString) : Delivery where
  env := scheduleEnv domains
  authorization := none
  call := .scheduled
  world := shopWorld

def shopJob (domain : JsString) : Job where
  env := lenientEnv
  request := { domain }
  world := shopWorld 0

theorem shop_beside_others :
    (run (handle alphaPlatform) [scheduledRun (js "shop.example,other.example")] Store.empty).2
        (recordKey (js "shop.example")) =
      (run (handle alphaPlatform) [scheduledRun (js "shop.example")] Store.empty).2
        (recordKey (js "shop.example")) :=
  domains_do_not_interfere alphaPlatform (js "shop.example")
    (by
      have alone : csvList (some (js "shop.example")) = [js "shop.example"] := by decide +kernel
      have both : csvList (some (js "shop.example,other.example")) =
          [js "shop.example", js "other.example"] := by decide +kernel
      have shop : cell (shopJob (js "shop.example")) = some (recordKey (js "shop.example")) := by
        decide +kernel
      have other : cell (shopJob (js "other.example")) ≠ some (recordKey (js "shop.example")) := by
        decide +kernel
      have jobs (domains : JsString) :
          deliveryJobs (scheduledRun domains) = ((csvList (some domains)).take 10).map shopJob := by
        let jobFor (request : DomainRefreshRequest) : Job := ⟨lenientEnv, request, shopWorld 0⟩
        change (((csvList (some domains)).map fun domain => { domain }).take 10).zipIdx.map
          (jobFor ∘ Prod.fst) = _
        rw [← List.map_map, List.zipIdx_map_fst, ← List.map_take, List.map_map]
        rfl
      simp [refreshesOf, jobs, alone, both, shop, other])
    ownRecord_empty ownRecord_empty rfl

end DarkmeshGateway.AsyncWorker.RefreshIsolation
