import DarkmeshGateway.Foundation.Delimited
import DarkmeshGateway.Resolver.Route

/-!
Contract: replies from the idempotency store of the resolver.

Owns when two requests are one request, where a recorded answer comes from,
and which requests can be answered with each other's replies.

Does not own the store: it returns what was recorded under a key, or nothing.
-/

namespace DarkmeshGateway.Resolver.IdempotentReplay

open Foundation
open Foundation.Lua
open Resolver.Normalize
open Resolver.State
open Resolver.Resolve
open Resolver.Route

variable {platform : Platform} {publicReadRequireAuth : Bool}

/-! ### Requests -/

/-- The messages agree on the fields of the key, on the mode and on the bundle. -/
structure SameRequest (platform : Platform) (left right : Entries) : Prop where
  scope : requestScope platform left = requestScope platform right
  mode : anyField left ["Policy-Mode", "PolicyMode"] = anyField right ["Policy-Mode", "PolicyMode"]
  bundle : anyField left ["Bundle", "bundle"] = anyField right ["Bundle", "bundle"]

/-- Whatever is replayed was the answer to the same request. -/
def ReplaysOwn (platform : Platform) (publicReadRequireAuth : Bool) (state : RouterState)
    (call : Call) : Prop :=
  ∀ recorded, (route platform publicReadRequireAuth state call).2 = .replayed recorded →
    SameRequest platform recorded.call.msg call.msg

/-- A message that gets a key: it has a request id and an allowed action. -/
def Keyed (msg : Entries) : Prop := readRequestId msg ≠ [] ∧ (readAction msg).isSome

/-- Keyed messages whose fields spell one text are one request. -/
def NoClash (platform : Platform) (left right : Entries) : Prop :=
  Keyed left → Keyed right → (requestScope platform left).key = (requestScope platform right).key →
    SameRequest platform left right

theorem idempotencyKey_eq_some {msg : Entries} {key : LuaString} :
    idempotencyKey platform msg = some key ↔
      readRequestId msg ≠ [] ∧ (requestScope platform msg).key = key := by
  unfold idempotencyKey
  by_cases anonymous : readRequestId msg = [] <;> simp [anonymous]

/-! ### Keys -/

/-- No field in front of the method contains the separator. -/
structure RequestScope.Free (scope : RequestScope) : Prop where
  requestId : 124 ∉ scope.requestId
  action : 124 ∉ scope.action
  host : 124 ∉ scope.host
  path : 124 ∉ scope.path

theorem RequestScope.key_eq (scope : RequestScope) :
    scope.key = Delimited.prefixed 124 [scope.requestId, scope.action, scope.host, scope.path]
      scope.method := by
  simp [RequestScope.key, concatBar, List.intercalate]

/-- The key of free fields gives them back. -/
theorem RequestScope.key_injective {left right : RequestScope} (freeLeft : RequestScope.Free left)
    (freeRight : RequestScope.Free right) (same : left.key = right.key) : left = right := by
  rw [RequestScope.key_eq, RequestScope.key_eq] at same
  have unique := Delimited.prefixed_injective
    (.cons (.inr ⟨freeLeft.requestId, freeRight.requestId⟩)
      (.cons (.inr ⟨freeLeft.action, freeRight.action⟩)
        (.cons (.inr ⟨freeLeft.host, freeRight.host⟩)
          (.cons (.inr ⟨freeLeft.path, freeRight.path⟩) .nil)))) same
  have fields := unique.1
  simp only [List.cons.injEq, and_true] at fields
  cases left
  cases right
  simp only [RequestScope.mk.injEq]
  exact ⟨fields.1, fields.2.1, fields.2.2.1, fields.2.2.2, unique.2⟩

/-- Free messages clash only when a request id is used again with another mode
or bundle. -/
theorem noClash_of_free {left right : Entries}
    (freeLeft : RequestScope.Free (requestScope platform left))
    (freeRight : RequestScope.Free (requestScope platform right))
    (reuse : requestScope platform left = requestScope platform right →
      SameRequest platform left right) : NoClash platform left right := by
  intro _ _ same
  exact reuse (RequestScope.key_injective freeLeft freeRight same)

/-! ### The store over runs -/

/-- Every stored answer was recorded for an earlier keyed call, under its key. -/
def Recalls (platform : Platform) (before : List Call) (state : RouterState) : Prop :=
  ∀ key recorded, state.answers.find key = some recorded →
    recorded.call ∈ before ∧ Keyed recorded.call.msg ∧
      (requestScope platform recorded.call.msg).key = key

theorem Recalls.prepare {before : List Call} {state : RouterState}
    (recalls : Recalls platform before state) (call : Call) :
    Recalls platform (before ++ [call]) (state.prepare platform call) := by
  intro key recorded found
  obtain ⟨member, keyed, named⟩ := recalls key recorded (OrderedMap.find_of_filter found)
  exact ⟨List.mem_append_left _ member, keyed, named⟩

/-- What one call does to the store. -/
theorem Recalls.route {before : List Call} {state : RouterState}
    (recalls : Recalls platform before state) (call : Call) :
    Recalls platform (before ++ [call])
      (Route.route platform publicReadRequireAuth state call).1 := by
  have effect := route_effect platform publicReadRequireAuth state call
  generalize (Route.route platform publicReadRequireAuth state call).1 = after at effect ⊢
  generalize (Route.route platform publicReadRequireAuth state call).2 = answer at effect
  cases effect with
  | refused response _ =>
      intro key recorded found
      obtain ⟨member, rest⟩ := recalls key recorded found
      exact ⟨List.mem_append_left _ member, rest⟩
  | forbidden response _ => exact recalls.prepare call
  | replayed key recorded _ _ _ => exact recalls.prepare call
  | unhandled _ => exact recalls.prepare call
  | handled action known checked answers stored =>
      have kept := recalls.prepare call
      intro key recorded found
      replace found : answers.find key = some recorded := found
      cases keyed : idempotencyKey platform call.msg with
      | none =>
          rw [stored, keyed] at found
          exact kept key recorded found
      | some own =>
          rw [stored, keyed] at found
          by_cases same : key = own
          · rw [same, OrderedMap.find_set_self, Option.some.injEq] at found
            obtain ⟨identified, named⟩ := idempotencyKey_eq_some.mp keyed
            rw [← found, same]
            exact ⟨by simp, ⟨identified, by simp [known]⟩, named⟩
          · rw [OrderedMap.find_set_other _ same] at found
            exact kept key recorded found

/-- Behind every run the store recalls the calls of the run. -/
theorem run_recalls {resolver : ResolverState} {calls : List Call} {final : RouterState}
    (reached : Machine.run (step platform publicReadRequireAuth) (.initial resolver) calls =
      some final) : Recalls platform calls final := by
  have always : Machine.Meets (step platform publicReadRequireAuth) (fun _ _ => True)
      (.initial resolver) calls := Machine.Meets.of_forall (fun _ _ => trivial) _
  apply Machine.run_history_invariant (Recalls platform) _ _ always reached
  · intro before state next call _ recalls _ stepped
    rw [← Option.some.inj stepped]
    exact recalls.route call
  · intro key recorded found
    simp [RouterState.initial, OrderedMap.empty, OrderedMap.find] at found

/-- Requests that do not clash are answered with their own replies. -/
theorem replaysOwn_of_noClash {resolver : ResolverState} {calls : List Call}
    (apart : calls.Pairwise fun left right => NoClash platform left.msg right.msg) :
    Machine.Meets (step platform publicReadRequireAuth)
      (ReplaysOwn platform publicReadRequireAuth) (.initial resolver) calls := by
  rw [Machine.meets_iff_forall]
  rintro before call after state rfl reached recorded replayed
  have recalls := run_recalls reached
  have effect := route_effect platform publicReadRequireAuth state call
  rw [replayed] at effect
  generalize (Route.route platform publicReadRequireAuth state call).1 = next at effect
  cases effect with
  | replayed key _ checked keyed found =>
      obtain ⟨member, keyedBefore, named⟩ :=
        recalls key recorded (OrderedMap.find_of_filter found)
      obtain ⟨identified, own⟩ := idempotencyKey_eq_some.mp keyed
      have clash := (List.pairwise_append.mp apart).2.2 recorded.call member call (by simp)
      exact clash keyedBefore ⟨identified, checkAction_known checked⟩ (named.trans own.symm)

/-- Where no id, host or path contains the separator, an id may be used again for the
same request. -/
theorem replaysOwn_of_free {resolver : ResolverState} {calls : List Call}
    (free : ∀ call ∈ calls, RequestScope.Free (requestScope platform call.msg))
    (reuse : calls.Pairwise fun left right =>
      requestScope platform left.msg = requestScope platform right.msg →
        SameRequest platform left.msg right.msg) :
    Machine.Meets (step platform publicReadRequireAuth)
      (ReplaysOwn platform publicReadRequireAuth) (.initial resolver) calls :=
  replaysOwn_of_noClash (reuse.imp_of_mem fun leftIn rightIn same =>
    noClash_of_free (free _ leftIn) (free _ rightIn) same)

/-! ### Every clash is replayed -/

def openShared : Shared where
  missingTags := []
  action := .allowed
  enforce := .ok ()
  rateLimit := .ok ()
  outboxHmac := .ok ()
  role := .ok ()
  retained _ := true

/-- A call that every check lets through. -/
def openCall (now : Int) (msg : Entries) (known : (readAction msg).isSome) : Call where
  now
  msg
  shared := openShared
  known _ := known

/-- A call that is turned away at the first check. -/
def closedCall (request : Int × Entries) : Call where
  now := request.1
  msg := request.2
  shared := { openShared with missingTags := [lua "Action"], action := .missing }
  known missing := by contradiction

theorem step_closedCall (state : RouterState) (request : Int × Entries) :
    step platform publicReadRequireAuth state (closedCall request) = some state := rfl

theorem run_closedCalls (state : RouterState) (requests : List (Int × Entries)) :
    Machine.run (step platform publicReadRequireAuth) state (requests.map closedCall) =
      some state := by
  induction requests with
  | nil => rfl
  | cons request rest inductionHypothesis =>
      rw [List.map_cons, Machine.run_cons_eq_some]
      exact ⟨state, step_closedCall state request, inductionHypothesis⟩

theorem route_openCall (state : RouterState) {now : Int} {msg : Entries}
    (known : (readAction msg).isSome) :
    route platform publicReadRequireAuth state (openCall now msg known) =
      match (idempotencyKey platform msg).bind
        (state.prepare platform (openCall now msg known)).answers.find with
      | some recorded => (state.prepare platform (openCall now msg known), .replayed recorded)
      | none => dispatch platform (state.prepare platform (openCall now msg known))
          (openCall now msg known) (idempotencyKey platform msg) := by
  have admitted : authorise publicReadRequireAuth (openCall now msg known) = .ok () := by
    unfold authorise
    split <;> rfl
  rw [route, admitted]
  rfl

/-- A keyed call that is let through is answered from the store afterwards. -/
theorem openCall_recorded (platform : Platform) (publicReadRequireAuth : Bool)
    (resolver : ResolverState) (now : Int) {msg : Entries} (keyed : Keyed msg) :
    ∃ recorded, recorded.call.msg = msg ∧
      (route platform publicReadRequireAuth (.initial resolver)
        (openCall now msg keyed.2)).1.answers.find (requestScope platform msg).key =
          some recorded := by
  have key : idempotencyKey platform msg = some (requestScope platform msg).key :=
    idempotencyKey_eq_some.mpr ⟨keyed.1, rfl⟩
  have absent : ((RouterState.initial resolver).prepare platform
      (openCall now msg keyed.2)).answers.find (requestScope platform msg).key = none := rfl
  obtain ⟨action, known⟩ := Option.isSome_iff_exists.mp keyed.2
  have named : readAction (openCall now msg keyed.2).msg = some action := known
  rw [route_openCall, key, Option.bind_some, absent]
  simp only [dispatch, named, OrderedMap.find_set_self]
  exact ⟨_, rfl, rfl⟩

theorem openCall_replayed {state : RouterState} {now : Int} {msg : Entries} (keyed : Keyed msg)
    {recorded : Recorded}
    (stored : state.answers.find (requestScope platform msg).key = some recorded) :
    (route platform publicReadRequireAuth state (openCall now msg keyed.2)).2 =
      .replayed recorded := by
  have key : idempotencyKey platform msg = some (requestScope platform msg).key :=
    idempotencyKey_eq_some.mpr ⟨keyed.1, rfl⟩
  have kept : (state.prepare platform (openCall now msg keyed.2)).answers.find
      (requestScope platform msg).key = some recorded := by
    show (state.answers.filter fun _ _ => true).find _ = _
    rw [OrderedMap.filter_eq_self fun _ _ _ => rfl]
    exact stored
  rw [route_openCall, key, Option.bind_some, kept]

/-- Where every run replays own answers, the first request clashes with no later one. -/
theorem noClash_of_replaysOwn {resolver : ResolverState} {first : Int × Entries}
    {middle : List (Int × Entries)} {later : Int × Entries} {rest : List (Int × Entries)}
    (owns : ∀ calls : List Call,
      calls.map (fun call => (call.now, call.msg)) = first :: (middle ++ later :: rest) →
        Machine.Meets (step platform publicReadRequireAuth)
          (ReplaysOwn platform publicReadRequireAuth) (.initial resolver) calls) :
    NoClash platform first.2 later.2 := by
  intro keyedFirst keyedLater same
  have closed (requests : List (Int × Entries)) :
      (requests.map closedCall).map (fun call => (call.now, call.msg)) = requests := by
    rw [List.map_map]
    exact List.map_id requests
  obtain ⟨recorded, own, stored⟩ :=
    openCall_recorded platform publicReadRequireAuth resolver first.1 keyedFirst
  have meets := owns (openCall first.1 first.2 keyedFirst.2 :: (middle.map closedCall ++
    openCall later.1 later.2 keyedLater.2 :: rest.map closedCall)) (by
      simp only [List.map_cons, List.map_append, closed]
      rfl)
  have behind := (meets.2 _ rfl).after (run_closedCalls _ middle)
  rw [same] at stored
  rw [← own]
  exact behind.1 recorded (openCall_replayed keyedLater stored)

/-- Every run over some requests answers them with their own replies only
exactly when no two of them clash. -/
theorem replays_own_iff (platform : Platform) (publicReadRequireAuth : Bool)
    (resolver : ResolverState) (requests : List (Int × Entries)) :
    (∀ calls : List Call, calls.map (fun call => (call.now, call.msg)) = requests →
      Machine.Meets (step platform publicReadRequireAuth)
        (ReplaysOwn platform publicReadRequireAuth) (.initial resolver) calls) ↔
      requests.Pairwise fun left right => NoClash platform left.2 right.2 := by
  constructor
  · intro owns
    induction requests with
    | nil => exact List.Pairwise.nil
    | cons first others inductionHypothesis =>
        rw [List.pairwise_cons]
        refine ⟨?_, inductionHypothesis ?_⟩
        · intro later member
          obtain ⟨middle, rest, rfl⟩ := List.append_of_mem member
          exact noClash_of_replaysOwn owns
        · intro calls listed
          have meets := owns (closedCall first :: calls) (by rw [List.map_cons, listed]; rfl)
          exact meets.2 _ (step_closedCall _ first)
  · rintro apart calls rfl
    rw [List.pairwise_map] at apart
    exact replaysOwn_of_noClash apart

/-- A host asked for under a request id, in a mode. -/
def fixtureRequest (mode : String) : Entries :=
  [(.str (lua "Action"), .str (lua "ResolveHostForNode")),
    (.str (lua "Request-Id"), .str (lua "r1")), (.str (lua "Host"), .str (lua "a.io")),
    (.str (lua "Policy-Mode"), .str (lua mode))]

/-- A decision in one mode is replayed to a request for another. -/
theorem other_mode_replayed :
    ¬∀ (platform : Platform) (publicReadRequireAuth : Bool) (resolver : ResolverState)
      (calls : List Call), Machine.Meets (step platform publicReadRequireAuth)
        (ReplaysOwn platform publicReadRequireAuth) (.initial resolver) calls := by
  intro claim
  have owns (calls : List Call) (listed : calls.map (fun call => (call.now, call.msg)) =
      (0, fixtureRequest "off") :: ([] ++ (1, fixtureRequest "enforce") :: [])) :
      Machine.Meets (step fixturePlatform false) (ReplaysOwn fixturePlatform false)
        (.initial defaultState) calls := claim fixturePlatform false defaultState calls
  have apart : NoClash fixturePlatform (fixtureRequest "off") (fixtureRequest "enforce") :=
    noClash_of_replaysOwn owns
  have same := (apart ⟨by decide, by decide⟩ ⟨by decide, by decide⟩ (by decide)).mode
  have modes : some (Value.str (lua "off")) = some (.str (lua "enforce")) := same
  simp [lua] at modes

end DarkmeshGateway.Resolver.IdempotentReplay
