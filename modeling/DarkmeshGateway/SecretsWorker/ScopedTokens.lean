import DarkmeshGateway.Foundation.OrderedMap
import DarkmeshGateway.Foundation.Outcome
import DarkmeshGateway.SecretsWorker.Fields

/-!
Contract: the bearer tokens that guard reading, forgetting, notifying and
signing.

Owns when scopes are strict, the check on the four scoped tokens, the token a
guard expects, and that strict scopes share no token.

Does not own the routes behind the guards.
-/

namespace DarkmeshGateway.SecretsWorker.ScopedTokens

open Foundation
open Foundation.Js
open Foundation.Outcome
open SecretsWorker.Fields

/-! ### Environment -/

/-- The variables that hold a token. -/
inductive TokenKey where
  | workerReadToken
  | workerForgetToken
  | workerNotifyToken
  | workerSignToken
  | workerAuthToken
  | forgetToken
deriving DecidableEq

structure ScopeEnv extends Env where
  tokens : TokenKey → Option JsString := fun _ => none
  workerStrictTokenScopes : Option JsString := none
  cfEnv : Option JsString := none
  environment : Option JsString := none
  nodeEnv : Option JsString := none
  deployEnv : Option JsString := none

def ScopeEnv.token (env : ScopeEnv) (key : TokenKey) : JsString := cleanEnv (env.tokens key)

def productionLikeEnv (env : ScopeEnv) : Bool :=
  let mode := firstNonEmptyString
    ([env.cfEnv, env.environment, env.nodeEnv, env.deployEnv].map fun name => name.map .str)
  [js "production", js "staging", js "prod-like"].contains (toLowerCase mode)

def strictTokenScopesEnabled (env : ScopeEnv) : Bool :=
  let explicit := cleanEnv env.workerStrictTokenScopes
  if explicit ≠ [] then explicit ≠ js "0" else secretsEnforced env.toEnv || productionLikeEnv env

/-! ### Guards -/

def readBearerToken (authorization : Option JsString) : JsString :=
  let auth := authorization.getD []
  if startsWith auth (js "Bearer ") then auth.drop 7 else []

def scopedKeys : List TokenKey :=
  [.workerReadToken, .workerForgetToken, .workerNotifyToken, .workerSignToken]

/-- The tokens are taken into the map one by one; one that is there is refused. -/
def refuseRepeated (env : ScopeEnv) (seen : OrderedMap JsString TokenKey) :
    List TokenKey → Except HttpException Unit
  | [] => .ok ()
  | key :: rest =>
      if (seen.find (env.token key)).isSome then .error ⟨500, "scoped_tokens_not_unique"⟩
      else refuseRepeated env (seen.set (env.token key) key) rest

/-- The guard's own token is not asked for: the guard has found it. -/
def ensureStrictScopedTokenTopology (env : ScopeEnv) (requiredKey : TokenKey) :
    Except HttpException Unit :=
  if !strictTokenScopesEnabled env then .ok ()
  else if scopedKeys.any fun key => key ≠ requiredKey && env.token key = [] then
    .error ⟨500, "missing_scoped_token_config"⟩
  else refuseRepeated env .empty scopedKeys

structure ScopedTokenOptions where
  primaryKey : TokenKey
  fallbackKeys : List TokenKey
  missingMessage : String

/-- The token of the guard; without strict scopes the first fallback that is set
may stand in for it. -/
def expectedToken (env : ScopeEnv) (options : ScopedTokenOptions) : JsString :=
  let primary := env.token options.primaryKey
  if primary = [] ∧ !strictTokenScopesEnabled env then
    ((options.fallbackKeys.map env.token).find? (· ≠ [])).getD []
  else primary

def requireScopedToken (env : ScopeEnv) (authorization : Option JsString)
    (options : ScopedTokenOptions) : Except HttpException Unit := do
  let expected := expectedToken env options
  if expected = [] then throw ⟨500, options.missingMessage⟩
  ensureStrictScopedTokenTopology env options.primaryKey
  let token := readBearerToken authorization
  if token = [] ∨ token ≠ expected then throw ⟨401, "unauthorized"⟩

def requireReadToken (env : ScopeEnv) (authorization : Option JsString) :
    Except HttpException Unit :=
  requireScopedToken env authorization
    ⟨.workerReadToken, [.workerAuthToken, .forgetToken], "missing_read_token"⟩

def requireForgetToken (env : ScopeEnv) (authorization : Option JsString) :
    Except HttpException Unit :=
  requireScopedToken env authorization
    ⟨.workerForgetToken, [.workerAuthToken, .forgetToken], "missing_forget_token"⟩

def requireNotifyToken (env : ScopeEnv) (authorization : Option JsString) :
    Except HttpException Unit :=
  requireScopedToken env authorization
    ⟨.workerNotifyToken, [.workerAuthToken, .forgetToken], "missing_notify_token"⟩

/-- Signing has no fallback. -/
def requireSignToken (env : ScopeEnv) (authorization : Option JsString) :
    Except HttpException Unit := do
  let tokenEnv := env.token .workerSignToken
  if tokenEnv = [] then throw ⟨500, "missing_sign_token"⟩
  ensureStrictScopedTokenTopology env .workerSignToken
  let token := readBearerToken authorization
  if token = [] ∨ token ≠ tokenEnv then throw ⟨401, "unauthorized"⟩

/-! ### Topology -/

/-- The tokens are accepted when they differ from each other and from those
before them. -/
theorem refuseRepeated_eq_ok {env : ScopeEnv} {seen : OrderedMap JsString TokenKey}
    {keys : List TokenKey} :
    refuseRepeated env seen keys = .ok () ↔
      (keys.map env.token).Nodup ∧ ∀ key ∈ keys, seen.find (env.token key) = none := by
  induction keys generalizing seen with
  | nil => simp [refuseRepeated]
  | cons key rest inductionHypothesis =>
      rw [refuseRepeated, List.map_cons, List.nodup_cons, List.forall_mem_cons]
      cases found : seen.find (env.token key) with
      | some earlier => simp
      | none =>
          have others : (∀ other ∈ rest,
              (seen.set (env.token key) key).find (env.token other) = none) ↔
              env.token key ∉ rest.map env.token ∧
                ∀ other ∈ rest, seen.find (env.token other) = none := by
            constructor
            · intro absent
              have different : ∀ other ∈ rest, env.token other ≠ env.token key := by
                intro other member same
                have present := absent other member
                rw [same, OrderedMap.find_set_self] at present
                cases present
              constructor
              · intro repeated
                obtain ⟨other, member, same⟩ := List.mem_map.mp repeated
                exact different other member same
              · intro other member
                rw [← OrderedMap.find_set_other seen (different other member) key]
                exact absent other member
            · intro ⟨fresh, absent⟩ other member
              have different : env.token other ≠ env.token key := by
                intro same
                exact fresh (same ▸ List.mem_map_of_mem member)
              rw [OrderedMap.find_set_other seen different]
              exact absent other member
          simp only [Option.isSome_none, Bool.false_eq_true, if_false, inductionHypothesis, others,
            true_and]
          tauto

/-- All scoped tokens are set, and no two of them are the same. -/
structure Separated (env : ScopeEnv) : Prop where
  configured : ∀ key ∈ scopedKeys, env.token key ≠ []
  different : (scopedKeys.map env.token).Nodup

theorem separated_of_topology {env : ScopeEnv} {requiredKey : TokenKey}
    (strict : strictTokenScopesEnabled env = true) (required : env.token requiredKey ≠ [])
    (checked : ensureStrictScopedTokenTopology env requiredKey = .ok ()) : Separated env := by
  unfold ensureStrictScopedTokenTopology at checked
  rw [strict] at checked
  split at checked
  next relaxed => cases relaxed
  next =>
    split at checked
    next => cases checked
    next complete =>
      refine ⟨?_, (refuseRepeated_eq_ok.mp checked).1⟩
      intro key member empty
      by_cases own : key = requiredKey
      · exact required (own ▸ empty)
      · apply complete
        rw [List.any_eq_true]
        exact ⟨key, member, by simp [own, empty]⟩

/-! ### Strict scopes -/

/-- What an accepting guard has seen: its own token, among separated ones. -/
structure Admits (env : ScopeEnv) (authorization : Option JsString) (key : TokenKey) : Prop where
  separated : Separated env
  token : readBearerToken authorization = env.token key

theorem admits_of_scoped {env : ScopeEnv} {authorization : Option JsString}
    {options : ScopedTokenOptions} (strict : strictTokenScopesEnabled env = true)
    (accepted : requireScopedToken env authorization options = .ok ()) :
    Admits env authorization options.primaryKey := by
  have own : expectedToken env options = env.token options.primaryKey := by
    simp [expectedToken, strict]
  simp only [requireScopedToken, own, bind_eq_ok, guard_eq_ok] at accepted
  obtain ⟨required, _, checked, matched⟩ := accepted
  refine ⟨separated_of_topology strict required checked, ?_⟩
  by_contra other
  rw [if_pos (Or.inr other)] at matched
  exact throw_ne_ok matched

theorem admits_of_sign {env : ScopeEnv} {authorization : Option JsString}
    (strict : strictTokenScopesEnabled env = true)
    (accepted : requireSignToken env authorization = .ok ()) :
    Admits env authorization .workerSignToken := by
  simp only [requireSignToken, bind_eq_ok, guard_eq_ok] at accepted
  obtain ⟨required, _, checked, matched⟩ := accepted
  refine ⟨separated_of_topology strict required checked, ?_⟩
  by_contra other
  rw [if_pos (Or.inr other)] at matched
  exact throw_ne_ok matched

/-- A guard with the variable that holds its token. -/
abbrev Guard := TokenKey × (ScopeEnv → Option JsString → Except HttpException Unit)

def guards : List Guard :=
  [(.workerReadToken, requireReadToken), (.workerForgetToken, requireForgetToken),
    (.workerNotifyToken, requireNotifyToken), (.workerSignToken, requireSignToken)]

theorem admits_of_guard {env : ScopeEnv} {authorization : Option JsString} {guard : Guard}
    (strict : strictTokenScopesEnabled env = true) (member : guard ∈ guards)
    (accepted : guard.2 env authorization = .ok ()) : Admits env authorization guard.1 := by
  simp only [guards, List.mem_cons, List.not_mem_nil, or_false] at member
  rcases member with rfl | rfl | rfl | rfl
  · exact admits_of_scoped strict accepted
  · exact admits_of_scoped strict accepted
  · exact admits_of_scoped strict accepted
  · exact admits_of_sign strict accepted

/-- Separated tokens tell their variables apart. -/
theorem Separated.key_inj {env : ScopeEnv} (separated : Separated env) {left right : TokenKey}
    (leftScoped : left ∈ scopedKeys) (rightScoped : right ∈ scopedKeys)
    (same : env.token left = env.token right) : left = right :=
  List.inj_on_of_nodup_map separated.different leftScoped rightScoped same

theorem guard_scoped {guard : Guard} (member : guard ∈ guards) : guard.1 ∈ scopedKeys := by
  have keys : guards.map Prod.fst = scopedKeys := rfl
  rw [← keys]
  exact List.mem_map_of_mem member

/-- With strict scopes no bearer token passes two guards, and one passes only
when the four scoped tokens are set and pairwise different. -/
theorem strict_scopes_disjoint {env : ScopeEnv} (strict : strictTokenScopesEnabled env = true)
    (authorization : Option JsString) :
    (∀ left ∈ guards, ∀ right ∈ guards, left.2 env authorization = .ok () →
      right.2 env authorization = .ok () → left.1 = right.1) ∧
    ∀ guard ∈ guards, guard.2 env authorization = .ok () →
      (∀ key ∈ scopedKeys, env.token key ≠ []) ∧ (scopedKeys.map env.token).Nodup := by
  constructor
  · intro left leftIn right rightIn leftAccepted rightAccepted
    have leftAdmits := admits_of_guard strict leftIn leftAccepted
    have rightAdmits := admits_of_guard strict rightIn rightAccepted
    apply leftAdmits.separated.key_inj (guard_scoped leftIn) (guard_scoped rightIn)
    exact leftAdmits.token.symm.trans rightAdmits.token
  · intro guard member accepted
    have admits := admits_of_guard strict member accepted
    exact ⟨admits.separated.configured, admits.separated.different⟩

/-- Four different tokens under strict scopes. -/
def separateEnv : ScopeEnv where
  workerStrictTokenScopes := some (js "1")
  tokens
    | .workerReadToken => some (js "read-token")
    | .workerForgetToken => some (js "forget-token")
    | .workerNotifyToken => some (js "notify-token")
    | .workerSignToken => some (js "sign-token")
    | _ => none

theorem separate_scopes :
    requireReadToken separateEnv (some (js "Bearer read-token")) = .ok () ∧
      (scopedKeys.map separateEnv.token).Nodup ∧
      requireSignToken separateEnv (some (js "Bearer read-token")) ≠ .ok () := by
  have strict : strictTokenScopesEnabled separateEnv = true := by decide
  have reads : requireReadToken separateEnv (some (js "Bearer read-token")) = .ok () := by rfl
  obtain ⟨disjoint, separated⟩ :=
    strict_scopes_disjoint strict (some (js "Bearer read-token"))
  refine ⟨reads, (separated (.workerReadToken, requireReadToken) (by simp [guards]) reads).2, ?_⟩
  intro signs
  have same := disjoint (.workerReadToken, requireReadToken) (by simp [guards])
    (.workerSignToken, requireSignToken) (by simp [guards]) reads signs
  cases same

end DarkmeshGateway.SecretsWorker.ScopedTokens
