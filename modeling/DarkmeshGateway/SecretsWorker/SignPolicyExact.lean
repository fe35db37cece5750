import DarkmeshGateway.SecretsWorker.SignPolicy

/-!
Contract: what a configured sign policy lets through.

Owns the shape of a parsed policy, the grant of a family by its own entries,
the grant by property lookup, and the exact gap between the two.

Does not own parsing or the checks themselves.
-/

namespace DarkmeshGateway.SecretsWorker.SignPolicyExact

open Foundation.Js
open Foundation.Outcome
open SecretsWorker.Fields
open SecretsWorker.SignPolicy

/-! ### The shape of a parsed policy -/

/-- A plain object whose own entries have non-empty names and good values. -/
def OwnEntries (good : Value → Prop) (value : Value) : Prop :=
  ∃ own proto, value = .object own proto ∧ ∀ entry ∈ own, entry.1 ≠ [] ∧ good entry.2

/-- A non-empty list of role names. -/
def RoleList (value : Value) : Prop := ∃ roles : List JsString, value = .array (roles.map .text)

/-- A map from actions to role lists. -/
def RuleMap : Value → Prop := OwnEntries RoleList

/-- A map from selectors to action maps. -/
def SelectorMap : Value → Prop := OwnEntries RuleMap

theorem OwnEntries.empty (good : Value → Prop) : OwnEntries good Value.empty :=
  ⟨[], .prototype .object, rfl, by simp⟩

/-- An assignment of a good value under a non-empty name, the `__proto__`
setter included, keeps the own entries good. -/
theorem OwnEntries.assign {good : Value → Prop} {target value : Value} {key : JsString}
    (entries : OwnEntries good target) (named : key ≠ []) (fits : good value) :
    OwnEntries good (target.assign key value) := by
  obtain ⟨own, proto, rfl, held⟩ := entries
  by_cases setter : key = js "__proto__"
  · have kept : ∃ next, (Value.object own proto).assign key value = .object own next := by
      simp only [Value.assign, if_pos setter]
      split <;> exact ⟨_, rfl⟩
    obtain ⟨next, assigned⟩ := kept
    exact ⟨own, next, assigned, held⟩
  · refine ⟨setOwn own key value, proto, by simp only [Value.assign, if_neg setter],
      fun entry member => ?_⟩
    rcases mem_setOwn member with rfl | present
    · exact ⟨named, fits⟩
    · exact held entry present

private theorem parseSignPolicyRules_shape {actionMap result : Value} {actions : Fields}
    (shaped : RuleMap actionMap) (parsed : parseSignPolicyRules actionMap actions = some result) :
    RuleMap result := by
  induction actions generalizing actionMap with
  | nil => exact Option.some.inj parsed ▸ shaped
  | cons field rest inductionHypothesis =>
      obtain ⟨actionRaw, rolesRaw⟩ := field
      simp only [parseSignPolicyRules] at parsed
      split at parsed
      next => exact absurd parsed (by simp)
      next named =>
        split at parsed
        next => exact absurd parsed (by simp)
        next roles _ => exact inductionHypothesis (shaped.assign named ⟨roles, rfl⟩) parsed

private theorem parseSignPolicySelectors_shape {map result : Value} {selectors : Fields}
    (shaped : SelectorMap map) (parsed : parseSignPolicySelectors map selectors = some result) :
    SelectorMap result := by
  induction selectors generalizing map with
  | nil => exact Option.some.inj parsed ▸ shaped
  | cons field rest inductionHypothesis =>
      obtain ⟨selectorRaw, actionsRaw⟩ := field
      simp only [parseSignPolicySelectors] at parsed
      split at parsed
      next => exact absurd parsed (by simp)
      next named =>
        split at parsed
        next actionRecord =>
          split at parsed
          next => exact absurd parsed (by simp)
          next actionMap rules =>
            have ruled : RuleMap actionMap :=
              parseSignPolicyRules_shape (OwnEntries.empty RoleList) rules
            exact inductionHypothesis (shaped.assign named ruled) parsed
        next => exact absurd parsed (by simp)

private theorem parseFamily_shape {record : Fields} {name : String} {family : Value}
    (parsed : parseFamily record name = some (some family)) : SelectorMap family := by
  unfold parseFamily at parsed
  split at parsed
  next => exact absurd parsed (by simp)
  next rawValue _ =>
    have mapped : parseSignPolicyMap (some rawValue) = some family := by simpa using parsed
    obtain ⟨record, -, selectors⟩ := Option.bind_eq_some_iff.mp mapped
    exact parseSignPolicySelectors_shape (OwnEntries.empty RuleMap) selectors

/-- The policy variable holds a JSON text that parses to `policy`. -/
structure Configured (runtime : Runtime) (env : Env) (policy : SignPolicyConfig) : Prop where
  present : resolveSignPolicyRaw env ≠ []
  parsed : parseSignPolicy runtime (resolveSignPolicyRaw env) = some policy

/-- The configured families, each with the selector a request is matched on. -/
def SignPolicyConfig.scopes (policy : SignPolicyConfig) (context : SignContext) :
    List (JsString × Value) :=
  (policy.sites.map fun family => (context.siteId, family)).toList ++
    (policy.signatureRefs.map fun family => (context.signatureRef, family)).toList

theorem Configured.shape {runtime : Runtime} {env : Env} {policy : SignPolicyConfig}
    (configured : Configured runtime env policy) {context : SignContext}
    {scope : JsString × Value} (member : scope ∈ SignPolicyConfig.scopes policy context) :
    SelectorMap scope.2 := by
  have parsed := configured.parsed
  simp only [parseSignPolicy, Option.pure_def, Option.bind_eq_bind, Option.bind_eq_some_iff,
    Option.some.injEq] at parsed
  obtain ⟨record, -, sites, sitesParsed, signatureRefs, signatureRefsParsed, rfl⟩ := parsed
  simp only [SignPolicyConfig.scopes, List.mem_append, Option.mem_toList,
    Option.map_eq_some_iff] at member
  rcases member with ⟨family, rfl, rfl⟩ | ⟨family, rfl, rfl⟩
  · exact parseFamily_shape sitesParsed
  · exact parseFamily_shape signatureRefsParsed

/-! ### Two grants -/

/-- The selector is an own entry of the family, and its own entry for the
action is a list with the role or `*`. -/
def OwnGrant (selector : JsString) (family : Value) (action role : JsString) : Prop :=
  ∃ selectors proto rules rulesProto roles,
    family = .object selectors proto ∧ selectors.lookup selector = some (.object rules rulesProto) ∧
      rules.lookup action = some (.array roles) ∧ (.text role ∈ roles ∨ .text (js "*") ∈ roles)

/-- The role, or `*`, is included in a value. -/
def Admits (allowedRoles : Value) (role : JsString) : Prop :=
  allowedRoles.includes (js "*") = some true ∨
    (allowedRoles.includes (js "*") = some false ∧ allowedRoles.includes role = some true)

/-- Property lookup of the selector and of the action ends in a value that
includes the role or `*`. -/
def LookupGrant (selector : JsString) (family : Value) (action role : JsString) : Prop :=
  selector ≠ [] ∧ ∃ actionRoles allowedRoles,
    family.read selector = some actionRoles ∧ actionRoles.truthy = true ∧
      actionRoles.read action = some allowedRoles ∧ allowedRoles.truthy = true ∧
      Admits allowedRoles role

/-- `Object.hasOwn`. -/
def HasOwn (value : Value) (key : JsString) : Prop :=
  ∃ own proto, value = .object own proto ∧ (own.lookup key).isSome = true

/-- Both lookups are answered by own properties. -/
def OwnLookups (selector : JsString) (family : Value) (action : JsString) : Prop :=
  HasOwn family selector ∧ ∀ actionRoles, family.read selector = some actionRoles →
    HasOwn actionRoles action

private theorem includes_texts (roles : List Value) (role : JsString) :
    (Value.array roles).includes role = some true ↔ .text role ∈ roles := by
  simp only [Value.includes, Option.some.injEq, List.any_eq_true]
  constructor
  · rintro ⟨element, member, matched⟩
    split at matched
    next content =>
      have same : content = role := by simpa using matched
      exact same ▸ member
    next => exact absurd matched (by simp)
  · intro member
    exact ⟨.text role, member, by simp⟩

private theorem admits_array (roles : List Value) (role : JsString) :
    Admits (.array roles) role ↔ .text role ∈ roles ∨ .text (js "*") ∈ roles := by
  have total : (Value.array roles).includes (js "*") = some true ∨
      (Value.array roles).includes (js "*") = some false := by
    unfold Value.includes
    exact (Bool.eq_false_or_eq_true _).imp (congrArg some) (congrArg some)
  unfold Admits
  rw [includes_texts, includes_texts] at *
  constructor
  · rintro (any | ⟨-, named⟩)
    · exact Or.inr any
    · exact Or.inl named
  · rintro (named | any)
    · exact total.imp id fun absent => ⟨absent, named⟩
    · exact Or.inl any

/-- On a parsed family the own grant is the lookup grant whose lookups are
both answered by own properties. -/
theorem ownGrant_iff {selector : JsString} {family : Value} {action role : JsString}
    (shaped : SelectorMap family) :
    OwnGrant selector family action role ↔
      LookupGrant selector family action role ∧ OwnLookups selector family action := by
  obtain ⟨selectors, proto, rfl, entries⟩ := shaped
  constructor
  · rintro ⟨_, _, rules, rulesProto, roles, ⟨⟩, found, ruled, holds⟩
    have readSelector := Value.read_own proto found
    have readAction := Value.read_own rulesProto ruled
    have named := (entries _ (mem_of_lookup found)).1
    refine ⟨⟨named, _, _, readSelector, rfl, readAction, rfl, (admits_array roles role).mpr holds⟩,
      ⟨selectors, proto, rfl, by rw [found]; rfl⟩, fun actionRoles read => ?_⟩
    obtain rfl : .object rules rulesProto = actionRoles :=
      Option.some.inj (readSelector.symm.trans read)
    exact ⟨rules, rulesProto, rfl, by rw [ruled]; rfl⟩
  · rintro ⟨⟨-, actionRoles, allowedRoles, readSelector, -, readAction, -, admits⟩,
      ⟨_, _, ⟨⟩, ownSelector⟩, ownAction⟩
    obtain ⟨rules, rulesProto, rfl, ruled⟩ := ownAction actionRoles readSelector
    obtain ⟨found, foundEq⟩ := Option.isSome_iff_exists.mp ownSelector
    have same := Option.some.inj ((Value.read_own proto foundEq).symm.trans readSelector)
    subst same
    obtain ⟨-, shapedRules⟩ := entries _ (mem_of_lookup foundEq)
    obtain ⟨allowed, allowedEq⟩ := Option.isSome_iff_exists.mp ruled
    have sameRoles :=
      Option.some.inj ((Value.read_own rulesProto allowedEq).symm.trans readAction)
    subst sameRoles
    obtain ⟨own, _, sameMap, shapedRoles⟩ := shapedRules
    obtain ⟨rfl, rfl⟩ := Value.object.inj sameMap
    obtain ⟨-, roles, rfl⟩ := shapedRoles _ (mem_of_lookup allowedEq)
    exact ⟨_, _, _, _, _, rfl, foundEq, allowedEq, (admits_array _ role).mp admits⟩

/-! ### What the checks accept -/

private theorem roleAllowed_eq_ok {allowedRoles : Value} {role : JsString} :
    roleAllowed allowedRoles role = .ok true ↔ Admits allowedRoles role := by
  unfold roleAllowed Admits
  rcases allowedRoles.includes (js "*") with _ | _ | _
  · simp [orTypeError, bind, Except.bind]
  · simp [orTypeError_eq_ok, bind_eq_ok]
  · simp [orTypeError, bind, Except.bind, pure, Except.pure]

private theorem checkScope_eq_ok {messages : ScopeMessages} {selector : JsString} {family : Value}
    {context : SignContext} :
    checkScope messages selector family context = .ok () ↔
      LookupGrant selector family context.action context.role := by
  simp only [checkScope, LookupGrant, bind_eq_ok, guard_eq_ok, orTypeError_eq_ok]
  constructor
  · rintro ⟨named, actionRoles, readSelector, truthyMap, allowedRoles, readAction, truthyRoles,
      allowed, decided, verdict⟩
    have admitted : allowed = true := by
      cases allowed with
      | true => rfl
      | false => exact absurd verdict throw_ne_ok
    exact ⟨named, actionRoles, allowedRoles, readSelector, by simpa using truthyMap, readAction,
      by simpa using truthyRoles, roleAllowed_eq_ok.mp (admitted ▸ decided)⟩
  · rintro ⟨named, actionRoles, allowedRoles, readSelector, truthyMap, readAction, truthyRoles,
      admits⟩
    exact ⟨named, actionRoles, readSelector, by simpa using truthyMap, allowedRoles, readAction,
      by simpa using truthyRoles, true, roleAllowed_eq_ok.mpr admits, rfl⟩

private theorem checkFamily_eq_ok {messages : ScopeMessages} {selector : JsString}
    {family : Option Value} {context : SignContext} :
    checkFamily messages selector family context = .ok () ↔
      ∀ value ∈ family, LookupGrant selector value context.action context.role := by
  cases family with
  | none => simp [checkFamily]
  | some value => simp [checkFamily, checkScope_eq_ok]

/-- The request names an action that is not blocked and a role, and some family
is configured. -/
structure Presentable (env : Env) (policy : SignPolicyConfig) (context : SignContext) : Prop where
  notBlocked : ¬(isControlPlaneSignAction context.action = true ∧ allowControlPlaneSign env = false)
  action : context.action ≠ []
  role : context.role ≠ []
  family : policy.sites.isSome = true ∨ policy.signatureRefs.isSome = true

theorem enforceConfigured_eq_ok {policy : SignPolicyConfig} {context result : SignContext} :
    enforceConfigured policy context = .ok result ↔
      context.action ≠ [] ∧ context.role ≠ [] ∧
        (policy.sites.isSome = true ∨ policy.signatureRefs.isSome = true) ∧
        (∀ scope ∈ SignPolicyConfig.scopes policy context,
          LookupGrant scope.1 scope.2 context.action context.role) ∧
        context = result := by
  have someFamily : ¬(policy.sites.isNone && policy.signatureRefs.isNone) = true ↔
      policy.sites.isSome = true ∨ policy.signatureRefs.isSome = true := by
    rcases policy.sites with _ | _ <;> rcases policy.signatureRefs with _ | _ <;> simp
  have everyScope : (∀ scope ∈ SignPolicyConfig.scopes policy context,
      LookupGrant scope.1 scope.2 context.action context.role) ↔
      (∀ family ∈ policy.sites,
        LookupGrant context.siteId family context.action context.role) ∧
      ∀ family ∈ policy.signatureRefs,
        LookupGrant context.signatureRef family context.action context.role := by
    simp [SignPolicyConfig.scopes, or_imp, forall_and]
  simp only [enforceConfigured, guard_eq_ok, bind_eq_ok, pure_eq_ok, someFamily, everyScope]
  constructor
  · rintro ⟨action, role, family, _, sites, _, signatureRefs, same⟩
    exact ⟨action, role, family, ⟨checkFamily_eq_ok.mp sites,
      checkFamily_eq_ok.mp signatureRefs⟩, same⟩
  · rintro ⟨action, role, family, ⟨sites, signatureRefs⟩, same⟩
    exact ⟨action, role, family, (), checkFamily_eq_ok.mpr sites, (),
      checkFamily_eq_ok.mpr signatureRefs, same⟩

/-- Under a configured policy a request is accepted exactly when it is
presentable and property lookup grants it in every configured family. -/
theorem enforceSignPolicy_accepts_iff {runtime : Runtime} {env : Env} {policy : SignPolicyConfig}
    (configured : Configured runtime env policy) (body : Fields) :
    (∃ context, enforceSignPolicy runtime env body = .ok context) ↔
      ∃ context, resolveSignRequestContext body env = .ok context ∧
        Presentable env policy context ∧
        ∀ scope ∈ SignPolicyConfig.scopes policy context,
          LookupGrant scope.1 scope.2 context.action context.role := by
  simp only [enforceSignPolicy, bind_eq_ok, guard_eq_ok, if_neg configured.present,
    configured.parsed, enforceConfigured_eq_ok]
  constructor
  · rintro ⟨_, context, resolved, unblocked, action, role, family, granted, -⟩
    have notBlocked : ¬(isControlPlaneSignAction context.action = true ∧
        allowControlPlaneSign env = false) := by simpa [action] using unblocked
    exact ⟨context, resolved, ⟨notBlocked, action, role, family⟩, granted⟩
  · rintro ⟨context, resolved, presentable, granted⟩
    have unblocked : ¬(context.action ≠ [] ∧ isControlPlaneSignAction context.action = true ∧
        (!allowControlPlaneSign env) = true) := by simpa using fun _ => presentable.notBlocked
    exact ⟨context, context, resolved, by simpa using unblocked, presentable.action,
      presentable.role, presentable.family, granted, rfl⟩

/-! ### Exactness -/

/-- The intended meaning of a policy: every configured family has an own entry
for the selector whose own entry for the action lists the role or `*`. -/
def ExactlyAllowed (env : Env) (policy : SignPolicyConfig) (body : Fields) : Prop :=
  ∃ context, resolveSignRequestContext body env = .ok context ∧ Presentable env policy context ∧
    ∀ scope ∈ SignPolicyConfig.scopes policy context,
      OwnGrant scope.1 scope.2 context.action context.role

/-- Every configured family lets the request through, one of them by a
property its own entries do not have. -/
def AllowedByInheritance (env : Env) (policy : SignPolicyConfig) (body : Fields) : Prop :=
  ∃ context, resolveSignRequestContext body env = .ok context ∧ Presentable env policy context ∧
    (∀ scope ∈ SignPolicyConfig.scopes policy context,
      LookupGrant scope.1 scope.2 context.action context.role) ∧
    ∃ scope ∈ SignPolicyConfig.scopes policy context,
      ¬OwnLookups scope.1 scope.2 context.action

/-- The checks accept exactly the requests the policy names unless a property
lookup is answered from the prototype chain. -/
theorem sign_policy_exact_iff {runtime : Runtime} {env : Env} {policy : SignPolicyConfig}
    (configured : Configured runtime env policy) (body : Fields) :
    ((∃ context, enforceSignPolicy runtime env body = .ok context) ↔
      ExactlyAllowed env policy body) ↔ ¬AllowedByInheritance env policy body := by
  rw [enforceSignPolicy_accepts_iff configured]
  constructor
  · rintro exact_ ⟨context, resolved, presentable, granted, scope, member, inherited⟩
    obtain ⟨other, otherResolved, -, own⟩ :=
      exact_.mp ⟨context, resolved, presentable, granted⟩
    obtain rfl : context = other := Except.ok.inj (resolved.symm.trans otherResolved)
    exact inherited ((ownGrant_iff (configured.shape member)).mp (own scope member)).2
  · intro noInheritance
    constructor
    · rintro ⟨context, resolved, presentable, granted⟩
      refine ⟨context, resolved, presentable, fun scope member => ?_⟩
      refine (ownGrant_iff (configured.shape member)).mpr ⟨granted scope member, ?_⟩
      by_contra inherited
      exact noInheritance ⟨context, resolved, presentable, granted, scope, member, inherited⟩
    · rintro ⟨context, resolved, presentable, own⟩
      exact ⟨context, resolved, presentable, fun scope member =>
        ((ownGrant_iff (configured.shape member)).mp (own scope member)).1⟩

/-- Site `alpha` lets an admin create orders. -/
def alphaPolicyText : JsString :=
  js "\x7b\"sites\":\x7b\"alpha\":\x7b\"CreateOrder\":[\"admin\"]\x7d\x7d\x7d"

def alphaPolicyJson : Json :=
  .obj [(js "sites", .obj [(js "alpha",
    .obj [(js "CreateOrder", .arr [.str (js "admin")])])])]

/-- A platform that parses the policy text and nothing else. -/
def alphaRuntime : Runtime where
  parseJson := fun text => if text = alphaPolicyText then some alphaPolicyJson else none
  parseDate := fun _ => none
  ed25519Sign := fun _ _ => none

def alphaEnv : Env where
  signPolicyJson := some alphaPolicyText

/-- The policy as parsed. -/
def alphaPolicy : SignPolicyConfig where
  sites := some (.object [(js "alpha", .object [(js "CreateOrder", .array [.text (js "admin")])]
    (.prototype .object))] (.prototype .object))
  signatureRefs := none

set_option maxRecDepth 20000 in
theorem alphaPolicy_configured : Configured alphaRuntime alphaEnv alphaPolicy where
  present := by decide
  parsed := rfl

/-- A request whose selector and action are names every function has. -/
def constructorBody : Fields :=
  [(js "action", .str (js "name")), (js "role", .str (js "Object")),
    (js "siteId", .str (js "constructor"))]

theorem sign_policy_exact_alpha :
    ((∃ context, enforceSignPolicy alphaRuntime alphaEnv constructorBody = .ok context) ↔
      ExactlyAllowed alphaEnv alphaPolicy constructorBody) ↔
      ¬AllowedByInheritance alphaEnv alphaPolicy constructorBody :=
  sign_policy_exact_iff alphaPolicy_configured constructorBody

/-- What the checks resolve for the request. -/
def constructorContext : SignContext where
  action := js "name"
  role := js "Object"
  siteId := js "constructor"
  signatureRef := js "worker-ed25519"

set_option maxRecDepth 20000 in
/-- Role `Object` may do `name` on site `constructor`, which no policy names. -/
theorem sign_policy_not_exact :
    ¬∀ (runtime : Runtime) (env : Env) (policy : SignPolicyConfig) (body : Fields),
      Configured runtime env policy →
      ((∃ context, enforceSignPolicy runtime env body = .ok context) ↔
        ExactlyAllowed env policy body) := by
  intro claim
  have accepted : enforceSignPolicy alphaRuntime alphaEnv constructorBody =
      .ok constructorContext := rfl
  have resolved : resolveSignRequestContext constructorBody alphaEnv = .ok constructorContext := rfl
  obtain ⟨context, same, -, granted⟩ :=
    (claim alphaRuntime alphaEnv alphaPolicy constructorBody alphaPolicy_configured).mp
      ⟨_, accepted⟩
  obtain rfl : constructorContext = context := Except.ok.inj (resolved.symm.trans same)
  obtain ⟨_, _, _, _, _, ⟨⟩, found, -⟩ := granted _ (List.mem_cons_self)
  exact Bool.false_ne_true (congrArg Option.isSome found)

end DarkmeshGateway.SecretsWorker.SignPolicyExact
