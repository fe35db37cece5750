import DarkmeshGateway.Foundation.Js.Place
import DarkmeshGateway.Gateway.SecretGuard

/-!
Contract: what the guard against secrets finds in a payload.

Owns payloads as objects in memory, the walk that visits each object once, the
keys that the guard forbids and the paths that name them.

Does not own the locale order in which the reported paths are sorted.
-/

namespace DarkmeshGateway.Gateway.SecretGuardWalk

open Foundation.Js
open Gateway.Environment
open Gateway.SecretGuard

/-! ### Payloads in memory -/

/-- A value in memory: an object has an identity, which the set of visited
objects holds. -/
inductive Held where
  | primitive
  | arr (elements : List Held)
  | obj (identity : Nat) (fields : List (JsString × Held))

mutual

/-- The value that `JSON.parse` builds: each object is a new one. -/
def allocate (next : Nat) : Json → Held × Nat
  | .arr elements =>
      let (held, after) := allocateElements next elements
      (.arr held, after)
  | .obj fields =>
      let (held, after) := allocateFields (next + 1) fields
      (.obj next held, after)
  | _ => (.primitive, next)

def allocateElements (next : Nat) : List Json → List Held × Nat
  | [] => ([], next)
  | value :: rest =>
      let (head, middle) := allocate next value
      let (tail, after) := allocateElements middle rest
      (head :: tail, after)

def allocateFields (next : Nat) : Fields → List (JsString × Held) × Nat
  | [] => ([], next)
  | (key, child) :: rest =>
      let (head, middle) := allocate next child
      let (tail, after) := allocateFields middle rest
      ((key, head) :: tail, after)

end

/-- A parsed payload. -/
def parsed (payload : Json) : Held := (allocate 0 payload).1

/-- The objects seen and the paths found so far. -/
structure Walk where
  seen : List Nat
  hits : List JsString

def Walk.hit (walk : Walk) (path : JsString) : Walk := { walk with hits := walk.hits ++ [path] }

mutual

/-- `walkPayload` with its set of seen objects. -/
def walkHeld (envAllowlist : List JsString) (path : JsString) : Held → Walk → Walk
  | .primitive, walk => walk
  | .arr elements, walk => walkHeldElements envAllowlist path 0 elements walk
  | .obj identity fields, walk =>
      if identity ∈ walk.seen then walk
      else walkHeldFields envAllowlist path fields { walk with seen := identity :: walk.seen }

def walkHeldElements (envAllowlist : List JsString) (path : JsString) (index : Nat) :
    List Held → Walk → Walk
  | [], walk => walk
  | value :: rest, walk =>
      walkHeldElements envAllowlist path (index + 1) rest
        (walkHeld envAllowlist (path ++ 91 :: (decimalDigits index ++ [93])) value walk)

def walkHeldFields (envAllowlist : List JsString) (path : JsString) :
    List (JsString × Held) → Walk → Walk
  | [], walk => walk
  | (key, child) :: rest, walk =>
      let found := if !isAllowedKey key envAllowlist && isSuspiciousKey key then
        walk.hit (childPath path key) else walk
      walkHeldFields envAllowlist path rest
        (walkHeld envAllowlist (childPath path key) child found)

end

inductive TemplateSecretGuardResult where
  | ok
  | forbidden (forbiddenFields : List JsString)

/-- The guard on a payload in memory. -/
def inspectHeld (env : Env) (payload : Held) : TemplateSecretGuardResult :=
  if !isStrictEnabled env then .ok
  else
    match payload with
    | .primitive => .ok
    | container =>
        let walk := walkHeld (readAllowlist env) (js "payload") container ⟨[], []⟩
        if walk.hits = [] then .ok else .forbidden walk.hits.eraseDups

/-! ### No object is skipped -/

/-- Every object seen so far was made before the next one. -/
def Walk.Below (walk : Walk) (next : Nat) : Prop := ∀ identity ∈ walk.seen, identity < next

/-- The walk has added these hits and seen only objects made before `next`. -/
structure Walk.Extends (before after : Walk) (next : Nat) (paths : List JsString) : Prop where
  below : after.Below next
  hits : after.hits = before.hits ++ paths

theorem Walk.Extends.trans {first second third : Walk} {middle last : Nat}
    {left right : List JsString} (head : first.Extends second middle left)
    (tail : second.Extends third last right) : first.Extends third last (left ++ right) := by
  refine ⟨tail.below, ?_⟩
  rw [tail.hits, head.hits, List.append_assoc]

/-- The hit of a key of an object, if it is forbidden. -/
theorem Walk.extends_hit {walk : Walk} {next : Nat} (below : walk.Below next) (forbidden : Bool)
    (path : JsString) :
    walk.Extends (if forbidden then walk.hit path else walk) next
      (if forbidden then [path] else []) := by
  cases forbidden with
  | true => exact ⟨below, rfl⟩
  | false => exact ⟨below, by simp⟩

mutual

/-- A walk over new objects skips none of them. -/
theorem walkHeld_allocate (envAllowlist : List JsString) :
    (value : Json) → (path : JsString) → (next : Nat) → (walk : Walk) → walk.Below next →
      walk.Extends (walkHeld envAllowlist path (allocate next value).1 walk)
        (allocate next value).2 (walkPayload envAllowlist path value)
  | .null, path, next, walk, below => ⟨below, by simp [walkHeld, allocate, walkPayload]⟩
  | .bool _, path, next, walk, below => ⟨below, by simp [walkHeld, allocate, walkPayload]⟩
  | .num _, path, next, walk, below => ⟨below, by simp [walkHeld, allocate, walkPayload]⟩
  | .str _, path, next, walk, below => ⟨below, by simp [walkHeld, allocate, walkPayload]⟩
  | .arr elements, path, next, walk, below => by
      simp only [allocate, walkHeld, walkPayload]
      exact walkHeldElements_allocate envAllowlist elements path 0 next walk below
  | .obj fields, path, next, walk, below => by
      have fresh : next ∉ walk.seen := fun seen => absurd (below next seen) (by omega)
      simp only [allocate, walkHeld, walkPayload, if_neg fresh]
      have marked : Walk.Below { walk with seen := next :: walk.seen } (next + 1) := by
        intro identity member
        rcases List.mem_cons.mp member with rfl | earlier
        · omega
        · have := below identity earlier
          omega
      have run := walkHeldFields_allocate envAllowlist fields path (next + 1) _ marked
      exact ⟨run.below, run.hits⟩

theorem walkHeldElements_allocate (envAllowlist : List JsString) :
    (elements : List Json) → (path : JsString) → (index next : Nat) → (walk : Walk) →
      walk.Below next →
      walk.Extends
        (walkHeldElements envAllowlist path index (allocateElements next elements).1 walk)
        (allocateElements next elements).2 (walkElements envAllowlist path index elements)
  | [], path, index, next, walk, below => ⟨below, by simp [walkHeldElements, walkElements,
      allocateElements]⟩
  | value :: rest, path, index, next, walk, below => by
      simp only [allocateElements, walkHeldElements, walkElements]
      have head := walkHeld_allocate envAllowlist value
        (path ++ 91 :: (decimalDigits index ++ [93])) next walk below
      exact head.trans (walkHeldElements_allocate envAllowlist rest path (index + 1) _ _ head.below)

theorem walkHeldFields_allocate (envAllowlist : List JsString) :
    (fields : Fields) → (path : JsString) → (next : Nat) → (walk : Walk) → walk.Below next →
      walk.Extends (walkHeldFields envAllowlist path (allocateFields next fields).1 walk)
        (allocateFields next fields).2 (walkFields envAllowlist path fields)
  | [], path, next, walk, below => ⟨below, by simp [walkHeldFields, walkFields, allocateFields]⟩
  | (key, child) :: rest, path, next, walk, below => by
      simp only [allocateFields, walkHeldFields, walkFields]
      have own := walk.extends_hit below (!isAllowedKey key envAllowlist && isSuspiciousKey key)
        (childPath path key)
      have head := own.trans
        (walkHeld_allocate envAllowlist child (childPath path key) next _ own.below)
      exact head.trans (walkHeldFields_allocate envAllowlist rest path _ _ head.below)

end

/-- The visited set changes nothing on a parsed payload. -/
theorem walkHeld_parsed (envAllowlist : List JsString) (path : JsString) (payload : Json) :
    (walkHeld envAllowlist path (parsed payload) ⟨[], []⟩).hits =
      walkPayload envAllowlist path payload := by
  have empty : Walk.Below ⟨[], []⟩ 0 := by
    intro identity member
    simp at member
  rw [parsed, (walkHeld_allocate envAllowlist payload path 0 ⟨[], []⟩ empty).hits, List.nil_append]

/-- The guard with its visited set and the guard that finds every path agree. -/
theorem inspectHeld_parsed (env : Env) (payload : Json) :
    inspectHeld env (parsed payload) =
      if inspectTemplateSecretPayload env (some payload) = [] then .ok
      else .forbidden (inspectTemplateSecretPayload env (some payload)) := by
  have same := walkHeld_parsed (readAllowlist env) (js "payload") payload
  have empty (paths : List JsString) : paths.eraseDups = [] ↔ paths = [] := by
    cases paths <;> simp [List.eraseDups_cons]
  by_cases strict : isStrictEnabled env = true
  · have found : inspectTemplateSecretPayload env (some payload) =
        (walkPayload (readAllowlist env) (js "payload") payload).eraseDups := by
      simp [inspectTemplateSecretPayload, strict]
    simp only [found, ← same, empty, inspectHeld, strict]
    cases parsed payload with
    | primitive => rfl
    | arr elements => rfl
    | obj identity fields => rfl
  · simp [inspectHeld, inspectTemplateSecretPayload, strict]

/-! ### Forbidden keys and their paths -/

/-- Outside both allowlists, and with a suspicious token in its normal form. -/
def Forbidden (envAllowlist : List JsString) (key : JsString) : Prop :=
  key ∉ defaultAllowedKeys ∧ key ∉ envAllowlist ∧
    ∃ token ∈ suspiciousKeyTokens, token <:+: normalizeKey key

theorem includes_iff_infix (text part : JsString) : includes text part = true ↔ part <:+: text := by
  rw [includes, List.any_eq_true, List.infix_iff_prefix_suffix]
  apply exists_congr
  intro tail
  rw [List.mem_tails, List.isPrefixOf_iff_prefix, and_comm]

theorem forbidden_iff (envAllowlist : List JsString) (key : JsString) :
    (!isAllowedKey key envAllowlist && isSuspiciousKey key) = true ↔
      Forbidden envAllowlist key := by
  simp only [isAllowedKey, isSuspiciousKey, Forbidden, Bool.and_eq_true, Bool.not_eq_true',
    Bool.or_eq_false_iff, List.contains_eq_mem, decide_eq_false_iff_not, List.any_eq_true,
    includes_iff_infix, and_assoc]

/-- The text of the place that the steps lead to from a value at `path`. -/
def render (path : JsString) : List Json.Step → JsString
  | [] => path
  | .index index :: steps => render (path ++ 91 :: (decimalDigits index ++ [93])) steps
  | .key key :: steps => render (path ++ 46 :: key) steps

/-- `path` names a forbidden key below the value at `start`. -/
def Names (envAllowlist : List JsString) (start : JsString) (value : Json) (path : JsString) :
    Prop :=
  ∃ steps key, value.KeyAt steps key ∧ Forbidden envAllowlist key ∧
    path = render start (steps ++ [.key key])

theorem names_arr_iff (envAllowlist : List JsString) (start : JsString) (elements : List Json)
    (path : JsString) :
    Names envAllowlist start (.arr elements) path ↔
      ∃ index value, elements[index]? = some value ∧
        Names envAllowlist (start ++ 91 :: (decimalDigits index ++ [93])) value path := by
  constructor
  · intro named
    obtain ⟨steps, key, found, forbidden, rfl⟩ := named
    obtain ⟨index, value, rest, held, rfl, below⟩ := (Json.keyAt_arr_iff ..).mp found
    exact ⟨index, value, held, rest, key, below, forbidden, rfl⟩
  · intro named
    obtain ⟨index, value, held, rest, key, below, forbidden, rfl⟩ := named
    exact ⟨.index index :: rest, key,
      (Json.keyAt_arr_iff ..).mpr ⟨index, value, rest, held, rfl, below⟩, forbidden, rfl⟩

theorem names_obj_iff (envAllowlist : List JsString) (start : JsString) (fields : Fields)
    (path : JsString) :
    Names envAllowlist start (.obj fields) path ↔
      ∃ key value, (key, value) ∈ fields ∧
        ((Forbidden envAllowlist key ∧ path = start ++ 46 :: key) ∨
          Names envAllowlist (start ++ 46 :: key) value path) := by
  constructor
  · intro named
    obtain ⟨steps, key, found, forbidden, rfl⟩ := named
    obtain ⟨name, value, held, own | deeper⟩ := (Json.keyAt_obj_iff ..).mp found
    · obtain ⟨rfl, rfl⟩ := own
      exact ⟨key, value, held, .inl ⟨forbidden, rfl⟩⟩
    · obtain ⟨rest, rfl, below⟩ := deeper
      exact ⟨name, value, held, .inr ⟨rest, key, below, forbidden, rfl⟩⟩
  · intro named
    obtain ⟨name, value, held, own | deeper⟩ := named
    · obtain ⟨forbidden, rfl⟩ := own
      exact ⟨[], name, (Json.keyAt_obj_iff ..).mpr ⟨name, value, held, .inl ⟨rfl, rfl⟩⟩,
        forbidden, rfl⟩
    · obtain ⟨rest, key, below, forbidden, rfl⟩ := deeper
      exact ⟨.key name :: rest, key,
        (Json.keyAt_obj_iff ..).mpr ⟨name, value, held, .inr ⟨rest, rfl, below⟩⟩, forbidden, rfl⟩

theorem not_names_primitive (envAllowlist : List JsString) (start : JsString) (value : Json)
    (path : JsString) (arr : ∀ elements, value ≠ .arr elements)
    (obj : ∀ fields, value ≠ .obj fields) : ¬ Names envAllowlist start value path := by
  intro named
  obtain ⟨steps, key, found, -, -⟩ := named
  rcases found.container with ⟨elements, rfl⟩ | ⟨fields, rfl⟩
  · exact arr elements rfl
  · exact obj fields rfl

/-- Below a path that is not empty a key is appended after a dot. -/
theorem childPath_of_ne {path : JsString} (present : path ≠ []) (key : JsString) :
    childPath path key = path ++ 46 :: key := if_neg present

/-! ### What the walk finds -/

mutual

/-- The walk finds exactly the paths that name a forbidden key. -/
theorem mem_walkPayload_iff (envAllowlist : List JsString) (path : JsString) :
    (value : Json) → (start : JsString) → start ≠ [] →
      (path ∈ walkPayload envAllowlist start value ↔ Names envAllowlist start value path)
  | .null, start, present => by
      simp [walkPayload, not_names_primitive]
  | .bool _, start, present => by
      simp [walkPayload, not_names_primitive]
  | .num _, start, present => by
      simp [walkPayload, not_names_primitive]
  | .str _, start, present => by
      simp [walkPayload, not_names_primitive]
  | .arr elements, start, present => by
      rw [walkPayload, mem_walkElements_iff envAllowlist path elements start 0 present,
        names_arr_iff]
      simp only [Nat.zero_add]
  | .obj fields, start, present => by
      rw [walkPayload, mem_walkFields_iff envAllowlist path fields start present, names_obj_iff]

theorem mem_walkElements_iff (envAllowlist : List JsString) (path : JsString) :
    (elements : List Json) → (start : JsString) → (first : Nat) → start ≠ [] →
      (path ∈ walkElements envAllowlist start first elements ↔
        ∃ index value, elements[index]? = some value ∧
          Names envAllowlist (start ++ 91 :: (decimalDigits (first + index) ++ [93])) value path)
  | [], start, first, present => by simp [walkElements]
  | value :: rest, start, first, present => by
      have deeper : start ++ 91 :: (decimalDigits first ++ [93]) ≠ [] := by simp
      rw [walkElements, List.mem_append, mem_walkPayload_iff envAllowlist path value _ deeper,
        mem_walkElements_iff envAllowlist path rest start (first + 1) present]
      constructor
      · rintro (here | ⟨index, inner, held, named⟩)
        · exact ⟨0, value, rfl, here⟩
        · refine ⟨index + 1, inner, held, ?_⟩
          rwa [show first + (index + 1) = first + 1 + index by omega]
      · rintro ⟨index, inner, held, named⟩
        cases index with
        | zero =>
            obtain rfl : value = inner := by simpa using held
            exact .inl named
        | succ index =>
            refine .inr ⟨index, inner, by simpa using held, ?_⟩
            rwa [show first + 1 + index = first + (index + 1) by omega]

theorem mem_walkFields_iff (envAllowlist : List JsString) (path : JsString) :
    (fields : Fields) → (start : JsString) → start ≠ [] →
      (path ∈ walkFields envAllowlist start fields ↔
        ∃ key value, (key, value) ∈ fields ∧
          ((Forbidden envAllowlist key ∧ path = start ++ 46 :: key) ∨
            Names envAllowlist (start ++ 46 :: key) value path))
  | [], start, present => by simp [walkFields]
  | (key, child) :: rest, start, present => by
      have deeper : start ++ 46 :: key ≠ [] := by simp
      have own : path ∈ (if !isAllowedKey key envAllowlist && isSuspiciousKey key then
          [start ++ 46 :: key] else []) ↔
            Forbidden envAllowlist key ∧ path = start ++ 46 :: key := by
        rw [← forbidden_iff]
        split <;> simp_all
      rw [walkFields, childPath_of_ne present, List.mem_append, List.mem_append, own,
        mem_walkPayload_iff envAllowlist path child _ deeper,
        mem_walkFields_iff envAllowlist path rest start present]
      constructor
      · rintro (here | ⟨name, value, held, named⟩)
        · exact ⟨key, child, List.mem_cons_self, here⟩
        · exact ⟨name, value, List.mem_cons_of_mem _ held, named⟩
      · rintro ⟨name, value, held, named⟩
        rcases List.mem_cons.mp held with same | later
        · obtain ⟨rfl, rfl⟩ := Prod.mk.inj same
          exact .inl named
        · exact .inr ⟨name, value, later, named⟩

end

theorem mem_inspect_iff {env : Env} (strict : isStrictEnabled env = true) (payload : Json)
    (path : JsString) :
    path ∈ inspectTemplateSecretPayload env (some payload) ↔
      Names (readAllowlist env) (js "payload") payload path := by
  have present : js "payload" ≠ [] := by decide
  rw [← mem_walkPayload_iff _ _ _ _ present, ← List.mem_eraseDups]
  simp [inspectTemplateSecretPayload, strict]

/-- A list without its repetitions lists nothing twice. -/
theorem nodup_eraseDups : (paths : List JsString) → paths.eraseDups.Nodup
  | [] => List.nodup_nil
  | path :: rest => by
      have shorter : (rest.filter fun other => !other == path).length ≤ rest.length :=
        List.length_filter_le ..
      rw [List.eraseDups_cons, List.nodup_cons, List.mem_eraseDups]
      exact ⟨by simp, nodup_eraseDups _⟩
termination_by paths => paths.length

/-- A strict guard accepts a payload exactly when no key at any depth is
forbidden, and a rejection lists each path of a forbidden key once. -/
theorem secret_guard_exact (env : Env) (strict : isStrictEnabled env = true) (payload : Json) :
    (inspectHeld env (parsed payload) = .ok ↔
      ∀ steps key, payload.KeyAt steps key → ¬ Forbidden (readAllowlist env) key) ∧
    ∀ forbiddenFields, inspectHeld env (parsed payload) = .forbidden forbiddenFields →
      forbiddenFields.Nodup ∧
      ∀ path, path ∈ forbiddenFields ↔
        ∃ steps key, payload.KeyAt steps key ∧ Forbidden (readAllowlist env) key ∧
          path = render (js "payload") (steps ++ [.key key]) := by
  have exactly := mem_inspect_iff strict payload
  rw [inspectHeld_parsed]
  constructor
  · constructor
    · intro accepted steps key found forbidden
      have none : inspectTemplateSecretPayload env (some payload) = [] := by
        by_contra some
        rw [if_neg some] at accepted
        cases accepted
      have named := (exactly _).mpr ⟨steps, key, found, forbidden, rfl⟩
      rw [none] at named
      cases named
    · intro clean
      apply if_pos
      apply List.eq_nil_iff_forall_not_mem.mpr
      intro path member
      obtain ⟨steps, key, found, forbidden, -⟩ := (exactly path).mp member
      exact clean steps key found forbidden
  · intro forbiddenFields rejected
    split at rejected
    · cases rejected
    · obtain rfl := TemplateSecretGuardResult.forbidden.inj rejected
      refine ⟨?_, exactly⟩
      simp only [inspectTemplateSecretPayload, strict]
      exact nodup_eraseDups _

/-- An allowlisted key with a suspicious one below it. -/
def nestedSecret : Json :=
  .obj [(js "items", .arr [.null, .obj [(js "provider", .obj [(js "SMTP-Host", .str (js "mx"))])]])]

theorem nested_secret_is_named :
    inspectHeld (fun _ => none) (parsed nestedSecret) =
        .forbidden [js "payload.items[1].provider.SMTP-Host"] ∧
      ∃ steps key, nestedSecret.KeyAt steps key ∧
        Forbidden (readAllowlist fun _ => none) key ∧
        js "payload.items[1].provider.SMTP-Host" =
          render (js "payload") (steps ++ [.key key]) := by
  have rejected : inspectHeld (fun _ => none) (parsed nestedSecret) =
      .forbidden [js "payload.items[1].provider.SMTP-Host"] := by rfl
  have exactly := (secret_guard_exact (fun _ => none) rfl nestedSecret).2 _ rejected
  exact ⟨rejected, (exactly.2 _).mp List.mem_cons_self⟩

end DarkmeshGateway.Gateway.SecretGuardWalk
