import DarkmeshGateway.Resolver.BundleReading

/-!
Contract: when a normalised policy table is independent of the order of `pairs`.

Owns the tables of one outcome in every order, the entries that agree, and the
four normalisers as instances.

Does not own the order in which `pairs` visits a table, nor when two policies
count as the same: a list of methods stands for a set.
-/

namespace DarkmeshGateway.Resolver.PolicyDeterminism

open Foundation
open Foundation.Lua
open Resolver.Normalize
open Resolver.Policies
open Resolver.BundleReading

section Tables

variable {α : Type} (same : Setoid α) (entry : Key → Entries → Except LuaString (LuaString × α))

/-! ### Outcomes -/

/-- Two rejections of one message, or two tables of the same policies. -/
def SameOutcome :
    Except LuaString (Option (OrderedMap LuaString α)) →
      Except LuaString (Option (OrderedMap LuaString α)) → Prop
  | .error failure, .error other => failure = other
  | .ok (some left), .ok (some right) =>
      ∀ name, Option.Rel same.r (left.find name) (right.find name)
  | .ok none, .ok none => True
  | _, _ => False

/-- The outcome is one for every order of the input, and a table that is taken holds
the policy of each of its entries. -/
structure Deterministic
    (normalize : Option Value → Except LuaString (Option (OrderedMap LuaString α)))
    (input : Entries) : Prop where
  order : ∀ reordered, reordered.Perm input →
    SameOutcome same (normalize (some (.table reordered))) (normalize (some (.table input)))
  kept : ∀ table, normalize (some (.table input)) = .ok (some table) →
    ∀ key spec name policy, (key, Value.table spec) ∈ input → entry key spec = .ok (name, policy) →
      ∃ held, table.find name = some held ∧ same.r held policy

/-- All rejected entries have one message, and without one the entries of a name have
the same policy. -/
structure Agreeing (input : Entries) : Prop where
  failures : ∀ key spec other otherSpec failure otherFailure,
    (key, Value.table spec) ∈ input → (other, Value.table otherSpec) ∈ input →
    entry key spec = .error failure → entry other otherSpec = .error otherFailure →
    failure = otherFailure
  names : AllTaken entry input → ∀ key spec other otherSpec name policy otherPolicy,
    (key, Value.table spec) ∈ input → (other, Value.table otherSpec) ∈ input →
    entry key spec = .ok (name, policy) → entry other otherSpec = .ok (name, otherPolicy) →
    same.r policy otherPolicy

variable {same entry}

theorem SameOutcome.of_eq {left right : Except LuaString (Option (OrderedMap LuaString α))}
    (equal : left = right) : SameOutcome same left right := by
  subst equal
  cases left with
  | error failure => exact rfl
  | ok result =>
      cases result with
      | none => trivial
      | some table =>
          intro name
          cases table.find name with
          | none => exact .none
          | some policy => exact .some (same.refl policy)

/-! ### The loop -/

theorem allTaken_perm {input reordered : Entries} (order : reordered.Perm input)
    (all : AllTaken entry input) : AllTaken entry reordered :=
  fun key spec member => all key spec (order.mem_iff.mp member)

/-- With a rejected entry the outcome is the rejection of one of them. -/
theorem normalizeEntries_error {input : Entries} (rejected : ¬ AllTaken entry input)
    (out : OrderedMap LuaString α) :
    ∃ key spec failure, (key, Value.table spec) ∈ input ∧ entry key spec = .error failure ∧
      normalizeEntries entry input out = .error failure := by
  induction input generalizing out with
  | nil =>
      exfalso
      apply rejected
      intro key spec member
      cases member
  | cons head rest inductionHypothesis =>
      obtain ⟨key, value⟩ := head
      have later (others : ¬ AllTaken entry rest) (out : OrderedMap LuaString α) :
          ∃ other spec failure, (other, Value.table spec) ∈ (key, value) :: rest ∧
            entry other spec = .error failure ∧
            normalizeEntries entry rest out = .error failure := by
        obtain ⟨other, spec, failure, member, fails, outcome⟩ := inductionHypothesis others out
        exact ⟨other, spec, failure, List.mem_cons_of_mem _ member, fails, outcome⟩
      rw [allTaken_cons, not_and_or] at rejected
      cases value with
      | table spec =>
          cases read : entry key spec with
          | error failure =>
              refine ⟨key, spec, failure, List.mem_cons_self, read, ?_⟩
              simp only [normalizeEntries, read]
          | ok named =>
              have others : ¬ AllTaken entry rest := by
                rcases rejected with first | others
                · exfalso
                  apply first
                  intro other equal
                  rw [← Value.table.inj equal]
                  exact ⟨named, read⟩
                · exact others
              simp only [normalizeEntries, read]
              exact later others _
      | bool flag => exact later (rejected.resolve_left (by simp)) out
      | num number => exact later (rejected.resolve_left (by simp)) out
      | str text => exact later (rejected.resolve_left (by simp)) out

theorem normalizeEntries_append (front rear : Entries) (out : OrderedMap LuaString α) :
    normalizeEntries entry (front ++ rear) out =
      (normalizeEntries entry front out).bind (normalizeEntries entry rear) := by
  induction front generalizing out with
  | nil => rfl
  | cons head rest inductionHypothesis =>
      obtain ⟨key, value⟩ := head
      cases value with
      | table spec =>
          rw [List.cons_append]
          simp only [normalizeEntries]
          cases entry key spec with
          | error failure => rfl
          | ok named => exact inductionHypothesis _
      | bool flag => exact inductionHypothesis out
      | num number => exact inductionHypothesis out
      | str text => exact inductionHypothesis out

/-- An entry visited first decides a rejection. -/
theorem normalizeEntries_first {key : Key} {spec : Entries} {failure : LuaString}
    (fails : entry key spec = .error failure) (rest : Entries) (out : OrderedMap LuaString α) :
    normalizeEntries entry ((key, .table spec) :: rest) out = .error failure := by
  simp only [normalizeEntries, fails]

/-- An entry visited last decides the policy of its name. -/
theorem normalizeEntries_last {key : Key} {spec : Entries} {name : LuaString} {policy : α}
    (reads : entry key spec = .ok (name, policy)) {front : Entries}
    {out result : OrderedMap LuaString α}
    (read : normalizeEntries entry (front ++ [(key, .table spec)]) out = .ok result) :
    result.find name = some policy := by
  rw [normalizeEntries_append] at read
  obtain ⟨middle, -, last⟩ := Outcome.bind_eq_ok.mp read
  simp only [normalizeEntries, reads] at last
  obtain rfl := Except.ok.inj last
  exact OrderedMap.find_set_self ..

/-! ### Determinism -/

/-- Where every entry is taken, so is the table. -/
theorem normalizeEntries_taken {input : Entries} (all : AllTaken entry input) :
    ∃ result, normalizeEntries entry input .empty = .ok result :=
  normalizeEntries_isOk_iff.mpr all

theorem normalizeTable_ok {table : String} {input : Entries} {result : OrderedMap LuaString α}
    (read : normalizeEntries entry input .empty = .ok result) :
    normalizeTable table entry (some (.table input)) = .ok (some result) := by
  rw [normalizeTable, read]
  rfl

theorem normalizeTable_error {table : String} {input : Entries} {failure : LuaString}
    (read : normalizeEntries entry input .empty = .error failure) :
    normalizeTable table entry (some (.table input)) = .error failure := by
  rw [normalizeTable, read]
  rfl

/-- What a taken table holds under a name is the policy of an entry of the name. -/
theorem held_of_name {input : Entries} {result : OrderedMap LuaString α}
    (read : normalizeEntries entry input .empty = .ok result) {name : LuaString} {policy : α}
    (found : result.find name = some policy) :
    ∃ key spec, (key, Value.table spec) ∈ input ∧ entry key spec = .ok (name, policy) := by
  rcases normalizeEntries_sound read found with early | listed
  · cases early
  · exact listed

theorem Agreeing.order {table : String} {input reordered : Entries}
    (agreeing : Agreeing same entry input) (order : reordered.Perm input) :
    SameOutcome same (normalizeTable table entry (some (.table reordered)))
      (normalizeTable table entry (some (.table input))) := by
  by_cases all : AllTaken entry input
  · obtain ⟨left, leftRead⟩ := normalizeEntries_taken (allTaken_perm order all)
    obtain ⟨right, rightRead⟩ := normalizeEntries_taken all
    rw [normalizeTable_ok leftRead, normalizeTable_ok rightRead]
    intro name
    cases leftFound : left.find name with
    | some policy =>
        obtain ⟨key, spec, member, reads⟩ := held_of_name leftRead leftFound
        have present := order.mem_iff.mp member
        obtain ⟨other, rightFound⟩ := Option.isSome_iff_exists.mp
          (normalizeEntries_complete rightRead present reads)
        obtain ⟨otherKey, otherSpec, otherMember, otherReads⟩ := held_of_name rightRead rightFound
        rw [rightFound]
        exact .some (agreeing.names all _ _ _ _ _ _ _ present otherMember reads otherReads)
    | none =>
        cases rightFound : right.find name with
        | none => exact .none
        | some policy =>
            obtain ⟨key, spec, member, reads⟩ := held_of_name rightRead rightFound
            have held := normalizeEntries_complete leftRead (order.mem_iff.mpr member) reads
            rw [leftFound] at held
            cases held
  · have others : ¬ AllTaken entry reordered := fun taken => all (allTaken_perm order.symm taken)
    obtain ⟨key, spec, failure, member, fails, read⟩ := normalizeEntries_error others .empty
    obtain ⟨other, otherSpec, otherFailure, otherMember, otherFails, otherRead⟩ :=
      normalizeEntries_error all .empty
    rw [normalizeTable_error read, normalizeTable_error otherRead]
    exact agreeing.failures _ _ _ _ _ _ (order.mem_iff.mp member) otherMember fails otherFails

theorem Agreeing.kept {input : Entries} {result : OrderedMap LuaString α}
    (agreeing : Agreeing same entry input)
    (read : normalizeEntries entry input .empty = .ok result) {key : Key} {spec : Entries}
    {name : LuaString} {policy : α} (member : (key, Value.table spec) ∈ input)
    (reads : entry key spec = .ok (name, policy)) :
    ∃ held, result.find name = some held ∧ same.r held policy := by
  have all : AllTaken entry input := normalizeEntries_isOk_iff.mp ⟨result, read⟩
  obtain ⟨held, found⟩ := Option.isSome_iff_exists.mp (normalizeEntries_complete read member reads)
  obtain ⟨other, otherSpec, otherMember, otherReads⟩ := held_of_name read found
  exact ⟨held, found, agreeing.names all _ _ _ _ _ _ _ otherMember member otherReads reads⟩

section Order

variable {table : String} {input : Entries}
  (oneOutcome : ∀ reordered, reordered.Perm input →
    SameOutcome same (normalizeTable table entry (some (.table reordered)))
      (normalizeTable table entry (some (.table input))))

include oneOutcome

/-- Where the order does not matter, any failure may come first. -/
theorem outcome_of_failure {key : Key} {spec : Entries} {failure : LuaString}
    (member : (key, Value.table spec) ∈ input) (fails : entry key spec = .error failure) :
    SameOutcome same (.error failure) (normalizeTable table entry (some (.table input))) := by
  obtain ⟨before, after, rfl⟩ := List.append_of_mem member
  have moved := oneOutcome _ List.perm_middle.symm
  rwa [normalizeTable_error (normalizeEntries_first fails _ _)] at moved

/-- Where the order does not matter, any entry of a name may come last. -/
theorem held_of_last {result : OrderedMap LuaString α}
    (read : normalizeEntries entry input .empty = .ok result) {key : Key} {spec : Entries}
    {name : LuaString} {policy : α} (member : (key, Value.table spec) ∈ input)
    (reads : entry key spec = .ok (name, policy)) :
    Option.Rel same.r (some policy) (result.find name) := by
  have all : AllTaken entry input := normalizeEntries_isOk_iff.mp ⟨result, read⟩
  have order : ∃ front : Entries, (front ++ [(key, Value.table spec)]).Perm input := by
    obtain ⟨before, after, rfl⟩ := List.append_of_mem member
    refine ⟨before ++ after, ?_⟩
    rw [List.append_assoc]
    exact List.perm_append_comm.append_left before
  obtain ⟨front, order⟩ := order
  obtain ⟨moved, movedRead⟩ := normalizeEntries_taken (allTaken_perm order all)
  have outcome := oneOutcome _ order
  rw [normalizeTable_ok movedRead, normalizeTable_ok read] at outcome
  have found := outcome name
  rwa [normalizeEntries_last reads movedRead] at found

/-- One outcome in every order forces agreement. -/
theorem agreeing_of_order : Agreeing same entry input := by
  constructor
  · intro key spec other otherSpec failure otherFailure member otherMember fails otherFails
    have left := outcome_of_failure oneOutcome member fails
    have right := outcome_of_failure oneOutcome otherMember otherFails
    cases outcome : normalizeTable table entry (some (.table input)) with
    | error rejection =>
        rw [outcome] at left right
        exact left.trans right.symm
    | ok result =>
        rw [outcome] at left
        cases left
  · intro all key spec other otherSpec name policy otherPolicy member otherMember reads otherReads
    obtain ⟨result, read⟩ := normalizeEntries_taken all
    have left := held_of_last oneOutcome read member reads
    have right := held_of_last oneOutcome read otherMember otherReads
    cases found : result.find name with
    | none =>
        rw [found] at left
        cases left
    | some held =>
        rw [found] at left right
        cases left with
        | some leftSame =>
            cases right with
            | some rightSame => exact same.trans leftSame (same.symm rightSame)

end Order

/-- A normaliser is deterministic exactly on tables whose entries agree. -/
theorem deterministic_iff (table : String) (input : Entries) :
    Deterministic same entry (normalizeTable table entry) input ↔ Agreeing same entry input := by
  constructor
  · intro deterministic
    exact agreeing_of_order deterministic.order
  · intro agreeing
    refine ⟨fun reordered order => agreeing.order order, ?_⟩
    intro result taken key spec name policy member reads
    cases read : normalizeEntries entry input .empty with
    | error failure =>
        rw [normalizeTable_error read] at taken
        cases taken
    | ok held =>
        rw [normalizeTable_ok read] at taken
        obtain rfl := Option.some.inj (Except.ok.inj taken)
        exact agreeing.kept read member reads

end Tables

/-- The four normalisers are deterministic exactly on tables whose entries agree:
their rejections have one message, and without one no two entries of a name have
different policies. -/
theorem policy_normalisation_deterministic_iff (platform : Platform) (sameHost : Setoid HostPolicy)
    (sameSite : Setoid SitePolicy) (sameRoute : Setoid RoutePolicy) (sameProof : Setoid DnsProof)
    (hosts sites routes proofs : Entries) :
    (Deterministic sameHost (normalizeHostEntry platform) (normalizeHostPolicies platform) hosts ↔
        Agreeing sameHost (normalizeHostEntry platform) hosts) ∧
      (Deterministic sameSite (normalizeSiteEntry platform) (normalizeSitePolicies platform) sites ↔
        Agreeing sameSite (normalizeSiteEntry platform) sites) ∧
      (Deterministic sameRoute (normalizeRouteEntry platform) (normalizeRoutePolicies platform)
          routes ↔
        Agreeing sameRoute (normalizeRouteEntry platform) routes) ∧
      (Deterministic sameProof (normalizeDnsEntry platform) (normalizeDnsProofState platform)
          proofs ↔
        Agreeing sameProof (normalizeDnsEntry platform) proofs) :=
  ⟨deterministic_iff "hostPolicies" hosts, deterministic_iff "sitePolicies" sites,
    deterministic_iff "routePolicies" routes, deterministic_iff "dnsProofState" proofs⟩

/-- One host in two spellings, with two sites. -/
def collidingHosts : Entries :=
  [(.str (lua "A.com"), .table [(.str (lua "siteId"), .str (lua "one"))]),
    (.str (lua "a.com"), .table [(.str (lua "siteId"), .str (lua "two"))])]

/-- Under one outcome a name has one policy. -/
theorem SameOutcome.policy_eq {α : Type}
    {left right : Except LuaString (Option (OrderedMap LuaString α))}
    (outcome : SameOutcome ⟨Eq, eq_equivalence⟩ left right) (name : LuaString) :
    (left.toOption.join.bind fun table => table.find name) =
      right.toOption.join.bind fun table => table.find name := by
  cases left with
  | error failure =>
      cases right with
      | error other => rfl
      | ok result => cases outcome
  | ok result =>
      cases right with
      | error other => cases result <;> cases outcome
      | ok other =>
          cases result with
          | none =>
              cases other with
              | none => rfl
              | some table => cases outcome
          | some table =>
              cases other with
              | none => cases outcome
              | some held =>
                  show table.find name = held.find name
                  have found := outcome name
                  generalize table.find name = first at found
                  generalize held.find name = second at found
                  cases found with
                  | none => rfl
                  | some equal => exact congrArg some equal

/-- The site that the normalised table gives `a.com`. -/
def siteOfCollision (hosts : Entries) : Option LuaString :=
  ((normalizeHostPolicies fixturePlatform (some (.table hosts))).toOption.join.bind fun table =>
    table.find (lua "a.com")).map HostPolicy.siteId

/-- The entry visited last overwrites the other, without a rejection. -/
theorem colliding_hosts_overwrite :
    siteOfCollision collidingHosts = some (lua "two") ∧
      siteOfCollision collidingHosts.reverse = some (lua "one") ∧
      ¬ Deterministic ⟨Eq, eq_equivalence⟩ (normalizeHostEntry fixturePlatform)
        (normalizeHostPolicies fixturePlatform) collidingHosts := by
  have forward : siteOfCollision collidingHosts = some (lua "two") := by decide +kernel
  have backward : siteOfCollision collidingHosts.reverse = some (lua "one") := by decide +kernel
  refine ⟨forward, backward, ?_⟩
  intro deterministic
  have outcome := deterministic.order _ collidingHosts.reverse_perm
  have sites := congrArg (Option.map HostPolicy.siteId) (outcome.policy_eq (lua "a.com"))
  have differ : some (lua "one") = some (lua "two") := backward.symm.trans (sites.trans forward)
  exact absurd differ (by decide)

end DarkmeshGateway.Resolver.PolicyDeterminism
