import DarkmeshGateway.Resolver.BundleNormalization
import DarkmeshGateway.SecretsWorker.SiteByHost

/-!
Contract: which hosts the worker looks up, and under which names the resolver
and the bundle builder know them.

Owns the exact set of hosts a lookup accepts, that each is its own normal form,
and the agreement of the three normalisations on it.

Does not own the length check of the resolver's shared validation.
-/

namespace DarkmeshGateway.SecretsWorker.LookupHost

open Foundation
open Foundation.Js
open Foundation.Delimited
open SecretsWorker.Fields
open SecretsWorker.SiteByHost
open Resolver.BundleEntries (HostName HostLabel)
open Resolver.BundleNormalization (PlatformLaws normalizeHost_ok_iff)

/-- At least two labels of a host name, joined by dots. -/
structure DottedHost (host : JsString) : Prop where
  short : host.length ≤ 255
  labels : ∀ label ∈ host.splitOn 46, HostLabel label
  dotted : 2 ≤ (host.splitOn 46).length

theorem labelOk_iff (label : JsString) : labelOk label = true ↔ HostLabel label := by
  simp only [labelOk, Bool.and_eq_true, bne_iff_ne, decide_eq_true_eq, List.all_eq_true]
  constructor
  · rintro ⟨⟨⟨⟨visible, short⟩, units⟩, head⟩, last⟩
    exact ⟨visible, short, units, head, last⟩
  · intro spelled
    exact ⟨⟨⟨⟨spelled.visible, spelled.short⟩, spelled.units⟩, spelled.head⟩, spelled.last⟩

theorem infix_of_includes {text part : JsString} (found : includes text part = true) :
    part <:+: text := by
  obtain ⟨tail, suffix, begins⟩ := List.any_eq_true.mp found
  exact (List.isPrefixOf_iff_prefix.mp begins).isInfix.trans
    ((List.mem_tails tail text).mp suffix).isInfix

/-- A unit of a host of labels is a dot, a letter, a digit or a hyphen. -/
theorem unit_of_labels {host : JsString} (labels : ∀ label ∈ host.splitOn 46, HostLabel label) :
    ∀ unit ∈ host, unit = 46 ∨ isLabelUnit unit = true := by
  intro unit member
  have placed : unit = 46 ∨ ∃ label ∈ host.splitOn 46, unit ∈ label := mem_splitOn member
  rcases placed with dot | ⟨label, listed, inside⟩
  · exact Or.inl dot
  · exact Or.inr ((labels label listed).units unit inside)

/-- Such a unit is its own lower case and no space. -/
theorem plain_of_labels {host : JsString} (labels : ∀ label ∈ host.splitOn 46, HostLabel label) :
    ∀ unit ∈ host, isWhitespace unit = false ∧ lowerUnit unit = [unit] := by
  intro unit member
  have ranges : unit.toNat = 46 ∨ (97 ≤ unit.toNat ∧ unit.toNat ≤ 122) ∨
      (48 ≤ unit.toNat ∧ unit.toNat ≤ 57) ∨ unit.toNat = 45 := by
    rcases unit_of_labels labels unit member with rfl | label
    · exact Or.inl rfl
    · have spelled : ((97 ≤ unit.toNat ∧ unit.toNat ≤ 122) ∨
          (48 ≤ unit.toNat ∧ unit.toNat ≤ 57)) ∨ unit.toNat = 45 := by
        simpa [isLabelUnit, isDigit, ← UInt16.toNat_inj] using label
      tauto
  constructor
  · simp only [isWhitespace, Bool.or_eq_false_iff, Bool.and_eq_false_iff, decide_eq_false_iff_not,
      beq_eq_false_iff_ne, ne_eq]
    omega
  · have upper : (decide (65 ≤ unit.toNat) && decide (unit.toNat ≤ 90)) = false := by
      simp only [Bool.and_eq_false_iff, decide_eq_false_iff_not]
      omega
    have kelvin : (unit.toNat == 0x212A) = false := by
      rw [beq_eq_false_iff_ne]
      omega
    have dotted : (unit.toNat == 0x0130) = false := by
      rw [beq_eq_false_iff_ne]
      omega
    rw [lowerUnit, upper, kelvin, dotted]
    rfl

/-- The labels pass the checks in front of theirs. -/
theorem hostShapeOk_of_labels {host : JsString}
    (labels : ∀ label ∈ host.splitOn 46, HostLabel label) : hostShapeOk host = true := by
  have units := unit_of_labels labels
  have full : [] ∉ host.splitOn 46 := fun empty => (labels [] empty).visible rfl
  rw [nil_mem_splitOn_iff, not_or, not_or, not_or] at full
  have noColon : includes host (js "://") = false := by
    by_contra found
    rw [Bool.not_eq_false] at found
    have member : (58 : CodeUnit) ∈ host := (infix_of_includes found).subset (by decide)
    rcases units 58 member with dot | label
    · exact absurd dot (by decide)
    · exact absurd label (by decide)
  have noMark : host.any (fun unit => (js "/?#:").contains unit) = false := by
    rw [List.any_eq_false]
    intro unit member marked
    have listed : unit ∈ js "/?#:" := by simpa using marked
    have plain : (js "/?#:").all (fun mark => mark != 46 && !isLabelUnit mark) = true := by decide
    have apart := List.all_eq_true.mp plain unit listed
    rcases units unit member with rfl | label
    · exact absurd apart (by decide)
    · simp [label] at apart
  have noSpace : host.any isWhitespace = false := by
    rw [List.any_eq_false]
    intro unit member space
    rw [(plain_of_labels labels unit member).1] at space
    cases space
  have noDots : includes host (js "..") = false := by
    by_contra found
    rw [Bool.not_eq_false] at found
    exact full.2.2.2 (infix_of_includes found)
  simp only [hostShapeOk, noColon, noMark, noSpace, noDots, Bool.not_false, Bool.true_and,
    Bool.and_true, Bool.and_eq_true, bne_iff_ne]
  exact ⟨full.2.1, full.2.2.1⟩

/-- A lookup accepts exactly the texts that are dotted hosts once trimmed, in
lower case and without one final dot. -/
theorem normalizeLookupHost_eq_ok_iff (value : Option Json) (host : JsString) :
    normalizeLookupHost value = .ok host ↔
      host = dropFinalDot (toLowerCase (trimString value)) ∧ DottedHost host := by
  unfold normalizeLookupHost
  dsimp only
  generalize toLowerCase (trimString value) = raw
  constructor
  · intro accepted
    split_ifs at accepted with blank long shape few labels
    obtain rfl := Except.ok.inj accepted
    rw [not_or, not_lt] at long
    refine ⟨rfl, long.2, ?_, not_lt.mp few⟩
    intro label listed
    exact (labelOk_iff label).mp (List.all_eq_true.mp labels label listed)
  · rintro ⟨rfl, dotted⟩
    have nonempty : dropFinalDot raw ≠ [] := by
      intro empty
      have two := dotted.dotted
      rw [empty] at two
      revert two
      decide
    have named : raw ≠ [] := by
      rintro rfl
      exact nonempty rfl
    have shape := hostShapeOk_of_labels dotted.labels
    have labels : ((dropFinalDot raw).splitOn 46).all labelOk = true :=
      List.all_eq_true.mpr fun label listed => (labelOk_iff label).mpr (dotted.labels label listed)
    have short : ¬(dropFinalDot raw = [] ∨ 255 < (dropFinalDot raw).length) := by
      rw [not_or, not_lt]
      exact ⟨nonempty, dotted.short⟩
    rw [if_neg named, if_neg short, if_neg (by simp [shape]), if_neg (not_lt.mpr dotted.dotted),
      if_pos labels]

/-- A dotted host is looked up as it is. -/
theorem normalizeLookupHost_self {host : JsString} (dotted : DottedHost host) :
    normalizeLookupHost (some (.str host)) = .ok host := by
  have plain := plain_of_labels dotted.labels
  have trimmed : trim host = host := by
    apply trim_of_visible
    rw [List.any_eq_false]
    intro unit member
    simp [(plain unit member).1]
  have lowered : toLowerCase host = host := by
    have each : host.flatMap lowerUnit = host.flatMap fun unit => [unit] :=
      List.flatMap_congr fun unit member => (plain unit member).2
    rw [toLowerCase, each, List.flatMap_singleton']
  have undotted : dropFinalDot host = host := by
    apply if_neg
    intro last
    have empty : [] ∈ host.splitOn 46 := (nil_mem_splitOn_iff host).mpr (Or.inr (Or.inr (Or.inl last)))
    exact (dotted.labels [] empty).visible rfl
  rw [normalizeLookupHost_eq_ok_iff, trimString_str, trimmed, lowered, undotted]
  exact ⟨rfl, dotted⟩

/-- Up to the length of a host name, a lookup asks for exactly the hosts that
the bundle builder takes and that have two labels. The worker and the resolver
both leave such a host as it is, so a lookup and a policy meet under one name. -/
theorem lookup_hosts_are_policy_hosts {platform : Resolver.Normalize.Platform}
    (laws : PlatformLaws platform) (field : Lua.LuaString) {host : JsString}
    (short : host.length ≤ 253) :
    ((∃ value, normalizeLookupHost value = .ok host) ↔
        HostName host ∧ 2 ≤ (host.splitOn 46).length) ∧
      (HostName host → 2 ≤ (host.splitOn 46).length →
        normalizeLookupHost (some (.str host)) = .ok host ∧
          (Resolver.Normalize.normalizeHost platform (.str (utf8 host)) field = .ok (utf8 host) ↔
            host.length ≤ platform.maxHostBytes)) := by
  have dottedOf (named : HostName host) (two : 2 ≤ (host.splitOn 46).length) : DottedHost host :=
    ⟨by omega, named.labels, two⟩
  refine ⟨⟨?_, ?_⟩, ?_⟩
  · rintro ⟨value, accepted⟩
    have dotted := ((normalizeLookupHost_eq_ok_iff value host).mp accepted).2
    exact ⟨⟨short, dotted.labels⟩, dotted.dotted⟩
  · rintro ⟨named, two⟩
    exact ⟨_, normalizeLookupHost_self (dottedOf named two)⟩
  · intro named two
    refine ⟨normalizeLookupHost_self (dottedOf named two), ?_⟩
    rw [normalizeHost_ok_iff laws named]
    exact and_iff_left rfl

theorem shop_host_agreement :
    ((∃ value, normalizeLookupHost value = .ok (js "shop.example")) ↔
        HostName (js "shop.example") ∧ 2 ≤ ((js "shop.example").splitOn 46).length) ∧
      (HostName (js "shop.example") → 2 ≤ ((js "shop.example").splitOn 46).length →
        normalizeLookupHost (some (.str (js "shop.example"))) = .ok (js "shop.example") ∧
          (Resolver.Normalize.normalizeHost Resolver.Normalize.fixturePlatform
              (.str (utf8 (js "shop.example"))) (Lua.lua "Host") =
                .ok (utf8 (js "shop.example")) ↔
            (js "shop.example").length ≤ Resolver.Normalize.fixturePlatform.maxHostBytes)) :=
  lookup_hosts_are_policy_hosts Resolver.BundleNormalization.fixture_laws (Lua.lua "Host")
    (by decide)

end DarkmeshGateway.SecretsWorker.LookupHost
