import DarkmeshGateway.Foundation.Js.Text

/-!
Contract: integrity tokens, and the check of a manifest entry against trusted
roots.

Owns the normal form of a token, that it is a normal form, what a verified entry
satisfies, and for which entries and policies the check fails closed.

Does not own where the trusted roots come from.
-/

namespace DarkmeshGateway.Gateway.IntegrityVerifier

open Foundation.Js

/-! ### Tokens -/

/-- `text.replace(/^.../i, '')` for a sequence of character classes, given in
lower case; `none` when the pattern does not match. -/
def stripClasses : List JsString → JsString → Option JsString
  | [], text => some text
  | _ :: _, [] => none
  | classOf :: rest, unit :: text =>
      if classOf.any fun letter => lowerUnit unit = [letter] then stripClasses rest text else none

/-- `/^sha256[:=\-]/i`. -/
def sha256Prefix : List JsString := [js "s", js "h", js "a", js "2", js "5", js "6", js ":=-"]

/-- `/^0x/i`. -/
def hexPrefix : List JsString := [js "0", js "x"]

def commonPrefixes : List (List JsString) := [sha256Prefix, hexPrefix]

/-- The text without a prefix, trimmed. -/
def stripPrefix (text : JsString) (classes : List JsString) : JsString :=
  match stripClasses classes text with
  | some stripped => trim stripped
  | none => text

/-- One round over the prefixes. -/
def stripRound (text : JsString) : JsString := commonPrefixes.foldl stripPrefix text

/-- Rounds until one changes nothing. A round that changes the text shortens it,
so there are at most as many as it has units. -/
def stripRounds : Nat → JsString → JsString
  | 0, text => text
  | rounds + 1, text =>
      let stripped := stripRound text
      if stripped = text then text else stripRounds rounds stripped

def normalizeIntegrityToken (input : Option JsString) : Option JsString :=
  match input with
  | none => none
  | some raw =>
      let text := trim raw
      if text = [] then none
      else
        let token := toLowerCase (stripRounds text.length text)
        if token = [] ∨ token.any isWhitespace then none else some token

/-! ### Checks -/

structure IntegrityManifestEntry where
  root : Option JsString := none
  hash : Option JsString := none
  uriHash : Option JsString := none
  metaHash : Option JsString := none

structure IntegrityTrustedRoot where
  activeRoot : Option JsString := none
  trustedRoots : List JsString := []
  expectedHash : Option JsString := none
  paused : Bool := false

inductive IntegrityCheckCode where
  | integrityMismatch
  | missingTrustedRoot
  | policyPaused
deriving DecidableEq, Repr

def isTrustedRoot (root : Option JsString) (trustedRoots : List JsString) : Bool :=
  match normalizeIntegrityToken root with
  | none => false
  | some normalizedRoot =>
      trustedRoots.any fun trusted => normalizeIntegrityToken (some trusted) = some normalizedRoot

/-- The normal forms of the active root and of the trusted roots. -/
def collectTrustedRoots (policy : IntegrityTrustedRoot) : List JsString :=
  ((normalizeIntegrityToken policy.activeRoot).toList ++
    policy.trustedRoots.filterMap fun root => normalizeIntegrityToken (some root)).eraseDups

/-- The first usable hash. -/
def resolveEntryHash (entry : IntegrityManifestEntry) : Option JsString :=
  [entry.hash, entry.uriHash, entry.metaHash].findSome? normalizeIntegrityToken

def verifyManifestEntry (entry : IntegrityManifestEntry) (policy : IntegrityTrustedRoot) :
    Except IntegrityCheckCode Unit :=
  if policy.paused then .error .policyPaused
  else
    let trustedRoots := collectTrustedRoots policy
    match normalizeIntegrityToken entry.root with
    | none => .error .missingTrustedRoot
    | some entryRoot =>
        if trustedRoots = [] then .error .missingTrustedRoot
        else if ¬isTrustedRoot (some entryRoot) trustedRoots then .error .integrityMismatch
        else match normalizeIntegrityToken policy.expectedHash with
          | none => .ok ()
          | some expectedHash =>
              match resolveEntryHash entry with
              | none => .error .missingTrustedRoot
              | some actualHash =>
                  if actualHash ≠ expectedHash then .error .integrityMismatch else .ok ()

/-! ### Normal forms -/

theorem stripClasses_length {classes : List JsString} {text stripped : JsString}
    (matched : stripClasses classes text = some stripped) :
    stripped.length + classes.length = text.length := by
  induction classes generalizing text with
  | nil =>
      obtain rfl := Option.some.inj matched
      rfl
  | cons classOf rest inductionHypothesis =>
      cases text with
      | nil => cases matched
      | cons unit others =>
          unfold stripClasses at matched
          split at matched
          next =>
            have shorter := inductionHypothesis matched
            simp only [List.length_cons]
            omega
          next => cases matched

/-- Stripping a prefix leaves the text alone or shortens it. -/
theorem stripPrefix_cases (classes : List JsString) (nonempty : classes ≠ []) (text : JsString) :
    (stripClasses classes text = none ∧ stripPrefix text classes = text) ∨
      (stripPrefix text classes).length < text.length := by
  unfold stripPrefix
  cases matched : stripClasses classes text with
  | none => exact Or.inl ⟨rfl, rfl⟩
  | some stripped =>
      have lengths := stripClasses_length matched
      have short := trim_length_le stripped
      have pattern := List.length_pos_of_ne_nil nonempty
      right
      show (trim stripped).length < text.length
      omega

/-- A text that no prefix matches, in a normal form or not. -/
def Bare (text : JsString) : Prop := ∀ classes ∈ commonPrefixes, stripClasses classes text = none

theorem stripRound_of_bare {text : JsString} (bare : Bare text) : stripRound text = text := by
  have keeps : ∀ classes ∈ commonPrefixes, stripPrefix text classes = text := by
    intro classes member
    rw [stripPrefix, bare classes member]
  unfold stripRound
  apply List.foldlRecOn (motive := (· = text)) commonPrefixes stripPrefix rfl
  intro current same classes member
  rw [same]
  exact keeps classes member

/-- A round ends where it began on a bare text, else with a shorter one. -/
theorem stripRound_cases (text : JsString) :
    Bare text ∨ (stripRound text).length < text.length := by
  have first := stripPrefix_cases sha256Prefix (by decide) text
  have second := stripPrefix_cases hexPrefix (by decide)
  show Bare text ∨ (stripPrefix (stripPrefix text sha256Prefix) hexPrefix).length < text.length
  rcases first with ⟨unmatched, kept⟩ | shorter
  · rw [kept]
    rcases second text with ⟨unmatchedToo, -⟩ | shorter
    · left
      intro classes member
      rcases List.mem_cons.mp member with rfl | last
      · exact unmatched
      · rw [List.mem_singleton.mp last]
        exact unmatchedToo
    · exact Or.inr shorter
  · right
    rcases second (stripPrefix text sha256Prefix) with ⟨-, kept⟩ | shorterToo
    · rw [kept]
      exact shorter
    · omega

/-- The rounds end with a bare text when there are enough of them. -/
theorem stripRounds_bare {rounds : Nat} {text : JsString} (enough : text.length ≤ rounds) :
    Bare (stripRounds rounds text) := by
  induction rounds generalizing text with
  | zero =>
      obtain rfl := List.length_eq_zero_iff.mp (Nat.le_zero.mp enough)
      unfold stripRounds Bare
      decide
  | succ rounds inductionHypothesis =>
      unfold stripRounds
      simp only
      split
      next same =>
        rcases stripRound_cases text with bare | shorter
        · exact bare
        · rw [same] at shorter
          omega
      next changed =>
        rcases stripRound_cases text with bare | shorter
        · exact absurd (stripRound_of_bare bare) changed
        · exact inductionHypothesis (by omega)

theorem stripRounds_of_bare {text : JsString} (bare : Bare text) (rounds : Nat) :
    stripRounds rounds text = text := by
  cases rounds with
  | zero => rfl
  | succ rounds =>
      unfold stripRounds
      rw [stripRound_of_bare bare]
      exact if_pos rfl

/-- The loop ends: any two numbers of rounds give the same text once they reach
its length. -/
theorem stripRounds_enough {left right : Nat} {text : JsString} (leftEnough : text.length ≤ left)
    (rightEnough : text.length ≤ right) : stripRounds left text = stripRounds right text := by
  induction left generalizing right text with
  | zero =>
      obtain rfl := List.length_eq_zero_iff.mp (Nat.le_zero.mp leftEnough)
      have bare : Bare [] := by
        unfold Bare
        decide
      rw [stripRounds_of_bare bare, stripRounds_of_bare bare]
  | succ left inductionHypothesis =>
      rcases stripRound_cases text with bare | shorter
      · rw [stripRounds_of_bare bare, stripRounds_of_bare bare]
      · have changed : stripRound text ≠ text := by
          intro same
          rw [same] at shorter
          omega
        cases right with
        | zero => omega
        | succ right =>
            have step (rounds : Nat) :
                stripRounds (rounds + 1) text = stripRounds rounds (stripRound text) :=
              if_neg changed
            rw [step, step]
            exact inductionHypothesis (by omega) (by omega)

/-- A prefix that the lower-case form has is a prefix of the text. -/
theorem stripClasses_toLowerCase {classes : List JsString}
    (plain : ∀ classOf ∈ classes, (105 : CodeUnit) ∉ classOf) {text stripped : JsString}
    (matched : stripClasses classes (toLowerCase text) = some stripped) :
    (stripClasses classes text).isSome := by
  induction classes generalizing text with
  | nil => rfl
  | cons classOf rest inductionHypothesis =>
      cases folded : toLowerCase text with
      | nil =>
          rw [folded] at matched
          cases matched
      | cons unit others =>
          rw [folded] at matched
          unfold stripClasses at matched
          split at matched
          next inClass =>
            obtain ⟨letter, member, same⟩ := List.any_eq_true.mp inClass
            have lower : lowerUnit unit = [letter] := of_decide_eq_true same
            have genuine : unit ≠ 105 := by
              rintro rfl
              have letterIs : letter = 105 := by
                have form : lowerUnit 105 = [105] := by decide
                rw [form] at lower
                exact (List.cons.inj lower).1.symm
              exact plain classOf (by simp) (letterIs ▸ member)
            obtain ⟨first, tail, rfl, single, rfl⟩ := toLowerCase_eq_cons genuine folded
            have letterIs : letter = unit := by
              rw [lowerUnit_lowerUnit single] at lower
              exact (List.cons.inj lower).1.symm
            have firstInClass : classOf.any fun letter => lowerUnit first = [letter] := by
              apply List.any_eq_true.mpr
              exact ⟨letter, member, by simp [single, letterIs]⟩
            unfold stripClasses
            rw [if_pos firstInClass]
            exact inductionHypothesis (fun other inRest => plain other (by simp [inRest])) matched
          next => cases matched

theorem Bare.toLowerCase {text : JsString} (bare : Bare text) :
    Bare (Foundation.Js.toLowerCase text) := by
  intro classes member
  cases matched : stripClasses classes (Foundation.Js.toLowerCase text) with
  | none => rfl
  | some stripped =>
      have plain : ∀ classes ∈ commonPrefixes, ∀ classOf ∈ classes, (105 : CodeUnit) ∉ classOf := by
        decide
      have isPrefix := stripClasses_toLowerCase (plain classes member) matched
      rw [bare classes member] at isPrefix
      cases isPrefix

/-- What a normalized token looks like. -/
theorem normalizeIntegrityToken_eq_some {input : Option JsString} {token : JsString}
    (normalized : normalizeIntegrityToken input = some token) :
    token ≠ [] ∧ token.any isWhitespace = false ∧ toLowerCase token = token ∧ Bare token := by
  unfold normalizeIntegrityToken at normalized
  split at normalized
  next => cases normalized
  next raw =>
    simp only at normalized
    split at normalized
    next => cases normalized
    next =>
      split at normalized
      next => cases normalized
      next usable =>
        obtain rfl := Option.some.inj normalized
        rw [not_or] at usable
        have bare : Bare (stripRounds (trim raw).length (trim raw)) := stripRounds_bare (Nat.le_refl _)
        exact ⟨usable.1, by simpa using usable.2, toLowerCase_toLowerCase _, bare.toLowerCase⟩

/-- A normalized token is its own normal form. -/
theorem normalizeIntegrityToken_idem {input : Option JsString} {token : JsString}
    (normalized : normalizeIntegrityToken input = some token) :
    normalizeIntegrityToken (some token) = some token := by
  obtain ⟨nonempty, visible, lower, bare⟩ := normalizeIntegrityToken_eq_some normalized
  simp only [normalizeIntegrityToken, trim_of_visible visible, stripRounds_of_bare bare, lower,
    nonempty, visible, if_false, Bool.false_eq_true, or_self]

/-! ### Verified entries -/

theorem mem_collectTrustedRoots {policy : IntegrityTrustedRoot} {token : JsString} :
    token ∈ collectTrustedRoots policy ↔
      normalizeIntegrityToken policy.activeRoot = some token ∨
        ∃ root ∈ policy.trustedRoots, normalizeIntegrityToken (some root) = some token := by
  simp [collectTrustedRoots]

/-- A verified entry is checked under a policy that is not paused, and its root
is the active root or a trusted one, up to the spelling of the token. -/
theorem verifyManifestEntry_ok {entry : IntegrityManifestEntry} {policy : IntegrityTrustedRoot}
    (verified : verifyManifestEntry entry policy = .ok ()) :
    policy.paused = false ∧ ∃ token, normalizeIntegrityToken entry.root = some token ∧
      token ∈ collectTrustedRoots policy := by
  unfold verifyManifestEntry at verified
  split at verified
  next => cases verified
  next unpaused =>
    simp only at verified
    split at verified
    next => cases verified
    next entryRoot normalized =>
      split at verified
      next => cases verified
      next =>
        split at verified
        next => cases verified
        next trusted =>
          have accepted : isTrustedRoot (some entryRoot) (collectTrustedRoots policy) = true := by
            simpa using trusted
          unfold isTrustedRoot at accepted
          rw [normalizeIntegrityToken_idem normalized] at accepted
          obtain ⟨root, member, same⟩ := List.any_eq_true.mp accepted
          have agrees : normalizeIntegrityToken (some root) = some entryRoot := of_decide_eq_true same
          -- The collected roots are normal forms already.
          have normal : normalizeIntegrityToken (some root) = some root := by
            rcases mem_collectTrustedRoots.mp member with active | ⟨source, -, listed⟩
            · exact normalizeIntegrityToken_idem active
            · exact normalizeIntegrityToken_idem listed
          have rootIs : root = entryRoot := Option.some.inj (normal.symm.trans agrees)
          refine ⟨by simpa using unpaused, entryRoot, normalized, ?_⟩
          rw [← rootIs]
          exact member

/-! ### Failing closed -/

/-- The root of the entry is one of the policy, up to the spelling of the token. -/
def TrustsRoot (policy : IntegrityTrustedRoot) (entry : IntegrityManifestEntry) : Prop :=
  ∃ token, normalizeIntegrityToken entry.root = some token ∧
    (normalizeIntegrityToken policy.activeRoot = some token ∨
      ∃ root ∈ policy.trustedRoots, normalizeIntegrityToken (some root) = some token)

/-- An entry is verified under a policy that is not paused, that trusts its root
and whose usable expectation its hash meets. -/
theorem verifyManifestEntry_eq_ok {entry : IntegrityManifestEntry}
    {policy : IntegrityTrustedRoot} :
    verifyManifestEntry entry policy = .ok () ↔
      policy.paused = false ∧ TrustsRoot policy entry ∧
        ∀ expected, normalizeIntegrityToken policy.expectedHash = some expected →
          resolveEntryHash entry = some expected := by
  constructor
  · intro verified
    obtain ⟨unpaused, token, normalized, member⟩ := verifyManifestEntry_ok verified
    refine ⟨unpaused, ⟨token, normalized, mem_collectTrustedRoots.mp member⟩, ?_⟩
    intro expected wanted
    unfold verifyManifestEntry at verified
    simp only [unpaused, normalized, wanted, Bool.false_eq_true, if_false] at verified
    split at verified
    next => cases verified
    next =>
      split at verified
      next => cases verified
      next =>
        split at verified
        next => cases verified
        next actual found =>
          split at verified
          next => cases verified
          next same => rw [found, not_not.mp same]
  · rintro ⟨unpaused, ⟨token, normalized, trusted⟩, matching⟩
    have member : token ∈ collectTrustedRoots policy := mem_collectTrustedRoots.mpr trusted
    have nonempty : collectTrustedRoots policy ≠ [] := List.ne_nil_of_mem member
    have accepted : isTrustedRoot (some token) (collectTrustedRoots policy) = true := by
      have normal := normalizeIntegrityToken_idem normalized
      unfold isTrustedRoot
      rw [normal]
      exact List.any_eq_true.mpr ⟨token, member, by simp [normal]⟩
    unfold verifyManifestEntry
    simp only [unpaused, normalized, nonempty, accepted, Bool.false_eq_true, if_false,
      not_true_eq_false]
    cases wanted : normalizeIntegrityToken policy.expectedHash with
    | none => rfl
    | some expected => simp [matching expected wanted]

/-- The expected hash is a string that is not blank. -/
def Expects (policy : IntegrityTrustedRoot) (expected : JsString) : Prop :=
  policy.expectedHash = some expected ∧ trim expected ≠ []

/-- A verified entry has an unpaused policy, a trusted root and the hash that is
expected of it. -/
def FailsClosed (entry : IntegrityManifestEntry) (policy : IntegrityTrustedRoot) : Prop :=
  verifyManifestEntry entry policy = .ok () →
    policy.paused = false ∧ TrustsRoot policy entry ∧
      ∀ expected, Expects policy expected →
        ∃ token, normalizeIntegrityToken (some expected) = some token ∧
          resolveEntryHash entry = some token

/-- An expected hash that is not blank has a normal form. -/
def ExpectationUsable (policy : IntegrityTrustedRoot) : Prop :=
  ∀ expected, Expects policy expected → normalizeIntegrityToken (some expected) ≠ none

theorem failsClosed_iff {entry : IntegrityManifestEntry} {policy : IntegrityTrustedRoot} :
    FailsClosed entry policy ↔
      (policy.paused = false → TrustsRoot policy entry → ExpectationUsable policy) := by
  constructor
  · intro closed unpaused trusts expected expects unusable
    have absent : normalizeIntegrityToken policy.expectedHash = none := by
      rw [expects.1]
      exact unusable
    have verified : verifyManifestEntry entry policy = .ok () := by
      rw [verifyManifestEntry_eq_ok]
      refine ⟨unpaused, trusts, ?_⟩
      intro token wanted
      rw [absent] at wanted
      cases wanted
    obtain ⟨-, -, matching⟩ := closed verified
    obtain ⟨token, normalized, -⟩ := matching expected expects
    rw [unusable] at normalized
    cases normalized
  · intro usable verified
    obtain ⟨unpaused, trusts, matching⟩ := verifyManifestEntry_eq_ok.mp verified
    refine ⟨unpaused, trusts, ?_⟩
    intro expected expects
    obtain ⟨token, normalized⟩ :=
      Option.ne_none_iff_exists'.mp (usable unpaused trusts expected expects)
    refine ⟨token, normalized, matching token ?_⟩
    rw [expects.1]
    exact normalized

/-- Tokens are normalised in finitely many rounds, to their own normal form; and
the check of an entry fails closed exactly when the expected hash is absent,
blank or usable, or the policy is paused, or it does not trust the root. -/
theorem manifest_fails_closed (entry : IntegrityManifestEntry) (policy : IntegrityTrustedRoot) :
    (∀ (text : JsString) (rounds : Nat), text.length ≤ rounds →
      stripRound (stripRounds rounds text) = stripRounds rounds text ∧
        stripRounds rounds text = stripRounds text.length text) ∧
    (∀ input, normalizeIntegrityToken (normalizeIntegrityToken input) =
      normalizeIntegrityToken input) ∧
    (FailsClosed entry policy ↔
      (policy.paused = false → TrustsRoot policy entry → ExpectationUsable policy)) := by
  refine ⟨?_, ?_, failsClosed_iff⟩
  · intro text rounds enough
    have ended := stripRound_of_bare (stripRounds_bare enough)
    exact ⟨ended, stripRounds_enough enough (Nat.le_refl _)⟩
  · intro input
    cases normalized : normalizeIntegrityToken input with
    | none => rfl
    | some token => exact normalizeIntegrityToken_idem normalized

/-- An entry whose tokens are spelled with prefixes. -/
def prefixedEntry : IntegrityManifestEntry where
  root := some (js "  SHA256:0xROOT-A  ")
  uriHash := some (js " 0xHASH-A ")

def prefixedPolicy : IntegrityTrustedRoot where
  activeRoot := some (js "root-a")
  expectedHash := some (js "sha256:hash-a")

theorem prefixed_fails_closed : verifyManifestEntry prefixedEntry prefixedPolicy = .ok () ∧
    FailsClosed prefixedEntry prefixedPolicy := by
  refine ⟨by decide, (manifest_fails_closed prefixedEntry prefixedPolicy).2.2.mpr ?_⟩
  intro _ _ expected expects
  obtain rfl : js "sha256:hash-a" = expected := Option.some.inj expects.1
  decide

/-- An expectation that is nothing but a prefix accepts any hash. -/
theorem bare_prefix_expected :
    ¬∀ (entry : IntegrityManifestEntry) (policy : IntegrityTrustedRoot),
      FailsClosed entry policy := by
  intro claim
  have closed := claim { root := some (js "root-a"), hash := some (js "hash-b") }
    { activeRoot := some (js "root-a"), expectedHash := some (js "sha256:") }
  have verified : verifyManifestEntry { root := some (js "root-a"), hash := some (js "hash-b") }
      { activeRoot := some (js "root-a"), expectedHash := some (js "sha256:") } = .ok () := by
    decide
  obtain ⟨-, -, matching⟩ := closed verified
  obtain ⟨token, normalized, -⟩ := matching (js "sha256:") ⟨rfl, by decide⟩
  have unusable : normalizeIntegrityToken (some (js "sha256:")) = none := by decide
  rw [unusable] at normalized
  cases normalized

end DarkmeshGateway.Gateway.IntegrityVerifier
