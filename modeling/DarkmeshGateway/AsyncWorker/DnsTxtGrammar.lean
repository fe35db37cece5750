import Mathlib.Data.List.Nodup
import Mathlib.Data.List.Perm.Basic
import DarkmeshGateway.AsyncWorker.DnsTxt
import DarkmeshGateway.Foundation.Js.Segment

/-!
Contract: the grammar of the `_darkmesh` TXT record.

Owns the pairs of a record as a list up to order, the records that the parser
accepts and the rearrangements that leave the envelope alone.

Does not own which error a refused record gets.
-/

namespace DarkmeshGateway.AsyncWorker.DnsTxtGrammar

open Foundation
open Foundation.Js
open Foundation.Outcome
open AsyncWorker.DnsTxt

/-! ### The grammar -/

/-- The key and the value of a segment: split at the first `=`, both trimmed, the
key in lower case. -/
def pairOf (segment : JsString) : Option (JsString × JsString) :=
  (halves 61 segment).map fun half => (toLowerCase (trim half.1), trim half.2)

/-- The pairs of the segments that are not blank. -/
def pairsOf (segments : List JsString) : List (Option (JsString × JsString)) :=
  (segments.filter fun segment => trim segment ≠ []).map pairOf

/-- The four pairs of an envelope whose `ttl` is written as the given text. -/
def fourPairs (envelope : DmTxtEnvelope) (ttl : JsString) : Pairs :=
  [(js "v", js "dm1"), (js "cfg", envelope.cfg), (js "kid", envelope.kid), (js "ttl", ttl)]

/-- Digits that denote the number of seconds of an envelope. -/
structure TtlText (ttl : JsString) (seconds : Int) : Prop where
  present : ttl ≠ []
  digits : ttl.all isDigit = true
  value : seconds = digitsValue ttl
  bounds : minTtlSeconds ≤ seconds ∧ seconds ≤ maxTtlSeconds

/-- The record is written in the grammar and stands for the envelope: its segments
are one each of the four pairs, in some order. -/
def Reads (raw : JsString) (envelope : DmTxtEnvelope) : Prop :=
  ∃ ttl, (pairsOf (raw.splitOn 59)).Perm ((fourPairs envelope ttl).map some) ∧
    isTxId envelope.cfg = true ∧ isTxId envelope.kid = true ∧ TtlText ttl envelope.ttl

/-! ### Segments -/

theorem pairOf_trim (segment : JsString) : pairOf (trim segment) = pairOf segment := by
  cases split : halves 61 segment with
  | some half =>
      obtain ⟨left, right⟩ := half
      obtain ⟨rfl, free⟩ := (halves_eq_some_iff ..).mp split
      have visible : isWhitespace 61 = false := by decide
      have kept : (61 : CodeUnit) ∉ left.dropWhile isWhitespace :=
        fun member => free ((List.dropWhile_suffix _).subset member)
      rw [trim_around visible, pairOf, pairOf, halves_append kept, split]
      simp
  | none =>
      have none : (61 : CodeUnit) ∉ segment := by
        intro member
        simp [halves, member] at split
      have free : (61 : CodeUnit) ∉ trim segment := by
        intro member
        apply none
        exact (List.dropWhile_suffix _).subset ((List.rdropWhile_prefix _ _).subset member)
      rw [pairOf, pairOf, split, halves, if_neg free]

/-- The pairs depend on the trimmed segments only. -/
theorem pairsOf_map_trim (segments : List JsString) :
    pairsOf (segments.map trim) = pairsOf segments := by
  induction segments with
  | nil => rfl
  | cons segment rest inductionHypothesis =>
      unfold pairsOf at inductionHypothesis ⊢
      rw [List.map_cons, List.filter_cons, List.filter_cons, trim_trim]
      split
      · rw [List.map_cons, List.map_cons, inductionHypothesis, pairOf_trim]
      · exact inductionHypothesis

theorem pairsOf_cons_blank {segment : JsString} (blank : trim segment = [])
    (segments : List JsString) : pairsOf (segment :: segments) = pairsOf segments := by
  rw [pairsOf, List.filter_cons_of_neg (by simpa using blank), pairsOf]

theorem pairsOf_cons_present {segment : JsString} (present : trim segment ≠ [])
    (segments : List JsString) :
    pairsOf (segment :: segments) = pairOf segment :: pairsOf segments := by
  rw [pairsOf, List.filter_cons_of_pos (by simpa using present), List.map_cons, pairsOf]

/-- A text with an `=` is not blank. -/
theorem trim_ne_nil_of_halves {segment : JsString} {half : JsString × JsString}
    (split : halves 61 segment = some half) : trim segment ≠ [] := by
  obtain ⟨left, right⟩ := half
  obtain ⟨rfl, -⟩ := (halves_eq_some_iff ..).mp split
  rw [trim_around (by decide)]
  simp

/-! ### The loop over the segments -/

/-- A pair that the loop takes. -/
def Pairable (pair : JsString × JsString) : Prop := pair.1 ∈ txtKeys ∧ pair.2 ≠ []

theorem equalsIndex_append {left : JsString} (free : (61 : CodeUnit) ∉ left) (right : JsString) :
    equalsIndex (left ++ 61 :: right) = left.length := by
  rw [equalsIndex, if_pos (by simp), List.idxOf_append_of_notMem free, List.idxOf_cons_self]
  simp

/-- The two refused places of the first `=`. -/
theorem equals_at_edge_iff {left : JsString} (free : (61 : CodeUnit) ∉ left) (right : JsString) :
    (equalsIndex (left ++ 61 :: right) ≤ 0 ∨
        equalsIndex (left ++ 61 :: right) = (left ++ 61 :: right).length - 1) ↔
      left = [] ∨ right = [] := by
  rw [equalsIndex_append free, ← List.length_eq_zero_iff, ← List.length_eq_zero_iff (l := right)]
  simp only [List.length_append, List.length_cons]
  omega

/-- The checks of the loop on a pair whose value is not empty. -/
private theorem checked_pair_iff {unknown duplicate : ValidationError} {name value : JsString}
    (valued : value ≠ []) (result pairs : Pairs) (segments : List JsString) :
    (if !txtKeys.contains name then .error unknown
      else if (result.lookup name).isSome then .error duplicate
      else parsePairs (result ++ [(name, value)]) segments) = .ok pairs ↔
      Pairable (name, value) ∧ result.lookup name = none ∧
        parsePairs (result ++ [(name, value)]) segments = .ok pairs := by
  by_cases known : name ∈ txtKeys
  · rw [if_neg (by simpa using known)]
    cases earlier : result.lookup name with
    | none =>
        rw [if_neg (by simp)]
        constructor
        · intro accepted
          exact ⟨⟨known, valued⟩, rfl, accepted⟩
        · rintro ⟨-, -, accepted⟩
          exact accepted
    | some old => simp
  · rw [if_pos (by simpa using known)]
    simp [Pairable, known]

/-- What the loop does with a segment that is not blank. -/
theorem parsePairs_cons_iff {segment : JsString} (present : trim segment ≠ [])
    (result pairs : Pairs) (segments : List JsString) :
    parsePairs result (segment :: segments) = .ok pairs ↔
      ∃ pair, pairOf segment = some pair ∧ Pairable pair ∧ result.lookup pair.1 = none ∧
        parsePairs (result ++ [pair]) segments = .ok pairs := by
  have visible : isWhitespace 61 = false := by decide
  simp only [parsePairs, if_neg present]
  cases split : halves 61 segment with
  | none =>
      have none : (61 : CodeUnit) ∉ trim segment := by
        intro member
        have inside : (61 : CodeUnit) ∈ segment :=
          (List.dropWhile_suffix _).subset ((List.rdropWhile_prefix _ _).subset member)
        simp [halves, inside] at split
      rw [equalsIndex, if_neg none]
      simp [pairOf, split]
  | some half =>
      obtain ⟨left, right⟩ := half
      obtain ⟨rfl, free⟩ := (halves_eq_some_iff ..).mp split
      have kept : (61 : CodeUnit) ∉ left.dropWhile isWhitespace :=
        fun member => free ((List.dropWhile_suffix _).subset member)
      have pair : pairOf (left ++ 61 :: right) = some (toLowerCase (trim left), trim right) := by
        rw [pairOf, split]
        rfl
      have key : trim (left.dropWhile isWhitespace) = trim left := trim_dropWhile left
      have value : trim (right.rdropWhile isWhitespace) = trim right := trim_rdropWhile right
      have filled : right.rdropWhile isWhitespace = [] ↔ trim right = [] :=
        rdropWhile_eq_nil_iff right
      rw [trim_around visible, pair]
      generalize left.dropWhile isWhitespace = front at kept key
      generalize right.rdropWhile isWhitespace = rear at value filled
      by_cases edge : front = [] ∨ rear = []
      · -- The key or the value is empty: no pair of the grammar has such a half.
        rw [if_pos ((equals_at_edge_iff kept rear).mpr edge)]
        constructor
        · intro impossible
          cases impossible
        · rintro ⟨found, same, pairable, -⟩
          obtain rfl := Option.some.inj same
          obtain ⟨known, valued⟩ := pairable
          rcases edge with rfl | rfl
          · have unknown : toLowerCase (trim []) ∉ txtKeys := by decide
            rw [← key] at known
            exact absurd known unknown
          · exact absurd (filled.mp rfl) valued
      · have valued : trim right ≠ [] := fun empty => edge (.inr (filled.mpr empty))
        have taken : (front ++ 61 :: rear).take (front.length : Int).toNat = front := by simp
        have dropped : (front ++ 61 :: rear).drop ((front.length : Int).toNat + 1) = rear := by simp
        rw [if_neg (fun inside => edge ((equals_at_edge_iff kept rear).mp inside)),
          equalsIndex_append kept, taken, dropped, key, value]
        exact (checked_pair_iff valued result pairs segments).trans (by simp)

/-- A key is new to a list with one more pair if it is new to the list and not
the pair's own. -/
theorem lookup_append_pair_eq_none_iff (result : Pairs) (pair : JsString × JsString)
    (key : JsString) :
    (result ++ [pair]).lookup key = none ↔ result.lookup key = none ∧ key ≠ pair.1 := by
  rw [List.lookup_append, Option.or_eq_none_iff]
  simp

/-- The loop accepts segments whose pairs have known, different and new keys. -/
theorem parsePairs_eq_ok_iff (segments : List JsString) (result pairs : Pairs) :
    parsePairs result segments = .ok pairs ↔
      ∃ found, pairs = result ++ found ∧ pairsOf segments = found.map some ∧
        (∀ pair ∈ found, Pairable pair ∧ result.lookup pair.1 = none) ∧
        (found.map Prod.fst).Nodup := by
  induction segments generalizing result with
  | nil =>
      constructor
      · intro accepted
        obtain rfl := Except.ok.inj accepted
        exact ⟨[], by simp, rfl, by simp, List.nodup_nil⟩
      · rintro ⟨found, rfl, pairs, -, -⟩
        obtain rfl : found = [] := List.map_eq_nil_iff.mp pairs.symm
        rw [List.append_nil]
        rfl
  | cons segment rest inductionHypothesis =>
      by_cases blank : trim segment = []
      · rw [pairsOf_cons_blank blank, ← inductionHypothesis]
        simp [parsePairs, blank]
      · rw [parsePairs_cons_iff blank, pairsOf_cons_present blank]
        constructor
        · rintro ⟨pair, read, pairable, fresh, accepted⟩
          obtain ⟨found, rfl, pairs, each, distinct⟩ := (inductionHypothesis _).mp accepted
          refine ⟨pair :: found, by simp, by rw [read, pairs]; rfl, ?_, ?_⟩
          · intro other member
            rcases List.mem_cons.mp member with rfl | later
            · exact ⟨pairable, fresh⟩
            · have kept := each other later
              rw [lookup_append_pair_eq_none_iff] at kept
              exact ⟨kept.1, kept.2.1⟩
          · rw [List.map_cons, List.nodup_cons]
            refine ⟨?_, distinct⟩
            intro member
            obtain ⟨other, later, same⟩ := List.mem_map.mp member
            have kept := (each other later).2
            rw [lookup_append_pair_eq_none_iff] at kept
            exact kept.2 same
        · rintro ⟨found, rfl, pairs, each, distinct⟩
          cases found with
          | nil => cases pairs
          | cons pair found =>
              obtain ⟨read, pairs⟩ := List.cons.inj pairs
              have first := each pair List.mem_cons_self
              refine ⟨pair, read, first.1, first.2, (inductionHypothesis _).mpr ?_⟩
              rw [List.map_cons, List.nodup_cons] at distinct
              refine ⟨found, by simp, pairs, ?_, distinct.2⟩
              intro other later
              have kept := each other (List.mem_cons_of_mem _ later)
              have differs : other.1 ≠ pair.1 := by
                intro same
                exact distinct.1 (List.mem_map.mpr ⟨other, later, same⟩)
              exact ⟨kept.1, (lookup_append_pair_eq_none_iff ..).mpr ⟨kept.2, differs⟩⟩

/-! ### The time to live -/

/-- Rounding keeps the numbers below `2 ^ 53` and brings no other below `2 ^ 52`. -/
theorem nearestDouble_small {value : Nat} (small : nearestDouble value < 2 ^ 52) :
    nearestDouble value = value := by
  by_cases exact : value < 2 ^ 53
  · rw [nearestDouble, if_pos exact]
  · have top : 53 ≤ value.log2 := by
      rw [Nat.le_log2 (by omega)]
      omega
    have power : 2 ^ value.log2 ≤ value := Nat.log2_self_le (by omega)
    have half : 2 * 2 ^ (value.log2 - 52) ≤ value := by
      calc 2 * 2 ^ (value.log2 - 52) = 2 ^ (value.log2 - 51) := by
            rw [← pow_succ']
            congr 1
            omega
        _ ≤ 2 ^ value.log2 := Nat.pow_le_pow_right (by omega) (by omega)
        _ ≤ value := power
    have division := Nat.div_add_mod value (2 ^ (value.log2 - 52))
    have remainder := Nat.mod_lt value (Nat.two_pow_pos (value.log2 - 52))
    rw [Nat.mul_comm] at division
    rw [nearestDouble, if_neg exact] at small
    dsimp only at small
    split at small
    next => omega
    next =>
      rw [Nat.add_mul] at small
      omega

theorem isWhitespace_of_isDigit {unit : CodeUnit} (digit : isDigit unit = true) :
    isWhitespace unit = false := by
  simp only [isDigit, Bool.and_eq_true, decide_eq_true_eq] at digit
  simp only [isWhitespace, Bool.or_eq_false_iff, Bool.and_eq_false_iff, decide_eq_false_iff_not,
    beq_eq_false_iff_ne, ne_eq]
  omega

/-- Digits read as the double nearest to the number that they write. -/
theorem parseInt10_of_digits {text : JsString} (present : text ≠ [])
    (digits : text.all isDigit = true) :
    parseInt10 text = some (nearestDouble (digitsValue text) : Int) := by
  cases text with
  | nil => exact absurd rfl present
  | cons first rest =>
      have each := List.all_eq_true.mp digits
      have visible := isWhitespace_of_isDigit (each first List.mem_cons_self)
      have digit := each first List.mem_cons_self
      simp only [isDigit, Bool.and_eq_true, decide_eq_true_eq] at digit
      have notMinus : (first == 45) = false := by
        rw [beq_eq_false_iff_ne]
        rintro rfl
        simp at digit
      have notPlus : (first == 43) = false := by
        rw [beq_eq_false_iff_ne]
        rintro rfl
        simp at digit
      have all : (first :: rest).takeWhile isDigit = first :: rest :=
        List.takeWhile_eq_self_iff.mpr each
      simp [parseInt10, visible, notMinus, notPlus, all]

/-- The reading of `ttl` and its bounds. -/
theorem ttlText_iff (ttl : JsString) (seconds : Int) :
    TtlText ttl seconds ↔
      (¬(ttl = [] ∨ (!ttl.all isDigit) = true)) ∧
        ¬((parseInt10 ttl).getD 0 < minTtlSeconds ∨ (parseInt10 ttl).getD 0 > maxTtlSeconds) ∧
        (parseInt10 ttl).getD 0 = seconds := by
  by_cases written : ttl ≠ [] ∧ ttl.all isDigit = true
  · have number := parseInt10_of_digits written.1 written.2
    have bounds : minTtlSeconds = 60 ∧ maxTtlSeconds = 86400 := ⟨rfl, rfl⟩
    have small := @nearestDouble_small (digitsValue ttl)
    rw [number, Option.getD_some]
    constructor
    · intro text
      have value := text.value
      have inside := text.bounds
      have exact : nearestDouble (digitsValue ttl) = digitsValue ttl := by
        rw [nearestDouble, if_pos (by omega)]
      refine ⟨by simp [written], by omega, by omega⟩
    · rintro ⟨-, inside, rfl⟩
      have exact := small (by omega)
      exact ⟨written.1, written.2, by omega, by omega⟩
  · constructor
    · intro text
      exact absurd ⟨text.present, text.digits⟩ written
    · rintro ⟨digits, -, -⟩
      exact absurd (by simpa using digits) written

/-! ### What is accepted -/

theorem requiredField_eq_ok_iff (pairs : Pairs) (key value : JsString) :
    requiredField pairs key = .ok value ↔ pairs.lookup key = some value ∧ value ≠ [] := by
  unfold requiredField
  cases pairs.lookup key with
  | none => simp
  | some found =>
      cases found with
      | nil => simp [eq_comm]
      | cons unit rest =>
          constructor
          · intro accepted
            obtain rfl := Except.ok.inj accepted
            exact ⟨rfl, by simp⟩
          · rintro ⟨same, -⟩
            obtain rfl := Option.some.inj same
            rfl

theorem parseDmTxtPayload_eq_ok_iff (raw : JsString) (parsed : ParsedTxtPairs) :
    parseDmTxtPayload raw = .ok parsed ↔
      trim raw ≠ [] ∧ ∃ pairs, parsePairs [] ((trim raw).splitOn 59) = .ok pairs ∧
        requiredField pairs (js "v") = .ok parsed.v ∧
        requiredField pairs (js "cfg") = .ok parsed.cfg ∧
        requiredField pairs (js "kid") = .ok parsed.kid ∧
        requiredField pairs (js "ttl") = .ok parsed.ttl := by
  simp only [parseDmTxtPayload, guard_eq_ok, bind_eq_ok, pure_eq_ok]
  constructor
  · rintro ⟨present, pairs, split, v, vOk, cfg, cfgOk, kid, kidOk, ttl, ttlOk, rfl⟩
    exact ⟨present, pairs, split, vOk, cfgOk, kidOk, ttlOk⟩
  · rintro ⟨present, pairs, split, vOk, cfgOk, kidOk, ttlOk⟩
    exact ⟨present, pairs, split, _, vOk, _, cfgOk, _, kidOk, _, ttlOk, rfl⟩

theorem validateDmTxtEnvelope_eq_ok_iff (parsed : ParsedTxtPairs) (envelope : DmTxtEnvelope) :
    validateDmTxtEnvelope parsed = .ok envelope ↔
      parsed.v = js "dm1" ∧ parsed.cfg = envelope.cfg ∧ parsed.kid = envelope.kid ∧
        isTxId envelope.cfg = true ∧ isTxId envelope.kid = true ∧
        TtlText parsed.ttl envelope.ttl := by
  simp only [validateDmTxtEnvelope, guard_eq_ok, pure_eq_ok, ttlText_iff]
  constructor
  · rintro ⟨version, cfg, kid, digits, bounds, rfl⟩
    exact ⟨by simpa using version, rfl, rfl, by simpa using cfg, by simpa using kid, digits,
      bounds, rfl⟩
  · rintro ⟨version, cfgSame, kidSame, cfg, kid, digits, bounds, value⟩
    refine ⟨by simpa using version, by simpa [cfgSame] using cfg, by simpa [kidSame] using kid,
      digits, bounds, ?_⟩
    rw [cfgSame, kidSame, value]

/-- The segments of the trimmed record give the pairs of the record. -/
theorem pairsOf_splitOn_trim (raw : JsString) :
    pairsOf ((trim raw).splitOn 59) = pairsOf (raw.splitOn 59) := by
  rw [← pairsOf_map_trim, map_trim_splitOn_trim (by decide), pairsOf_map_trim]

theorem mem_iff_lookup {found : Pairs} (distinct : (found.map Prod.fst).Nodup)
    (key value : JsString) : (key, value) ∈ found ↔ found.lookup key = some value := by
  rw [List.lookup_eq_some_iff]
  constructor
  · intro member
    obtain ⟨before, after, rfl⟩ := List.append_of_mem member
    refine ⟨before, after, rfl, ?_⟩
    rw [List.map_append, List.map_cons, List.nodup_append] at distinct
    intro pair earlier
    have differs := distinct.2.2 pair.1 (List.mem_map_of_mem earlier) key List.mem_cons_self
    simpa using differs.symm
  · rintro ⟨before, after, rfl, -⟩
    simp

theorem fourPairs_keys (envelope : DmTxtEnvelope) (ttl : JsString) :
    (fourPairs envelope ttl).map Prod.fst = txtKeys := rfl

theorem txtKeys_nodup : txtKeys.Nodup := by decide

/-- Pairs with different keys are the four pairs, in some order, when those are
what their fields hold. -/
theorem perm_fourPairs_iff {found : Pairs} (distinct : (found.map Prod.fst).Nodup)
    (known : ∀ pair ∈ found, pair.1 ∈ txtKeys) (envelope : DmTxtEnvelope) (ttl : JsString) :
    found.Perm (fourPairs envelope ttl) ↔
      found.lookup (js "v") = some (js "dm1") ∧ found.lookup (js "cfg") = some envelope.cfg ∧
        found.lookup (js "kid") = some envelope.kid ∧ found.lookup (js "ttl") = some ttl := by
  have holds := mem_iff_lookup distinct
  have foundNodup : found.Nodup := List.Nodup.of_map _ distinct
  have fourNodup : (fourPairs envelope ttl).Nodup := by
    apply List.Nodup.of_map Prod.fst
    rw [fourPairs_keys]
    exact txtKeys_nodup
  rw [List.perm_ext_iff_of_nodup foundNodup fourNodup]
  constructor
  · intro same
    simp only [← holds, same]
    simp [fourPairs]
  · rintro ⟨v, cfg, kid, ttlFound⟩ ⟨key, value⟩
    constructor
    · intro member
      have listed := known _ member
      rw [holds] at member
      simp only [txtKeys, List.mem_cons, List.not_mem_nil, or_false] at listed
      rcases listed with rfl | rfl | rfl | rfl
      · rw [v] at member
        simp [fourPairs, Option.some.inj member]
      · rw [cfg] at member
        simp [fourPairs, Option.some.inj member]
      · rw [kid] at member
        simp [fourPairs, Option.some.inj member]
      · rw [ttlFound] at member
        simp [fourPairs, Option.some.inj member]
    · intro member
      rw [holds]
      simp only [fourPairs, List.mem_cons, Prod.mk.injEq, List.not_mem_nil, or_false] at member
      rcases member with ⟨rfl, rfl⟩ | ⟨rfl, rfl⟩ | ⟨rfl, rfl⟩ | ⟨rfl, rfl⟩
      · exact v
      · exact cfg
      · exact kid
      · exact ttlFound

theorem isTxId_ne_nil {text : JsString} (id : isTxId text = true) : text ≠ [] := by
  rintro rfl
  exact absurd id (by decide)

/-- Four pairs with accepted values are taken by the loop. -/
theorem pairable_fourPairs {envelope : DmTxtEnvelope} {ttl : JsString}
    (cfg : envelope.cfg ≠ []) (kid : envelope.kid ≠ []) (text : ttl ≠ []) :
    ∀ pair ∈ fourPairs envelope ttl, Pairable pair := by
  intro pair member
  refine ⟨?_, ?_⟩
  · rw [← fourPairs_keys envelope ttl]
    exact List.mem_map_of_mem member
  · simp only [fourPairs, List.mem_cons, List.not_mem_nil, or_false] at member
    rcases member with rfl | rfl | rfl | rfl
    · decide
    · exact cfg
    · exact kid
    · exact text

/-- The parser accepts exactly the records of the grammar, with their envelope. -/
theorem accepted_iff_reads (raw : JsString) (envelope : DmTxtEnvelope) :
    parseAndValidateDmTxtEnvelope raw = .ok envelope ↔ Reads raw envelope := by
  simp only [parseAndValidateDmTxtEnvelope, bind_eq_ok, parseDmTxtPayload_eq_ok_iff,
    validateDmTxtEnvelope_eq_ok_iff, parsePairs_eq_ok_iff, requiredField_eq_ok_iff,
    pairsOf_splitOn_trim]
  constructor
  · rintro ⟨parsed, ⟨-, found, ⟨_, rfl, read, each, distinct⟩, v, cfg, kid, ttl⟩,
      version, cfgSame, kidSame, cfgId, kidId, seconds⟩
    refine ⟨parsed.ttl, ?_, cfgId, kidId, seconds⟩
    rw [version] at v
    rw [cfgSame] at cfg
    rw [kidSame] at kid
    have known : ∀ pair ∈ found, pair.1 ∈ txtKeys := fun pair member => (each pair member).1.1
    rw [read]
    apply List.Perm.map
    exact (perm_fourPairs_iff distinct known envelope parsed.ttl).mpr ⟨v.1, cfg.1, kid.1, ttl.1⟩
  · rintro ⟨ttl, read, cfg, kid, seconds⟩
    have present : trim raw ≠ [] := by
      intro blank
      rw [← pairsOf_splitOn_trim, blank] at read
      have length := read.length_eq
      simp [pairsOf, fourPairs] at length
    have reordered : Relation.Comp (· = List.map some ·) List.Perm (pairsOf (raw.splitOn 59))
        (fourPairs envelope ttl) := by
      rw [List.eq_map_comp_perm]
      exact read
    obtain ⟨found, written, order⟩ := reordered
    have distinct : (found.map Prod.fst).Nodup := by
      rw [(order.map Prod.fst).nodup_iff, fourPairs_keys]
      exact txtKeys_nodup
    have cfgText := isTxId_ne_nil cfg
    have kidText := isTxId_ne_nil kid
    have pairable : ∀ pair ∈ found, Pairable pair := fun pair member =>
      pairable_fourPairs cfgText kidText seconds.present pair (order.mem_iff.mp member)
    have known : ∀ pair ∈ found, pair.1 ∈ txtKeys := fun pair member => (pairable pair member).1
    have fields := (perm_fourPairs_iff distinct known envelope ttl).mp order
    have version : js "dm1" ≠ [] := by decide
    refine ⟨⟨js "dm1", envelope.cfg, envelope.kid, ttl⟩, ⟨present, found, ⟨found, rfl, written,
      fun pair member => ⟨pairable pair member, rfl⟩, distinct⟩, ⟨fields.1, version⟩,
      ⟨fields.2.1, cfgText⟩, ⟨fields.2.2.1, kidText⟩, fields.2.2.2, seconds.present⟩,
      rfl, rfl, rfl, cfg, kid, seconds⟩

/-! ### Rearrangements -/

/-- Two segments of one key and value: white space around them and the case of the
key may differ. -/
def Respelled (segment other : JsString) : Prop :=
  ∃ left right left' right', segment = left ++ 61 :: right ∧ other = left' ++ 61 :: right' ∧
    (61 : CodeUnit) ∉ left ∧ (61 : CodeUnit) ∉ left' ∧
    toLowerCase (trim left) = toLowerCase (trim left') ∧ trim right = trim right'

/-- Changes of a list of segments that keep its meaning. -/
inductive Arrangement : List JsString → List JsString → Prop
  | permute {segments others : List JsString} (order : segments.Perm others) :
      Arrangement segments others
  | blank {segment : JsString} (segments : List JsString) (empty : trim segment = []) :
      Arrangement segments (segment :: segments)
  | respell {segment other : JsString} (segments : List JsString)
      (same : Respelled segment other) : Arrangement (segment :: segments) (other :: segments)
  | back {segments others : List JsString} (change : Arrangement segments others) :
      Arrangement others segments
  | next {first second third : List JsString} (head : Arrangement first second)
      (tail : Arrangement second third) : Arrangement first third

/-- A rearrangement has the same pairs up to order. -/
theorem Arrangement.pairs {segments others : List JsString} (change : Arrangement segments others) :
    (pairsOf segments).Perm (pairsOf others) := by
  induction change with
  | permute order => exact (order.filter _).map _
  | blank segments empty => rw [pairsOf_cons_blank empty]
  | respell segments same =>
      obtain ⟨left, right, left', right', rfl, rfl, free, free', keys, values⟩ := same
      have first := halves_append free right
      have second := halves_append free' right'
      rw [pairsOf_cons_present (trim_ne_nil_of_halves first),
        pairsOf_cons_present (trim_ne_nil_of_halves second), pairOf, pairOf, first, second,
        Option.map_some, Option.map_some, keys, values]
  | back change order => exact order.symm
  | next head tail headOrder tailOrder => exact headOrder.trans tailOrder

/-- Two records whose segments are a rearrangement of each other. -/
def Rearranged (raw other : JsString) : Prop :=
  Arrangement (raw.splitOn 59) (other.splitOn 59)

theorem Reads.rearranged {raw other : JsString} {envelope : DmTxtEnvelope}
    (change : Rearranged raw other) (reads : Reads raw envelope) : Reads other envelope := by
  obtain ⟨ttl, order, accepted⟩ := reads
  exact ⟨ttl, (Arrangement.pairs change).symm.trans order, accepted⟩

/-- The TXT parser accepts exactly its grammar, and a rearrangement of a record is
accepted with the same envelope. -/
theorem txt_parser_exact (raw : JsString) :
    (∀ envelope, parseAndValidateDmTxtEnvelope raw = .ok envelope ↔ Reads raw envelope) ∧
    ∀ other, Rearranged raw other → ∀ envelope,
      (parseAndValidateDmTxtEnvelope raw = .ok envelope ↔
        parseAndValidateDmTxtEnvelope other = .ok envelope) := by
  refine ⟨accepted_iff_reads raw, ?_⟩
  intro other change envelope
  rw [accepted_iff_reads, accepted_iff_reads]
  constructor
  · exact Reads.rearranged change
  · exact Reads.rearranged (Arrangement.back change)

/-- A record, and one with a blank segment and the last segment respelled in front. -/
def record : JsString :=
  js "v=dm1;cfg=cfg-0123456789012345678901234567;kid=kid-0123456789012345678901234567;ttl=300"

def rearrangedRecord : JsString :=
  js "; TTL = 300 ;v=dm1;cfg=cfg-0123456789012345678901234567;kid=kid-0123456789012345678901234567"

theorem rearranged_record : Rearranged record rearrangedRecord := by
  let others : List JsString := [js "v=dm1", js "cfg=cfg-0123456789012345678901234567",
    js "kid=kid-0123456789012345678901234567"]
  have permuted : Arrangement (record.splitOn 59) (js "ttl=300" :: others) :=
    .permute (by decide +kernel)
  have respelled : Arrangement (js "ttl=300" :: others) (js " TTL = 300 " :: others) :=
    .respell others ⟨js "ttl", js "300", js " TTL ", js " 300 ", rfl, rfl, by decide, by decide,
      rfl, rfl⟩
  have parts : rearrangedRecord.splitOn 59 = [] :: js " TTL = 300 " :: others := by decide +kernel
  rw [Rearranged, parts]
  exact permuted.next (respelled.next (.blank _ rfl))

theorem record_rearranged_accepted :
    parseAndValidateDmTxtEnvelope rearrangedRecord =
      .ok ⟨js "cfg-0123456789012345678901234567", js "kid-0123456789012345678901234567", 300⟩ := by
  have accepted : parseAndValidateDmTxtEnvelope record =
      .ok ⟨js "cfg-0123456789012345678901234567", js "kid-0123456789012345678901234567", 300⟩ := by
    decide +kernel
  exact ((txt_parser_exact record).2 rearrangedRecord rearranged_record _).mp accepted

end DarkmeshGateway.AsyncWorker.DnsTxtGrammar
