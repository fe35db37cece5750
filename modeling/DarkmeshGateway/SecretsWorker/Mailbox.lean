import DarkmeshGateway.Foundation.Refinement
import DarkmeshGateway.SecretsWorker.Inbox
import Mathlib.Data.Set.Card

/-!
Contract: the mailbox that the inbox routes present to their callers.

Owns the envelopes and used nonces of a mailbox, the answers it allows to an
inbox request, and what every conversation of allowed answers has in common:
which post a delivery answers, and when a nonce is accepted again. A nonce is
kept by a lock object where those are bound, and by a marker otherwise.

Does not own the records the envelopes are kept in, the rate limits and the
spray counters: a refusal for their sake is allowed at any time.
-/

namespace DarkmeshGateway.SecretsWorker.Mailbox

open Foundation
open Foundation.Js
open Foundation.Refinement
open SecretsWorker.Fields
open SecretsWorker.Inbox

/-! ### Mailboxes -/

structure Envelope where
  payload : JsString
  exp : Expiry
deriving DecidableEq

/-- A subject and a nonce. -/
abbrev Slot := JsString × JsString

/-- The mark of a nonce: the second from which it is accepted again, and the last
one at which it is listed. -/
structure Mark where
  until_ : Nat
  listed : Nat
deriving DecidableEq

/-- The stored envelopes, and the marks of the nonces. -/
structure Box where
  envelopes : Slot → Option Envelope
  marks : Slot → Option Mark

namespace Box

def empty : Box := ⟨fun _ => none, fun _ => none⟩

/-- The envelope that can still be fetched. -/
def live (box : Box) (now : Nat) (slot : Slot) : Option Envelope :=
  (box.envelopes slot).filter fun envelope => envelope.exp.alive now

/-- The nonce cannot be posted under yet. -/
def used (box : Box) (now : Nat) (slot : Slot) : Bool :=
  (box.marks slot).any fun mark => now < mark.until_

/-- The mark of the nonce is listed. -/
def listed (box : Box) (now : Nat) (slot : Slot) : Bool :=
  (box.marks slot).any fun mark => now ≤ mark.listed

def liveNonces (box : Box) (now : Nat) (subject : JsString) : Set JsString :=
  {nonce | (box.live now (subject, nonce)).isSome}

def markedNonces (box : Box) (now : Nat) (subject : JsString) : Set JsString :=
  {nonce | box.listed now (subject, nonce) = true}

def deposit (box : Box) (slot : Slot) (envelope : Envelope) : Box :=
  { box with envelopes := Function.update box.envelopes slot (some envelope) }

def remove (box : Box) (slot : Slot) : Box :=
  { box with envelopes := Function.update box.envelopes slot none }

def mark (box : Box) (slot : Slot) (mark : Mark) : Box :=
  { box with marks := Function.update box.marks slot (some mark) }

open Classical in
/-- Without these envelopes and these marks of a subject. -/
noncomputable def discard (box : Box) (subject : JsString) (gone goneMarks : Set JsString) : Box where
  envelopes slot := if slot.1 = subject ∧ slot.2 ∈ gone then none else box.envelopes slot
  marks slot := if slot.1 = subject ∧ slot.2 ∈ goneMarks then none else box.marks slot

end Box

/-! ### Allowed answers -/

/-- The request counts against the rate limit of its address. -/
def Metered : Request → Prop
  | .post _ _ _ _ _ _ => True
  | .get _ _ _ => True
  | .forget _ => False

/-- How long a nonce is not accepted again: a lock object lasts for a day at
most, and a marker still counts in its last second. -/
def reuseAfter (bound : Bool) (ttl : Int) : Int := if bound then min 86400 ttl else ttl + 1

theorem reuseAfter_pos {bound : Bool} {ttl : Int} (positive : 0 < ttl) :
    0 < reuseAfter bound ttl := by
  unfold reuseAfter
  split <;> omega

/-- The mark of a nonce that is accepted. -/
def newMark (bound : Bool) (now : Nat) (ttl : Int) : Mark where
  until_ := (now + reuseAfter bound ttl).toNat
  listed := (now + ttl).toNat

/-- How many keys of a page of so many, which may hold one more than the limit,
are deleted when there are too many. -/
def pageLength (limit : Int) (count : Nat) : Nat :=
  sliceEnd (sliceEnd count (some (limit + 1))) (some limit)

theorem pageLength_le (limit : Int) (count : Nat) : pageLength limit count ≤ count := by
  simp only [pageLength, sliceEnd]
  omega

/-- The answers a mailbox may give, each with the mailbox that follows. -/
inductive Reacts (env : Env) (bound : Bool) (box : Box) :
    Call → Except HttpException Response → Box → Prop
  | refused {now : Nat} {request : Request} {failure : HttpException} :
      Reacts env bound box ⟨now, .error failure, request⟩ (.error failure) box
  | limited {now : Nat} {request : Request} (metered : Metered request) :
      Reacts env bound box ⟨now, .ok (), request⟩ (.error ⟨429, "rate_limited"⟩) box
  | fetched {now : Nat} {ip subject nonce : JsString} {envelope : Envelope}
      (held : box.live now (subject, nonce) = some envelope) :
      Reacts env bound box ⟨now, .ok (), .get ip subject nonce⟩
        (.ok (.envelope (some envelope.payload) (some envelope.exp.json)))
        (box.remove (subject, nonce))
  | notFound {now : Nat} {ip subject nonce : JsString}
      (absent : box.live now (subject, nonce) = none) :
      Reacts env bound box ⟨now, .ok (), .get ip subject nonce⟩ (.error ⟨404, "not_found"⟩) box
  | missingFields {now : Nat} {ip subject nonce payload random : JsString} {exp : Expiry}
      (missing : subject = [] ∨ nonce = [] ∨ payload = []) :
      Reacts env bound box ⟨now, .ok (), .post ip subject nonce payload exp random⟩
        (.error ⟨400, "missing_fields"⟩) box
  | sprayed {now : Nat} {ip subject nonce payload random : JsString} {exp : Expiry} :
      Reacts env bound box ⟨now, .ok (), .post ip subject nonce payload exp random⟩
        (.error ⟨429, "notify_subject_spray"⟩) box
  | misconfigured {now : Nat} {ip subject nonce payload random : JsString} {exp : Expiry}
      {failure : HttpException}
      (setting : replayWindow env = .error failure ∨
        (bound = false ∧ cleanEnv env.replayStrongMode = js "1" ∧
          failure = ⟨500, "missing_replay_lock_binding"⟩)) :
      Reacts env bound box ⟨now, .ok (), .post ip subject nonce payload exp random⟩ (.error failure) box
  | replayed {now : Nat} {ip subject nonce payload random : JsString} {exp : Expiry}
      (used : box.used now (subject, nonce) = true) :
      Reacts env bound box ⟨now, .ok (), .post ip subject nonce payload exp random⟩
        (.error ⟨409, "replay"⟩) box
  | rejected {now : Nat} {ip subject nonce payload random : JsString} {exp : Expiry} {ttl : Int}
      {failure : HttpException} (window : replayWindow env = .ok ttl)
      (fresh : box.used now (subject, nonce) = false)
      (excess : validatePayloadSize env payload = .error failure ∨
        subjectLimit env (min 50 (box.liveNonces now subject).ncard) = .error failure) :
      Reacts env bound box ⟨now, .ok (), .post ip subject nonce payload exp random⟩ (.error failure)
        (box.mark (subject, nonce) (newMark bound now ttl))
  | stored {now : Nat} {ip subject nonce payload random : JsString} {exp : Expiry} {ttl : Int}
      (complete : subject ≠ [] ∧ nonce ≠ [] ∧ payload ≠ []) (window : replayWindow env = .ok ttl)
      (fresh : box.used now (subject, nonce) = false)
      (sized : validatePayloadSize env payload = .ok ())
      (room : subjectLimit env (min 50 (box.liveNonces now subject).ncard) = .ok ()) :
      Reacts env bound box ⟨now, .ok (), .post ip subject nonce payload exp random⟩
        (.ok (.stored exp.json))
        ((box.mark (subject, nonce) (newMark bound now ttl)).deposit (subject, nonce) ⟨payload, exp⟩)
  | missingSubject {now : Nat} :
      Reacts env bound box ⟨now, .ok (), .forget []⟩ (.error ⟨400, "missing_subject"⟩) box
  | forgotten {now : Nat} {subject : JsString} {limit : Int} (named : subject ≠ [])
      (setting : forgetMaxKeys env = some limit)
      (few : ((box.liveNonces now subject).ncard : Int) ≤ limit ∧
        ((box.markedNonces now subject).ncard : Int) ≤ limit) :
      Reacts env bound box ⟨now, .ok (), .forget subject⟩
        (.ok (.forgotten (box.liveNonces now subject).ncard (box.markedNonces now subject).ncard))
        (box.discard subject (box.liveNonces now subject) (box.markedNonces now subject))
  | tooManyKeys {now : Nat} {subject : JsString} {limit : Int} {gone goneMarks : Set JsString}
      (named : subject ≠ []) (setting : forgetMaxKeys env = some limit)
      (many : limit < ((box.liveNonces now subject).ncard : Int) ∨
        limit < ((box.markedNonces now subject).ncard : Int))
      (chosen : gone ⊆ box.liveNonces now subject)
      (count : gone.ncard = pageLength limit (box.liveNonces now subject).ncard)
      (chosenMarks : goneMarks ⊆ box.markedNonces now subject)
      (countMarks : goneMarks.ncard = pageLength limit (box.markedNonces now subject).ncard) :
      Reacts env bound box ⟨now, .ok (), .forget subject⟩
        (.ok (.tooManyKeys gone.ncard goneMarks.ncard)) (box.discard subject gone goneMarks)
  | ignored {now : Nat} {subject : JsString} (named : subject ≠ [])
      (setting : forgetMaxKeys env = none) :
      Reacts env bound box ⟨now, .ok (), .forget subject⟩ (.ok (.forgotten 0 0)) box

/-! ### Deliveries -/

/-- A call and its answer. -/
abbrev Exchange := Call × Except HttpException Response

/-- The time at which an exchange stored an envelope for the slot, and the envelope. -/
def storedIn (slot : Slot) : Exchange → Option (Nat × Envelope)
  | (⟨now, _, .post _ subject nonce payload exp _⟩, .ok _) =>
      if (subject, nonce) = slot then some (now, ⟨payload, exp⟩) else none
  | _ => none

/-- The exchange delivered what the slot held. -/
def deliveredIn (slot : Slot) : Exchange → Bool
  | (⟨_, _, .get _ subject nonce⟩, .ok _) => (subject, nonce) = slot
  | _ => false

/-- The second at which the exchange forgot all of a subject. -/
def forgottenIn (subject : JsString) : Exchange → Option Nat
  | (⟨now, _, .forget target⟩, .ok (.forgotten _ _)) => if target = subject then some now else none
  | _ => none

/-- The exchange answered a forget request of the subject, whether it forgot all or not. -/
def forgetsIn (subject : JsString) : Exchange → Bool
  | (⟨_, _, .forget target⟩, .ok _) => target = subject
  | _ => false

theorem storedIn_error (slot : Slot) (call : Call) (failure : HttpException) :
    storedIn slot (call, .error failure) = none := by
  obtain ⟨now, guard, request⟩ := call
  cases request <;> rfl

/-- The exchange replaced or removed the envelope of the slot. -/
def Displaces (slot : Slot) (envelope : Envelope) (exchange : Exchange) : Prop :=
  (storedIn slot exchange).isSome ∨ deliveredIn slot exchange = true ∨
    ∃ now, forgottenIn slot.1 exchange = some now ∧ envelope.exp.alive now

/-- The envelope was stored in one exchange of the history, and no later one displaced it. -/
def Waiting (history : List Exchange) (slot : Slot) (envelope : Envelope) : Prop :=
  ∃ early post late now, history = early ++ post :: late ∧
    storedIn slot post = some (now, envelope) ∧
      ∀ exchange ∈ late, ¬Displaces slot envelope exchange

theorem Waiting.extend {history : List Exchange} {slot : Slot} {envelope : Envelope}
    {exchange : Exchange} (waiting : Waiting history slot envelope)
    (kept : ¬Displaces slot envelope exchange) :
    Waiting (history ++ [exchange]) slot envelope := by
  obtain ⟨early, post, late, now, rfl, stored, undisturbed⟩ := waiting
  refine ⟨early, post, late ++ [exchange], now, by simp, stored, ?_⟩
  intro other member
  rcases List.mem_append.mp member with earlier | last
  · exact undisturbed other earlier
  · rw [List.mem_singleton.mp last]
    exact kept

/-- Every envelope of the mailbox is waiting since it was posted. -/
def Traced (history : List Exchange) (box : Box) : Prop :=
  ∀ slot envelope, box.envelopes slot = some envelope → Waiting history slot envelope

/-- An exchange that leaves no envelope it displaces keeps every envelope traced. -/
theorem Traced.extend {history : List Exchange} {box next : Box} {exchange : Exchange}
    (traced : Traced history box)
    (part : ∀ slot envelope, next.envelopes slot = some envelope →
      box.envelopes slot = some envelope ∧ ¬Displaces slot envelope exchange) :
    Traced (history ++ [exchange]) next := by
  intro slot envelope held
  obtain ⟨heldBefore, kept⟩ := part slot envelope held
  exact (traced slot envelope heldBefore).extend kept

variable {env : Env} {bound : Bool}

/-- A failure displaces nothing. -/
theorem not_displaces_error (slot : Slot) (envelope : Envelope) (call : Call)
    (failure : HttpException) : ¬Displaces slot envelope (call, .error failure) := by
  simp [Displaces, storedIn, deliveredIn, forgottenIn]

theorem reacts_traced (number : forgetMaxKeys env ≠ none) {history : List Exchange}
    {box next : Box} {call : Call} {answer : Except HttpException Response}
    (traced : Traced history box) (reacts : Reacts env bound box call answer next) :
    Traced (history ++ [(call, answer)]) next := by
  have failed (failure : HttpException) (after : Box) (same : after.envelopes = box.envelopes) :
      Traced (history ++ [(call, .error failure)]) after :=
    traced.extend fun slot envelope held =>
      ⟨same ▸ held, not_displaces_error slot envelope call failure⟩
  cases reacts with
  | refused => exact failed _ box rfl
  | limited => exact failed _ box rfl
  | notFound => exact failed _ box rfl
  | missingFields => exact failed _ box rfl
  | sprayed => exact failed _ box rfl
  | misconfigured => exact failed _ box rfl
  | replayed => exact failed _ box rfl
  | rejected => exact failed _ _ rfl
  | missingSubject => exact failed _ box rfl
  | @fetched now ip subject nonce envelope live =>
      apply traced.extend
      intro slot other held
      have different : slot ≠ (subject, nonce) := by
        rintro rfl
        simp [Box.remove] at held
      refine ⟨by simpa [Box.remove, different] using held, ?_⟩
      simp [Displaces, storedIn, deliveredIn, forgottenIn, different.symm]
  | @stored now ip subject nonce payload random exp ttl complete window fresh sized room =>
      intro slot envelope held
      by_cases same : slot = (subject, nonce)
      · subst same
        obtain rfl : (⟨payload, exp⟩ : Envelope) = envelope := by simpa [Box.deposit] using held
        exact ⟨history, _, [], now, rfl, by simp [storedIn], by simp⟩
      · apply (traced slot envelope (by simpa [Box.deposit, Box.mark, same] using held)).extend
        simp [Displaces, storedIn, deliveredIn, forgottenIn, Ne.symm same]
  | ignored named setting => exact absurd setting number
  | @forgotten now subject limit named setting few =>
      apply traced.extend
      intro slot envelope held
      simp only [Box.discard] at held
      split at held
      · cases held
      next kept =>
        refine ⟨held, ?_⟩
        rintro (store | delivery | ⟨second, forgot, alive⟩)
        · simp [storedIn] at store
        · simp [deliveredIn] at delivery
        · obtain ⟨owner, rfl⟩ : subject = slot.1 ∧ now = second := by
            simpa [forgottenIn] using forgot
          refine kept ⟨owner.symm, ?_⟩
          simp [Box.liveNonces, Box.live, owner, held, alive]
  | @tooManyKeys now subject limit gone goneMarks named setting many chosen count chosenMarks
      countMarks =>
      apply traced.extend
      intro slot envelope held
      simp only [Box.discard] at held
      split at held
      · cases held
      · exact ⟨held, by simp [Displaces, storedIn, deliveredIn, forgottenIn]⟩

/-- A fetch answered with an envelope answers the latest post for its slot: no
other post, fetch or complete forget for the slot succeeded in between, and the
envelope has not expired. -/
theorem delivery_of_waiting (number : forgetMaxKeys env ≠ none) {final : Box}
    {before after : List Exchange} {call : Call} {ip subject nonce : JsString} {answer : Response}
    (fetch : call.request = .get ip subject nonce)
    (allowed : Allows (Reacts env bound) .empty (before ++ (call, .ok answer) :: after) final) :
    ∃ envelope, Waiting before (subject, nonce) envelope ∧ envelope.exp.alive call.now ∧
      answer = .envelope (some envelope.payload) (some envelope.exp.json) := by
  obtain ⟨middle, reached, continued⟩ := allowed.split
  have traced : Traced before middle :=
    reached.invariant Traced (fun slot envelope held => by simp [Box.empty] at held)
      fun history state call answer next traced reacts => reacts_traced number traced reacts
  cases continued with
  | cons reacts later =>
      cases reacts with
      | @fetched now fetchIp fetchSubject fetchNonce envelope live =>
          cases fetch
          simp only [Box.live, Option.filter_eq_some_iff] at live
          exact ⟨envelope, traced _ envelope live.1, live.2, rfl⟩
      | stored => cases fetch
      | forgotten => cases fetch
      | tooManyKeys => cases fetch
      | ignored => cases fetch

/-! ### Reuse of nonces -/

/-- Behind every post that was stored, up to a forget request of its subject,
its nonce is marked for at least some time. -/
def Marked (wait : Int) (history : List Exchange) (box : Box) : Prop :=
  ∀ early post late slot now envelope, history = early ++ post :: late →
    storedIn slot post = some (now, envelope) →
    (∀ exchange ∈ late, forgetsIn slot.1 exchange = false) →
    ∃ mark, box.marks slot = some mark ∧ now + wait ≤ mark.until_

/-- An exchange that stores nothing and drops no mark keeps the marks. -/
theorem Marked.extend {wait : Int} {history : List Exchange} {box next : Box}
    {exchange : Exchange} (marked : Marked wait history box)
    (latest : ∀ slot now envelope, storedIn slot exchange = some (now, envelope) →
      ∃ mark, next.marks slot = some mark ∧ now + wait ≤ mark.until_)
    (kept : ∀ slot mark, forgetsIn slot.1 exchange = false → box.marks slot = some mark →
      ∃ later, next.marks slot = some later ∧ mark.until_ ≤ later.until_) :
    Marked wait (history ++ [exchange]) next := by
  intro early post late slot now envelope split stored unforgotten
  rcases List.eq_nil_or_concat late with rfl | ⟨earlier, other, rfl⟩
  · obtain ⟨rfl, same⟩ := List.append_inj' split rfl
    obtain rfl : exchange = post := by simpa using same
    exact latest slot now envelope stored
  · rw [List.concat_eq_append, ← List.cons_append, ← List.append_assoc] at split
    obtain ⟨rfl, same⟩ := List.append_inj' split rfl
    obtain rfl : exchange = other := by simpa using same
    obtain ⟨mark, isMark, long⟩ := marked early post earlier slot now envelope rfl stored
      fun exchange member => unforgotten exchange (by simp [member])
    obtain ⟨later, next, longer⟩ := kept slot mark (unforgotten exchange (by simp)) isMark
    exact ⟨later, next, by omega⟩

/-- A new mark never ends before an old one that no longer counts. -/
theorem mark_later {box : Box} {slot : Slot} {now : Nat} {ttl : Int} (positive : 0 < ttl)
    (fresh : box.used now slot = false) {other : Slot} {mark : Mark}
    (isMark : box.marks other = some mark) :
    ∃ later, (box.mark slot (newMark bound now ttl)).marks other = some later ∧
      mark.until_ ≤ later.until_ := by
  have wait := @reuseAfter_pos bound ttl positive
  by_cases same : other = slot
  · subst same
    simp only [Box.used, isMark, Option.any_some, decide_eq_false_iff_not] at fresh
    exact ⟨newMark bound now ttl, by simp [Box.mark], by simp only [newMark]; omega⟩
  · exact ⟨mark, by simpa [Box.mark, same] using isMark, le_rfl⟩

theorem reacts_marked {ttl : Int} (window : replayWindow env = .ok ttl)
    {history : List Exchange} {box next : Box} {call : Call}
    {answer : Except HttpException Response} (marked : Marked (reuseAfter bound ttl) history box)
    (reacts : Reacts env bound box call answer next) :
    Marked (reuseAfter bound ttl) (history ++ [(call, answer)]) next := by
  have positive := replayWindow_pos window
  have wait := @reuseAfter_pos bound ttl positive
  have unchanged (other : Box) (same : other.marks = box.marks)
      (silent : ∀ slot, storedIn slot (call, answer) = none) :
      Marked (reuseAfter bound ttl) (history ++ [(call, answer)]) other := by
    apply marked.extend
    · intro slot now envelope stored
      rw [silent slot] at stored
      cases stored
    · intro slot mark _ isMark
      exact ⟨mark, same ▸ isMark, le_rfl⟩
  cases reacts with
  | refused => exact unchanged box rfl fun slot => storedIn_error slot _ _
  | limited => exact unchanged box rfl fun slot => storedIn_error slot _ _
  | fetched => exact unchanged _ rfl fun _ => rfl
  | notFound => exact unchanged box rfl fun slot => storedIn_error slot _ _
  | missingFields => exact unchanged box rfl fun slot => storedIn_error slot _ _
  | sprayed => exact unchanged box rfl fun slot => storedIn_error slot _ _
  | misconfigured => exact unchanged box rfl fun slot => storedIn_error slot _ _
  | replayed => exact unchanged box rfl fun slot => storedIn_error slot _ _
  | missingSubject => exact unchanged box rfl fun slot => storedIn_error slot _ _
  | ignored => exact unchanged box rfl fun _ => rfl
  | rejected current fresh excess =>
      cases window.symm.trans current
      apply marked.extend
      · intro slot now envelope stored
        simp [storedIn] at stored
      · intro slot mark _ isMark
        exact mark_later positive fresh isMark
  | @stored now ip subject nonce payload random exp current complete same fresh sized room =>
      cases window.symm.trans same
      apply marked.extend
      · intro slot second envelope stored
        obtain ⟨rfl, rfl, -⟩ : (subject, nonce) = slot ∧ now = second ∧ _ := by
          simpa [storedIn] using stored
        exact ⟨newMark bound now ttl, by simp [Box.deposit, Box.mark],
          by simp only [newMark]; omega⟩
      · intro slot mark _ isMark
        exact mark_later positive fresh isMark
  | @forgotten now subject limit named setting few =>
      apply marked.extend
      · intro slot second envelope stored
        simp [storedIn] at stored
      · intro slot mark other isMark
        have different : slot.1 ≠ subject := by
          rintro rfl
          simp [forgetsIn] at other
        exact ⟨mark, by simpa [Box.discard, different] using isMark, le_rfl⟩
  | @tooManyKeys now subject limit gone goneMarks named setting many chosen count chosenMarks
      countMarks =>
      apply marked.extend
      · intro slot second envelope stored
        simp [storedIn] at stored
      · intro slot mark other isMark
        have different : slot.1 ≠ subject := by
          rintro rfl
          simp [forgetsIn] at other
        exact ⟨mark, by simpa [Box.discard, different] using isMark, le_rfl⟩

/-- Two posts stored for one slot, with no forget request of the subject in
between, lie at least the time apart for which a nonce is kept. -/
theorem window_between {ttl : Int} (window : replayWindow env = .ok ttl) {final : Box}
    {early middle late : List Exchange} {first second : Exchange} {slot : Slot}
    {firstTime secondTime : Nat} {firstEnvelope secondEnvelope : Envelope}
    (allowed : Allows (Reacts env bound) .empty (early ++ first :: middle ++ second :: late) final)
    (firstStored : storedIn slot first = some (firstTime, firstEnvelope))
    (secondStored : storedIn slot second = some (secondTime, secondEnvelope))
    (unforgotten : ∀ exchange ∈ middle, forgetsIn slot.1 exchange = false) :
    firstTime + reuseAfter bound ttl ≤ secondTime := by
  obtain ⟨box, reached, continued⟩ := allowed.split
  have marked : Marked (reuseAfter bound ttl) (early ++ first :: middle) box :=
    reached.invariant (Marked (reuseAfter bound ttl)) (by simp [Marked])
      fun history state call answer next marked reacts => reacts_marked window marked reacts
  obtain ⟨mark, isMark, long⟩ :=
    marked early first middle slot firstTime firstEnvelope rfl firstStored unforgotten
  cases continued with
  | cons reacts later =>
      cases reacts <;> try simp [storedIn] at secondStored
      case stored fresh sized room =>
        obtain ⟨rfl, rfl, -⟩ := secondStored
        simp only [Box.used, isMark, Option.any_some, decide_eq_false_iff_not] at fresh
        omega

end DarkmeshGateway.SecretsWorker.Mailbox
