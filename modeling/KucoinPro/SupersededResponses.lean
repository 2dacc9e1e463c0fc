import KucoinPro.AccountMoves
import KucoinPro.Rest

namespace KucoinPro

-- Whether a retry of a state arms the timer of the download again. That of the
-- state it is in does; one that does not leaves everything as it is.
class Rearming (D : Type) {S : Type} [Download2 D S] where
  rearms : S → D → Bool
  rearms_current : ∀ d : D, Download2.downloading d = true → rearms (StagedWalk.Walker.state d) d = true
  rearmed : ∀ {σ : Type} (callback : D → S → σ → Int × σ) s d w, rearms s d = true → (Download2.retry callback s d w).1 ≠ d
  unarmed : ∀ {σ : Type} (callback : D → S → σ → Int × σ) s d w, rearms s d = false → Download2.retry callback s d w = (d,w)

def RestCallback.sequence : RestCallback → Nat
  | .getCurrenciesAck sequence | .getInstrumentAck sequence => sequence

def RestCallback.state : RestCallback → Rest.State
  | .getCurrenciesAck _ => .currencies
  | .getInstrumentAck _ => .instrument

namespace SupersededResponses
open GuardedRuns OrderEntryREST

-- Neither content nor a redirect: a network error, a server error or a status
-- that is not final.
def fails (response : Web.Response) : Bool := !redirects response && (content response).isNone

-- It is not ignored: a redirect ends the process, and what fails may be retried.
def misleads (rearms : Bool) (response : Web.Response) : Bool := redirects response || fails response && rearms

section rest
variable {F σ ε : Type} {config : RestConfig} {receiver : Receiver σ ε} [Download2 F Rest.State]

-- The answered request, if its answer is superseded.
def superseded (w : RestWorld F σ) : RestEvent ε → Option (RestSubmission × Web.Response)
  | .response _ id response _ => (w.inFlight.find? (fun s => s.id == id)).bind fun s =>
      if Download2.skip s.callback.sequence s.callback.state w.rest.download then some (s,response) else none
  | _ => none

def Ignored (before : RestWorld F σ) (event : RestEvent ε) (outcome : Option (RestWorld F σ)) : Prop :=
  ∀ s response, superseded before event = some (s,response) → ∃ after, outcome = some after ∧
    after.rest.download = before.rest.download ∧ after.inFlight = before.inFlight.eraseP (fun other => other.id == s.id)

def misled [Rearming F] (w : RestWorld F σ) (event : RestEvent ε) : Bool :=
  (superseded w event).any fun answer => misleads (Rearming.rearms answer.1.callback.state w.rest.download) answer.2

theorem catch_all {τ : Type} (handle : τ → τ) (e : Exception) (w : τ) :
    Rest.catchException (fun _ _ _ _ w => handle w) e w = handle w := by
  cases e <;> rfl

theorem getAck_superseded {sequence : Nat} {decode : String → Except Exception (Json.Envelope α)}
    {handler : Json.Envelope α → RestWorld F σ → Except Exception Unit × RestWorld F σ} {w : RestWorld F σ}
    (skipped : Download2.skip sequence state w.rest.download = true) (response : Web.Response) :
    Rest.getAck config decode handler state sequence response w =
      if redirects response then none else some (if fails response then Rest.retry config state w else w) := by
  unfold Rest.getAck Rest.processResponse fails redirects content
  cases result : response.result with
  | error e => exact congrArg some (catch_all (Rest.retry config state) e w)
  | ok r =>
      obtain ⟨status,category,body⟩ := r
      cases category with
      | unknown | informationalResponse =>
          have other : status ≠ Web.STATUS_OK := response.proper _ result (by simp)
          simp only [Web.Response.expect,other,if_false]
          exact congrArg some (catch_all (Rest.retry config state) response.unexpected w)
      | success | clientError =>
          simp only [skipped,if_true]
          rfl
      | redirection | serverError => rfl

-- The download and the requests, where a retry may be made or not.
theorem retried_iff [Rearming F] (config : RestConfig) (w : RestWorld F σ) (state : Rest.State) (response : Web.Response) :
    (∃ after, (if redirects response then none else some (if fails response then Rest.retry config state w else w)) = some after ∧
      after.rest.download = w.rest.download ∧ after.inFlight = w.inFlight) ↔
      misleads (Rearming.rearms state w.rest.download) response = false := by
  unfold misleads
  cases redirects response with
  | true => simp
  | false =>
      cases fails response with
      | false => simp
      | true =>
          simp only [Bool.false_eq_true,if_false,if_true,Option.some.injEq,exists_eq_left',Bool.false_or,Bool.true_and]
          cases rearms : Rearming.rearms state w.rest.download with
          | true =>
              have moved := Rearming.rearmed (Rest.onDownload config) state w.rest.download w rearms
              simp [Rest.retry,Rest.withDownload,moved]
          | false => simp [Rest.retry,Rest.withDownload,Rearming.unarmed (Rest.onDownload config) state w.rest.download w rearms]

theorem superseded_found {w : RestWorld F σ} {event : RestEvent ε} (answer : superseded w event = some (s,response)) :
    ∃ t answers, event = .response t s.id response answers ∧ w.inFlight.find? (fun other => other.id == s.id) = some s ∧
      Download2.skip s.callback.sequence s.callback.state w.rest.download = true := by
  cases event with
  | response t id r answers =>
      obtain ⟨other,found,skipped⟩ := Option.bind_eq_some_iff.mp answer
      split at skipped
      · rename_i skip
        cases skipped
        obtain rfl : s.id = id := by simpa using List.find?_some found
        exact ⟨t,answers,rfl,found,skip⟩
      · cases skipped
  | connected | disconnected | subscribe | controller | logged => cases answer

-- The world without the request, as its handler gets it.
def answered (s : RestSubmission) (w : RestWorld F σ) : RestWorld F σ :=
  {w with inFlight := w.inFlight.eraseP fun other => other.id == s.id}

theorem step_superseded {w : RestWorld F σ} {t : TraceInfo} {answers : Nat → ItemAnswer}
    (found : w.inFlight.find? (fun other => other.id == s.id) = some s)
    (skipped : Download2.skip s.callback.sequence s.callback.state w.rest.download = true) (response : Web.Response) :
    RestSystem.step config receiver w (.response t s.id response answers) =
      if redirects response then none
      else some (if fails response then Rest.retry config s.callback.state (answered s w) else answered s w) := by
  have same : Download2.skip s.callback.sequence s.callback.state (answered s w).rest.download = true := skipped
  simp only [RestSystem.step,Rest.onResponse,found]
  cases known : s.callback with
  | getCurrenciesAck | getInstrumentAck =>
      rw [known] at same
      exact getAck_superseded same response

theorem rest_ignores_iff [Rearming F] (w : RestWorld F σ) (event : RestEvent ε) :
    Ignored w event (RestSystem.step config receiver w event) ↔ misled w event = false := by
  unfold Ignored misled
  cases answer : superseded w event with
  | none => simp
  | some pair =>
      obtain ⟨s,response⟩ := pair
      obtain ⟨t,answers,rfl,found,skipped⟩ := superseded_found answer
      rw [step_superseded found skipped response,Option.any_some]
      have exactly := retried_iff config (answered s w) s.callback.state response
      constructor
      · intro ignored
        exact exactly.mp (ignored s response rfl)
      · intro aside s' response' same
        cases same
        exact exactly.mpr aside

end rest
-- The same of the order stream, while it downloads its token.
section token
variable {E D R : Type} {config : Config} [Download2 E OrderEntryREST.State]

def isSuperseded (w : World E D R) (s : Submission) : Bool :=
  match s.callback with
  | .getPrivateTokenAck sequence => isDownloading w && Download2.skip sequence .privateToken w.rest.download
  | _ => false

def tokenSuperseded (w : World E D R) : Event → Option (Submission × Web.Response)
  | .rest (.response _ id response) => (w.inFlight.find? (fun s => s.id == id)).bind fun s =>
      if isSuperseded w s then some (s,response) else none
  | _ => none

def TokenIgnored (before : World E D R) (event : Event) (outcome : Option (World E D R)) : Prop :=
  ∀ s response, tokenSuperseded before event = some (s,response) → ∃ after, outcome = some after ∧
    after.rest.download = before.rest.download ∧ after.inFlight = before.inFlight.eraseP (fun other => other.id == s.id)

def tokenMisled [Rearming E] (w : World E D R) (event : Event) : Bool :=
  (tokenSuperseded w event).any fun answer => misleads (Rearming.rearms State.privateToken w.rest.download) answer.2

variable [Download2 D DropCopy.State] [LimitRequest R]

theorem getPrivateTokenAck_superseded {sequence : Nat} {w : World E D R} (downloading : isDownloading w = true)
    (skipped : Download2.skip sequence .privateToken w.rest.download = true) (response : Web.Response) :
    getPrivateTokenAck config t sequence response w =
      if redirects response then none
      else some (commit t .privateToken (if fails response then retryPrivateToken config t w else w)) := by
  unfold getPrivateTokenAck fails
  cases landed : redirects response with
  | true =>
      rw [processResponse_redirects landed]
      rfl
  | false =>
      cases known : content response with
      | none =>
          obtain ⟨after,ran,_,_,_,_,_,rfl⟩ : ∃ after, processResponse config response
              (fun _ _ _ _ w => retryPrivateToken config t w) _ w = some after ∧ Fails _ w after :=
            processResponse_lands landed known
          rw [ran]
          rfl
      | some body =>
          rw [processResponse_content known]
          simp only [downloading,skipped,Bool.and_true,if_true]
          rfl

omit [Download2 D DropCopy.State] in
theorem tokenRetried_iff [Rearming E] (config : Config) (t : TraceInfo) (w : World E D R)
    (downloading : isDownloading w = true) (response : Web.Response) :
    (∃ after, (if redirects response then none
        else some (commit t .privateToken (if fails response then retryPrivateToken config t w else w))) = some after ∧
      after.rest.download = w.rest.download ∧ after.inFlight = w.inFlight) ↔
      misleads (Rearming.rearms State.privateToken w.rest.download) response = false := by
  unfold misleads
  cases redirects response with
  | true => simp
  | false =>
      cases fails response with
      | false => simp [commit]
      | true =>
          simp only [Bool.false_eq_true,if_false,if_true,Option.some.injEq,exists_eq_left',Bool.false_or,Bool.true_and]
          rw [retryPrivateToken,if_pos downloading]
          cases rearms : Rearming.rearms State.privateToken w.rest.download with
          | true =>
              have moved := Rearming.rearmed (onDownload config t) .privateToken w.rest.download w rearms
              simp [commit,withDownload,moved]
          | false => simp [commit,withDownload,Rearming.unarmed (onDownload config t) .privateToken w.rest.download w rearms]

omit [Download2 D DropCopy.State] [LimitRequest R] in
theorem tokenSuperseded_found {w : World E D R} {event : Event} (answer : tokenSuperseded w event = some (s,response)) :
    ∃ t sequence, event = .rest (.response t s.id response) ∧ w.inFlight.find? (fun other => other.id == s.id) = some s ∧
      s.callback = .getPrivateTokenAck sequence ∧ isDownloading w = true ∧
      Download2.skip sequence .privateToken w.rest.download = true := by
  cases event with
  | dropCopy => cases answer
  | rest happened =>
      cases happened with
      | response t id r =>
          obtain ⟨other,found,skipped⟩ := Option.bind_eq_some_iff.mp answer
          split at skipped
          · rename_i superseded
            cases skipped
            obtain rfl : s.id = id := by simpa using List.find?_some found
            unfold isSuperseded at superseded
            split at superseded
            · rename_i sequence own
              rw [Bool.and_eq_true] at superseded
              exact ⟨t,sequence,rfl,found,own,superseded⟩
            · cases superseded
          · cases skipped
      | timer | connected | disconnected | action => cases answer

theorem token_ignores_iff [Rearming E] (w : World E D R) (event : Event) :
    TokenIgnored w event (AccountSystem.step config w event) ↔ tokenMisled w event = false := by
  unfold TokenIgnored tokenMisled
  cases answer : tokenSuperseded w event with
  | none => simp
  | some pair =>
      obtain ⟨s,response⟩ := pair
      obtain ⟨t,sequence,rfl,found,own,downloading,skipped⟩ := tokenSuperseded_found answer
      let start := answering s (AccountSystem.receive (.rest (.response t s.id response)) w)
      have invoked : AccountSystem.step config w (.rest (.response t s.id response)) =
          getPrivateTokenAck config t sequence response start := by
        rw [AccountSystem.step_response found]
        simp only [invoke,own]
        rfl
      have busy : isDownloading start = true := downloading
      have same : Download2.skip sequence State.privateToken start.rest.download = true := skipped
      have exactly := tokenRetried_iff config t start busy response
      rw [invoked,getPrivateTokenAck_superseded busy same response,Option.any_some]
      constructor
      · intro ignored
        exact exactly.mp (ignored s response rfl)
      · intro aside s' response' same
        cases same
        exact exactly.mpr aside

end token

-- A superseded response is ignored in exactly the runs where none of them fails.
theorem superseded_responses_are_ignored {F E D R σ ε : Type} [Download2 F Rest.State] [Download2 E OrderEntryREST.State]
    [Download2 D DropCopy.State] [LimitRequest R] [Rearming F] [Rearming E] :
    (∀ (config : RestConfig) (receiver : Receiver σ ε) (controller : σ) (events : List (RestEvent ε)),
      EveryInput (RestSystem.step config receiver) (RestSystem.initial controller : RestWorld F σ) events Ignored ↔
        EveryInput (RestSystem.step config receiver) (RestSystem.initial controller : RestWorld F σ) events
          (fun w event _ => misled w event = false)) ∧
    ∀ (config : Config) (events : List Event),
      EveryInput (AccountSystem.step config) (AccountSystem.initial : World E D R) events TokenIgnored ↔
        EveryInput (AccountSystem.step config) (AccountSystem.initial : World E D R) events
          (fun w event _ => tokenMisled w event = false) := by
  constructor
  · intro config receiver controller events
    exact everyInput_exactly rest_ignores_iff events
  · intro config events
    exact everyInput_exactly token_ignores_iff events

end SupersededResponses

-- The smallest download with a timer that a retry of its state sets.
structure Timed (S : Type) where
  stepper : Stepper S
  timer : Nat

namespace Timed
open StagedWalk

variable {S σ : Type}

def under (timer : Nat) (callback : Timed S → S → σ → Int × σ) : Stepper S → S → σ → Int × σ :=
  fun stepper => callback ⟨stepper,timer⟩

def keep (timer : Nat) (result : Stepper S × σ) : Timed S × σ := (⟨result.1,timer⟩,result.2)

variable [Stages S] [DecidableEq S]

instance : Download2 (Timed S) S where
  state d := Walker.state d.stepper
  sequence d := Walker.sequence d.stepper
  create := ⟨Download2.create,0⟩
  downloading d := Download2.downloading d.stepper
  skip sequence s d := Download2.skip sequence s d.stepper
  begin callback d w := keep d.timer (Download2.begin (under d.timer callback) d.stepper w)
  bump callback d w := keep d.timer (Download2.bump (under d.timer callback) d.stepper w)
  check callback s d w := keep d.timer (Download2.check (under d.timer callback) s d.stepper w)
  retry _ s d w := (if s = d.stepper.state then {d with timer := d.timer + 1} else d,w)
  reset d := {d with stepper := Download2.reset d.stepper}

instance : Rearming (Timed S) where
  rearms s d := decide (s = d.stepper.state)
  rearms_current d _ := decide_eq_true rfl
  rearmed callback s d w armed same := by
    have later := congrArg Timed.timer same
    simp only [Download2.retry,if_pos (of_decide_eq_true armed)] at later
    omega
  unarmed callback s d w other := by
    simp only [Download2.retry,if_neg (of_decide_eq_false other)]

end Timed

namespace SupersededResponses
open GuardedRuns OrderEntryREST Smallest

abbrev TimedRest := RestWorld (Timed Rest.State) Unit
abbrev TimedAccount := World (Timed OrderEntryREST.State) (Stepper DropCopy.State) Slot

def nobody : Receiver Unit Unit := ⟨fun _ _ => (.ok (),()),fun _ _ => some ()⟩

def late (number : Nat) (response : Web.Response) : RestEvent Unit := .response t number response (throwing 3)

-- The connection is made again before the first answer is there.
def twice : List (RestEvent Unit) := [.connected t,.disconnected t,.connected t]
def twiceAccount : List Event := [.rest (.connected t),.rest (.disconnected t),.rest (.connected t)]

theorem late_answers_are_ignored :
    EveryInput (RestSystem.step reference nobody) (RestSystem.initial () : TimedRest)
      (twice ++ [late 0 (reply "bad"),late 1 (failure 500),late 1 (reply "ok")]) Ignored ∧
    EveryInput (AccountSystem.step (setup true)) (AccountSystem.initial : TimedAccount)
      (twiceAccount ++ [answer 0 (reply "bad"),answer 1 (failure 500),answer 1 (reply "ok")]) TokenIgnored := by
  obtain ⟨rest,account⟩ := @superseded_responses_are_ignored (Timed Rest.State) (Timed OrderEntryREST.State)
    (Stepper DropCopy.State) Slot Unit Unit _ _ _ _ _ _
  exact ⟨(rest reference nobody () _).mpr (everyInput_never misled (by decide +kernel)),
    (account (setup true) _).mpr (everyInput_never tokenMisled (by decide +kernel))⟩

-- The request of the first connection fails after that of the second is sent.
theorem late_failures_are_retried :
    (¬ ∀ events, EveryInput (RestSystem.step reference nobody) (RestSystem.initial () : TimedRest) events Ignored) ∧
    ¬ ∀ events, EveryInput (AccountSystem.step (setup true)) (AccountSystem.initial : TimedAccount) events TokenIgnored := by
  constructor
  · intro all
    have misleading : (execute (RestSystem.step reference nobody) (RestSystem.initial () : TimedRest) twice).any
        (misled · (late 0 (failure 500))) = true := by decide +kernel
    obtain ⟨w,executed,met⟩ := (Option.any_eq_true _ _).mp misleading
    have ignored := (rest_ignores_iff w _).mp (all (twice ++ [late 0 (failure 500)]) twice _ [] w rfl executed)
    rw [met] at ignored
    cases ignored
  · intro all
    have misleading : (execute (AccountSystem.step (setup true)) (AccountSystem.initial : TimedAccount) twiceAccount).any
        (tokenMisled · (answer 0 (failure 500))) = true := by decide +kernel
    obtain ⟨w,executed,met⟩ := (Option.any_eq_true _ _).mp misleading
    have ignored := (token_ignores_iff w _).mp (all (twiceAccount ++ [answer 0 (failure 500)]) twiceAccount _ [] w rfl executed)
    rw [met] at ignored
    cases ignored

end SupersededResponses
end KucoinPro
