import KucoinPro.DropCopyMoves
import KucoinPro.History
import KucoinPro.OrderEntryRestMoves

namespace KucoinPro.AccountSystem
open GuardedRuns OrderEntryREST

variable {E D R : Type} (config : Config)

def isDropped : Entry → Bool
  | .event (.dropCopy (.disconnected _)) => true
  | _ => false

-- The request that an event is the response to.
def responseOf (w : World E D R) : Event → Option (Submission × Web.Response)
  | .rest (.response _ id response) => (w.inFlight.find? (fun s => s.id == id)).map (fun s => (s,response))
  | _ => none

-- The state that an event is the Ack of.
def named : Event → Option DropCopy.State
  | .dropCopy (.ack _ message) => DropCopy.State.ofName message.id
  | _ => none

theorem effects_keep (fresh : List Effect) : ∀ x ∈ fresh.map Entry.effect, isDropped x = false := by
  intro x member
  obtain ⟨e,_,rfl⟩ := List.mem_map.mp member
  rfl

theorem effects_silent {p : Entry → Bool} {admitted : Effect → Bool} {fresh : List Effect}
    (all : ∀ e ∈ fresh, admitted e = true) (ignored : ∀ e, admitted e = true → p (.effect e) = false) :
    ∀ x ∈ fresh.map Entry.effect, p x = false := by
  intro x member
  obtain ⟨e,present,rfl⟩ := List.mem_map.mp member
  exact ignored e (all e present)

variable [Download2 E OrderEntryREST.State] [Download2 D DropCopy.State] [LimitRequest R]

-- What one event does to the account: it is lost, it reaches one of the two
-- streams, or it is the response to a request that is in flight.
inductive Happens (w : World E D R) (event : Event) : World E D R → Prop where
  | lost : (∀ happened, event = .dropCopy happened → w.dropCopy = none) → Happens w event (receive event w)
  | copied : event = .dropCopy happened → w.dropCopy = some stream →
      DropCopy.step config (session stream (receive event w)) happened = some c →
      DropCopy.Moves config happened (session stream (receive event w)) c →
      Happens w event (resume (receive event w) c)
  | served : event = .rest happened → (∀ t id response, happened ≠ .response t id response) →
      step config w event = some after → Serves config (eventScope happened) (receive event w) after → Happens w event after
  | answered {id : Nat} : event = .rest (.response t id response) → w.inFlight.find? (fun s => s.id == id) = some submission →
      invoke config t submission response (answering submission (receive event w)) = some after →
      Serves config (answerScope submission.callback) (answering submission (receive event w)) after →
      Happens w event after

variable {config}

theorem step_response {id : Nat} {w : World E D R} (found : w.inFlight.find? (fun s => s.id == id) = some submission) :
    step config w (.rest (.response t id response)) =
      invoke config t submission response (answering submission (receive (.rest (.response t id response)) w)) :=
  onResponse_found found

omit [Download2 E OrderEntryREST.State] [Download2 D DropCopy.State] [LimitRequest R] in
theorem responseOf_iff {w : World E D R} : responseOf w event = some (submission,response) ↔
    ∃ t id, event = .rest (.response t id response) ∧ w.inFlight.find? (fun s => s.id == id) = some submission := by
  constructor
  · intro answer
    cases event with
    | dropCopy => cases answer
    | rest happened =>
        cases happened with
        | response t id r =>
            obtain ⟨s,found,same⟩ := Option.map_eq_some_iff.mp answer
            cases same
            exact ⟨t,id,rfl,found⟩
        | _ => cases answer
  · rintro ⟨t,id,rfl,found⟩
    rw [responseOf,found]
    rfl

variable [LawfulDownload2 E] [LawfulDownload2 D] [LawfulLimitRequest R]

theorem step_happens {w after : World E D R} (ran : step config w event = some after) : Happens config w event after := by
  cases event with
  | dropCopy happened =>
      rcases step_dropCopy config ran with ⟨absent,rfl⟩ | ⟨stream,c,present,stepped,rfl⟩
      · exact .lost fun _ _ => absent
      · exact .copied rfl present stepped (DropCopy.step_moves config stepped)
  | rest happened =>
      by_cases response : ∃ t id response, happened = .response t id response
      · obtain ⟨t,id,response,rfl⟩ := response
        cases found : w.inFlight.find? (fun s => s.id == id) with
        | none =>
            have unknown : (receive (.rest (.response t id response)) w).inFlight.find? (fun s => s.id == id) = none := found
            simp only [step,OrderEntryREST.step,onResponse,unknown,Option.some.injEq] at ran
            exact ran ▸ .lost fun _ same => by cases same
        | some submission =>
            rw [step_response found] at ran
            exact .answered rfl found ran (invoke_serves ran)
      · have other : ∀ t id response, happened ≠ .response t id response := by
          intro t id r equal
          exact response ⟨t,id,r,equal⟩
        exact .served rfl other ran (step_serves ran other)

theorem rest_renewed {w after : World E D R} (ran : step config w (.rest happened) = some after) :
    Renewed w.dropCopy after.dropCopy := by
  cases step_happens ran with
  | lost => exact .same
  | copied same => cases same
  | served _ _ _ serves => exact serves.dropCopy
  | answered _ _ _ serves => exact serves.dropCopy

theorem step_proper {w after : World E D R} (ran : step config w event = some after)
    (proper : ∀ s ∈ w.inFlight, Proper config s) : ∀ s ∈ after.inFlight, Proper config s := by
  cases step_happens ran with
  | lost => exact proper
  | copied => exact proper
  | served _ _ _ serves =>
      intro s present
      exact (serves.inFlight s present).elim (proper s) id
  | answered _ _ _ serves =>
      intro s present
      rcases serves.inFlight s present with earlier | fresh
      · exact proper s (List.mem_of_mem_eraseP earlier)
      · exact fresh

theorem run_proper {w : World E D R} (path : Run config allowed w) : ∀ s ∈ w.inFlight, Proper config s :=
  path.invariant nofun fun _ _ _ proper _ ran => step_proper ran proper

end KucoinPro.AccountSystem
