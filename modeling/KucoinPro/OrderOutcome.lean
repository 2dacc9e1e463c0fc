import KucoinPro.AccountMoves

namespace KucoinPro.OrderOutcome
open GuardedRuns AccountSystem OrderEntryREST Json

variable {E D R : Type} {config : Config}

def isOrderAction : Callback → Bool
  | .createOrderAck _ _ | .cancelOrderAck _ _ _ | .cancelAllOrdersAck => true
  | _ => false

-- The status of what ends an order action. FORWARDED, which a cancel-all gets
-- when it is submitted, does not end it.
def outcomeStatus : Effect → Option RequestStatus
  | .response response _ _ _ => some response.requestStatus
  | .cancelAllOrdersAck ack => if ack.requestStatus = .forwarded then none else some ack.requestStatus
  | _ => none

-- The outcome names the request it is about.
def Concerns (config : Config) (submission : Submission) : Effect → Prop
  | .response response streamId user order =>
    streamId = config.orderEntryStreamId ∧ match submission.callback with
      | .createOrderAck userId orderId =>
          response.requestType = .createOrder ∧ user = userId ∧ order = orderId ∧ response.version = 1
      | .cancelOrderAck userId orderId version =>
          response.requestType = .cancelOrder ∧ user = userId ∧ order = orderId ∧ response.version = version
      | _ => False
  | .cancelAllOrdersAck ack =>
      submission.callback = .cancelAllOrdersAck ∧ ack.streamId = config.orderEntryStreamId ∧ ack.requestId = submission.requestId
  | _ => False

def answeredWith (decode : String → Except Exception (Envelope α)) (accepts : Envelope α → Bool) (response : Web.Response) :
    Bool :=
  (content response).any fun body => (decode body).toOption.any accepts

def succeeded (ack : Envelope α) : Bool := ack.code == SYSTEM_CODE_SUCCESS

-- The exchange has answered with code 200000 and done what it was asked for.
def performed (config : Config) (callback : Callback) (response : Web.Response) : Bool :=
  match callback with
  | .createOrderAck _ _ => answeredWith config.platform.addOrderAck succeeded response
  | .cancelOrderAck _ _ _ => answeredWith config.platform.cancelOrderAck
      (fun ack => succeeded ack && !ack.data.cancelledOrderIds.isEmpty) response
  | .cancelAllOrdersAck => answeredWith config.platform.cancelAllOrdersAck succeeded response
  | _ => false

def outcomes (fresh : List Entry) : List Effect := fresh.filterMap fun
  | .effect e => if (outcomeStatus e).isSome then some e else none
  | .event _ => none

-- The one outcome of a response: ACCEPTED for what was done, a failure otherwise.
def ExactlyOne (config : Config) (submission : Submission) (response : Web.Response) (before after : World E D R) : Prop :=
  ∃ fresh e, after.log = fresh ++ before.log ∧ outcomes fresh = [e] ∧ Concerns config submission e ∧
    ∃ status, outcomeStatus e = some status ∧
      if performed config submission.callback response then status = .accepted else status.isFailure = true

-- What the ack of an order action does to the world: a note and nothing for the
-- dispatcher if the action was performed, else one run of its error handler.
def Settles (performed : Bool) (errorHandler : Origin → RequestStatus → Error → String → World E D R → World E D R)
    (w after : World E D R) : Prop :=
  (performed = true → ∃ note, outcomeStatus note = none ∧ after = w.emit note) ∧
  (performed = false → Fails errorHandler w after)

-- All three acks: a body that does not parse throws, an ack that is not accepted
-- is rejected, and one that is accepted is noted.
structure Acks (decode : String → Except Exception (Envelope α)) (accepts : Envelope α → Bool)
    (reject : Origin → RequestStatus → Error → String → World E D R → World E D R)
    (successHandler : String → World E D R → Except Exception Unit × World E D R) : Prop where
  broken : ∀ body e w, decode body = .error e → successHandler body w = (.error e,w)
  accepted : ∀ body ack w, decode body = .ok ack → accepts ack = true →
    ∃ note, outcomeStatus note = none ∧ successHandler body w = (.ok (),w.emit note)
  refused : ∀ body ack w, decode body = .ok ack → accepts ack = false →
    ∃ after, successHandler body w = (.ok (),after) ∧ Fails reject w after

theorem Acks.settles {decode : String → Except Exception (Envelope α)} {accepts : Envelope α → Bool}
    {reject : Origin → RequestStatus → Error → String → World E D R → World E D R}
    {successHandler : String → World E D R → Except Exception Unit × World E D R}
    (acks : Acks decode accepts reject successHandler) (landed : redirects response = false) (w : World E D R) :
    ∃ after, processResponse config response reject successHandler w = some after ∧
      Settles (answeredWith decode accepts response) reject w after := by
  cases known : content response with
  | none =>
      obtain ⟨after,ran,fails⟩ := processResponse_lands landed known
      exact ⟨after,ran,by simp [answeredWith,known],fun _ => fails⟩
  | some body =>
      rw [processResponse_content known]
      refine ⟨_,rfl,?_⟩
      cases decoded : decode body with
      | error e =>
          rw [acks.broken body e w decoded]
          exact ⟨by simp [answeredWith,known,decoded,Except.toOption],fun _ => catchException_fails e⟩
      | ok ack =>
          have same : answeredWith decode accepts response = accepts ack := by
            simp [answeredWith,known,decoded,Except.toOption]
          rw [same]
          cases good : accepts ack with
          | true =>
              obtain ⟨note,silent,handled⟩ := acks.accepted body ack w decoded good
              rw [handled]
              exact ⟨fun _ => ⟨note,silent,rfl⟩,nofun⟩
          | false =>
              obtain ⟨after,handled,fails⟩ := acks.refused body ack w decoded good
              rw [handled]
              exact ⟨nofun,fun _ => fails⟩

theorem createOrderAck_settles (landed : redirects response = false) (w : World E D R) : ∃ after,
    createOrderAck config userId orderId version response w = some after ∧
    Settles (performed config (.createOrderAck userId orderId) response)
      (rejectOrder config .createOrder userId orderId version) w after := by
  apply Acks.settles ?_ landed w
  constructor
  · intro body e w decoded
    simp only [decoded]
  · intro body ack w decoded good
    have success : ack.code = SYSTEM_CODE_SUCCESS := by simpa [succeeded] using good
    simp only [decoded,success,if_true]
    exact ⟨.addOrderAck ack userId orderId version,rfl,rfl⟩
  · intro body ack w decoded bad
    have other : ack.code ≠ SYSTEM_CODE_SUCCESS := by simpa [succeeded] using bad
    simp only [decoded,other,if_false]
    exact ⟨_,rfl,_,_,_,_,rfl,rfl⟩

theorem cancelOrderAck_settles (landed : redirects response = false) (w : World E D R) : ∃ after,
    cancelOrderAck config userId orderId version response w = some after ∧
    Settles (performed config (.cancelOrderAck userId orderId version) response)
      (rejectOrder config .cancelOrder userId orderId version) w after := by
  apply Acks.settles ?_ landed w
  constructor
  · intro body e w decoded
    simp only [decoded]
  · intro body ack w decoded good
    simp only [succeeded,Bool.and_eq_true,beq_iff_eq,Bool.not_eq_true',List.isEmpty_eq_false_iff] at good
    simp only [decoded,good,if_true,if_false]
    exact ⟨.cancelOrderAck ack userId orderId version,rfl,rfl⟩
  · intro body ack w decoded bad
    simp only [decoded]
    by_cases success : ack.code = SYSTEM_CODE_SUCCESS
    · have empty : ack.data.cancelledOrderIds = [] := by simpa [succeeded,success] using bad
      simp only [success,empty,if_true]
      exact ⟨_,rfl,_,_,_,_,rfl,rfl⟩
    · simp only [success,if_false]
      exact ⟨_,rfl,_,_,_,_,rfl,rfl⟩

theorem cancelAllOrdersAck_settles (landed : redirects response = false) (w : World E D R) : ∃ after,
    cancelAllOrdersAck config requestId response w = some after ∧
    Settles (performed config .cancelAllOrdersAck response) (rejectAllOrders config requestId) w after := by
  apply Acks.settles ?_ landed w
  constructor
  · intro body e w decoded
    simp only [decoded]
  · intro body ack w decoded good
    have success : ack.code = SYSTEM_CODE_SUCCESS := by simpa [succeeded] using good
    simp only [decoded,success,if_true]
    exact ⟨.allOrdersCancelled ack,rfl,rfl⟩
  · intro body ack w decoded bad
    have other : ack.code ≠ SYSTEM_CODE_SUCCESS := by simpa [succeeded] using bad
    simp only [decoded,other,if_false]
    exact ⟨_,rfl,_,_,_,_,rfl,rfl⟩

-- A run of the error handler dispatches one outcome, with the given status and
-- the names of the request.
def Rejects (config : Config) (submission : Submission)
    (reject : Origin → RequestStatus → Error → String → World E D R → World E D R) : Prop :=
  ∀ origin status error text w, status.isFailure = true → ∃ e,
    reject origin status error text w = w.emit e ∧ Concerns config submission e ∧ outcomeStatus e = some status

theorem rejectOrder_rejects {submission : Submission} (version : Nat)
    (own : ∀ origin status error text, Concerns config submission
      (.response (errorResponse requestType version origin status error text) config.orderEntryStreamId userId orderId)) :
    Rejects config submission (rejectOrder config requestType userId orderId version (E := E) (D := D) (R := R)) := by
  intro origin status error text w _
  exact ⟨_,rfl,own origin status error text,rfl⟩

theorem rejectAllOrders_rejects {submission : Submission} (own : submission.callback = .cancelAllOrdersAck) :
    Rejects config submission (rejectAllOrders config submission.requestId (E := E) (D := D) (R := R)) := by
  intro origin status error text w failed
  refine ⟨_,rfl,⟨own,rfl,rfl⟩,?_⟩
  have ended : status ≠ .forwarded := by
    intro same
    subst same
    cases failed
  exact if_neg ended

theorem settles_iff {submission : Submission} {reject : Origin → RequestStatus → Error → String → World E D R → World E D R}
    {before start after : World E D R} (rejects : Rejects config submission reject)
    (settles : Settles (performed config submission.callback response) reject start after)
    (log : start.log = fresh ++ before.log) (silent : outcomes fresh = []) :
    ExactlyOne config submission response before after ↔ performed config submission.callback response = false := by
  have grown : ∀ e, (start.emit e).log = (.effect e :: fresh) ++ before.log := by
    intro e
    rw [World.emit,log,List.cons_append]
  constructor
  · rintro ⟨newer,e,known,one,_⟩
    cases done : performed config submission.callback response with
    | false => rfl
    | true =>
        obtain ⟨note,quiet,rfl⟩ := settles.1 done
        have same : newer = .effect note :: fresh := List.append_cancel_right (known.symm.trans (grown note))
        have nothing : outcomes newer = [] := by
          rw [same,outcomes,List.filterMap_cons]
          simp only [quiet,Option.isSome_none,Bool.false_eq_true,if_false]
          exact silent
        rw [nothing] at one
        cases one
  · intro failed
    obtain ⟨origin,status,error,text,bad,rfl⟩ := settles.2 failed
    obtain ⟨e,rejected,concerns,known⟩ := rejects origin status error text start bad
    refine ⟨.effect e :: fresh,e,by rw [rejected,grown],?_,concerns,status,known,?_⟩
    · rw [outcomes,List.filterMap_cons]
      simp only [known,Option.isSome_some,if_true]
      exact congrArg (e :: ·) silent
    · simpa [failed] using bad

variable [Download2 E OrderEntryREST.State] [Download2 D DropCopy.State] [LimitRequest R]

theorem invoke_settles (submission : Submission) (own : isOrderAction submission.callback = true)
    (landed : redirects response = false) (start : World E D R) : ∃ reject after, Rejects config submission reject ∧
      invoke config t submission response start = some after ∧
      Settles (performed config submission.callback response) reject start after := by
  cases callback : submission.callback with
  | createOrderAck userId orderId =>
      simp only [invoke,callback]
      obtain ⟨after,ran,settles⟩ := createOrderAck_settles landed start
      refine ⟨_,after,rejectOrder_rejects 1 ?_,ran,settles⟩
      intro origin status error text
      simp [Concerns,callback,errorResponse]
  | cancelOrderAck userId orderId version =>
      simp only [invoke,callback]
      obtain ⟨after,ran,settles⟩ := cancelOrderAck_settles landed start
      refine ⟨_,after,rejectOrder_rejects version ?_,ran,settles⟩
      intro origin status error text
      simp [Concerns,callback,errorResponse]
  | cancelAllOrdersAck =>
      simp only [invoke,callback]
      obtain ⟨after,ran,settles⟩ := cancelAllOrdersAck_settles landed start
      exact ⟨_,after,rejectAllOrders_rejects callback,ran,settles⟩
  | _ =>
      rw [callback] at own
      cases own

theorem response_settles (t : TraceInfo) {id : Nat} {w : World E D R}
    (found : w.inFlight.find? (fun s => s.id == id) = some submission)
    (own : isOrderAction submission.callback = true) (landed : redirects response = false) :
    ∃ reject start after fresh, Rejects config submission reject ∧
      AccountSystem.step config w (.rest (.response t id response)) = some after ∧
      Settles (performed config submission.callback response) reject start after ∧
      start.log = fresh ++ w.log ∧ outcomes fresh = [] := by
  let start := answering submission (receive (.rest (.response t id response)) w)
  obtain ⟨reject,after,rejects,ran,settles⟩ := invoke_settles submission own landed start
  exact ⟨reject,start,after,[.effect (.answer submission),.event (.rest (.response t id response))],rejects,
    (step_response found).trans ran,settles,rfl,rfl⟩

-- Every response to an order action has its one outcome, if and only if the
-- action was not performed.
theorem actions_are_answered (config : Config) (w : World E D R) (t : TraceInfo) (id : Nat) (response : Web.Response)
    (submission : Submission) (found : w.inFlight.find? (fun s => s.id == id) = some submission)
    (own : isOrderAction submission.callback = true) (landed : redirects response = false) :
    ∃ after, AccountSystem.step config w (.rest (.response t id response)) = some after ∧
      (ExactlyOne config submission response w after ↔ performed config submission.callback response = false) := by
  obtain ⟨_,_,after,_,rejects,stepped,settles,log,silent⟩ := response_settles t found own landed
  exact ⟨after,stepped,settles_iff rejects settles log silent⟩

section closed
open Smallest

def order : CreateOrder where
  account := "A1"
  orderId := 7
  symbol := "XBTUSDTM"
  side := .buy
  orderType := .limit
  timeInForce := .gtc
  participateDoNotInitiate := false
  doNotIncrease := false
  quantity := 1
  price := 1
  stopPrice := nan

def placing : List Event := [.rest (.connected t),answer 0 (reply "ok"),.rest (.action (.createOrder ⟨5,t⟩ order ⟨0,0⟩ "R1"))]

def placed (w : Small) : Option Submission := w.inFlight.find? (fun s => s.id == 1)

theorem actions_are_answered_refusal : ∃ (w after : Small) (submission : Submission),
    placed w = some submission ∧ AccountSystem.step (setup true) w (answer 1 (reply "no")) = some after ∧
    ExactlyOne (setup true) submission (reply "no") w after := by
  have ran : (execute (AccountSystem.step (setup true)) (initial : Small) placing).any (fun w =>
      placed w |>.any fun s => isOrderAction s.callback && !performed (setup true) s.callback (reply "no")) = true := by
    decide +kernel
  obtain ⟨w,_,checked⟩ := (Option.any_eq_true _ _).mp ran
  obtain ⟨submission,found,own⟩ := (Option.any_eq_true _ _).mp checked
  simp only [Bool.and_eq_true,Bool.not_eq_true'] at own
  obtain ⟨after,stepped,exact⟩ := actions_are_answered (setup true) w t 1 (reply "no") submission found own.1 rfl
  exact ⟨w,after,submission,found,stepped,exact.mpr own.2⟩

-- It accepts the order, and nobody is told.
theorem accepted_order_unanswered : ¬ ∀ (w after : Small) (submission : Submission),
    Run (setup true) (fun _ _ => True) w → placed w = some submission → isOrderAction submission.callback = true →
    AccountSystem.step (setup true) w (answer 1 (reply "ok")) = some after →
    ExactlyOne (setup true) submission (reply "ok") w after := by
  intro all
  have ran : (execute (AccountSystem.step (setup true)) (initial : Small) placing).any (fun w =>
      placed w |>.any fun s => isOrderAction s.callback && performed (setup true) s.callback (reply "ok")) = true := by
    decide +kernel
  obtain ⟨w,executed,checked⟩ := (Option.any_eq_true _ _).mp ran
  obtain ⟨submission,found,own⟩ := (Option.any_eq_true _ _).mp checked
  simp only [Bool.and_eq_true] at own
  have landed : redirects (reply "ok") = false := rfl
  obtain ⟨_,_,after,_,rejects,stepped,settles,log,silent⟩ := response_settles t found own.1 landed
  have unanswered := (settles_iff rejects settles log silent).mp
    (all w after submission (execute_reached executed) found own.1 stepped)
  rw [own.2] at unanswered
  cases unanswered

end closed
end KucoinPro.OrderOutcome
