import KucoinPro.OrderFlow

namespace KucoinPro.OrderLedger
open GuardedRuns AccountSystem OrderOutcome EffectCauses OrderFlow ControllerSystem

section accounts
variable {E D R : Type} {config : Config}

-- The order a request is about: who it is from, which order, which version of it.
abbrev Key := RequestType × Nat × Nat × Nat

def keyOf (s : Submission) : Option Key :=
  match s.callback with
  | .createOrderAck userId orderId => some (.createOrder,userId,orderId,1)
  | .cancelOrderAck userId orderId version => some (.cancelOrder,userId,orderId,version)
  | _ => none

def reported : Entry → Option Key
  | .effect (.response response _ userId orderId) => some (response.requestType,userId,orderId,response.version)
  | _ => none

-- Oldest first.
def answersIn (log : List Entry) : List Submission := (log.filterMap answerOf).reverse
def responsesIn (log : List Entry) : List Key := (log.filterMap reported).reverse

-- What was asked for has been answered or is in flight, and what is reported has been
-- answered.
structure Balanced (w : World E D R) : Prop where
  numbered : Numbered w
  balance : (w.log.filterMap answerOf ++ w.inFlight).Perm (w.log.filterMap submissionOf)
  reports : (w.log.filterMap reported).Sublist ((w.log.filterMap answerOf).filterMap keyOf)

theorem initial_balanced [Download2 E OrderEntryREST.State] [LimitRequest R]
    : Balanced (AccountSystem.initial : World E D R) := ⟨rfl,.nil,.slnil⟩

theorem causes_unanswered (causes : Causes config cause e) : answerOf (.effect e) = none := by
  cases causes with
  | @quiet e silent =>
      cases e with
      | answer => cases silent
      | _ => rfl
  | noted known =>
      cases e with
      | answer => simp [notes] at known
      | _ => rfl
  | _ => rfl

-- A response is about the order that has been answered.
theorem concerns_reported (concerns : Concerns config s e) (about : reported (.effect e) = some key) : keyOf s = some key := by
  cases e with
  | response response streamId userId orderId =>
      obtain ⟨_,concerns⟩ := concerns
      obtain rfl := Option.some.inj about
      cases callback : s.callback with
      | createOrderAck =>
          simp only [callback] at concerns
          obtain ⟨kind,rfl,rfl,version⟩ := concerns
          rw [keyOf,callback,kind,version]
      | cancelOrderAck =>
          simp only [callback] at concerns
          obtain ⟨kind,rfl,rfl,version⟩ := concerns
          rw [keyOf,callback,kind,version]
      | _ =>
          simp only [callback] at concerns
  | _ => cases about

theorem causes_reported (causes : Causes config cause e) (about : reported (.effect e) = some key) :
    ∃ s, cause = .answer s ∧ keyOf s = some key := by
  cases causes with
  | quiet silent =>
      cases e with
      | response => cases silent
      | _ => cases about
  | noted known =>
      cases e with
      | response => simp [notes] at known
      | _ => cases about
  | outcome concerns => exact ⟨_,rfl,concerns_reported concerns about⟩
  | _ => cases about

theorem order_reported {s : Submission} (other : isOrderAction s.callback = false) : keyOf s = none := by
  unfold keyOf
  cases callback : s.callback with
  | createOrderAck =>
      rw [callback] at other
      cases other
  | cancelOrderAck =>
      rw [callback] at other
      cases other
  | _ => rfl

-- The answer to an order makes for one effect, whatever the answer is.
theorem invoke_emits [Download2 E OrderEntryREST.State] [Download2 D DropCopy.State] [LimitRequest R]
    {s : Submission} {w after : World E D R} (own : isOrderAction s.callback = true)
    (ran : OrderEntryREST.invoke config t s response w = some after) :
    ∃ e, after = w.emit e ∧ (outcomeStatus e = none ∨ Concerns config s e) := by
  cases redirects : OrderEntryREST.redirects response with
  | true =>
      have fatal : OrderEntryREST.invoke config t s response w = none := by
        unfold OrderEntryREST.invoke
        cases callback : s.callback with
        | createOrderAck => exact OrderEntryREST.processResponse_redirects redirects
        | cancelOrderAck => exact OrderEntryREST.processResponse_redirects redirects
        | cancelAllOrdersAck => exact OrderEntryREST.processResponse_redirects redirects
        | _ =>
            rw [callback] at own
            cases own
      rw [fatal] at ran
      cases ran
  | false =>
      obtain ⟨reject,last,rejects,same,settles⟩ := invoke_settles s own redirects w
      obtain rfl := Option.some.inj (same.symm.trans ran)
      cases done : performed config s.callback response with
      | true =>
          obtain ⟨note,silent,rfl⟩ := settles.1 done
          exact ⟨note,rfl,.inl silent⟩
      | false =>
          obtain ⟨origin,status,error,text,failed,rfl⟩ := settles.2 done
          obtain ⟨e,emitted,concerns,_⟩ := rejects origin status error text w failed
          exact ⟨e,emitted,.inr concerns⟩

theorem silent_reported (silent : outcomeStatus e = none) : reported (.effect e) = none := by
  cases e with
  | response => cases silent
  | _ => rfl

-- An answer is taken out of what is in flight.
theorem prepared_balance {w : World E D R} (balanced : Balanced w) (event : Event) :
    ((prepared w event).log.filterMap answerOf ++ (prepared w event).inFlight).Perm
      ((prepared w event).log.filterMap submissionOf) := by
  unfold prepared
  split
  · rename_i s response happens
    obtain ⟨t,id,rfl,found⟩ := responseOf_iff.mp happens
    obtain ⟨earlier,later,split,taken⟩ := OrderEntryREST.answering_split found
    have moved : ((s :: w.log.filterMap answerOf) ++ (earlier ++ later)).Perm
        (w.log.filterMap answerOf ++ w.inFlight) := by
      rw [split,List.cons_append,← List.append_assoc,← List.append_assoc]
      exact List.perm_middle.symm
    have flying : (OrderEntryREST.answering s (receive (.rest (.response t id response)) w)).inFlight = earlier ++ later := taken
    rw [flying]
    exact moved.trans balanced.balance
  · exact balanced.balance

-- What is answered is reported at most once, where it is an order.
theorem answered_reports {w : World E D R} (balanced : Balanced w) (once : reported (.effect e) = none ∨ reported (.effect e) = keyOf s) :
    ((.effect e :: .effect (.answer s) :: .event event :: w.log).filterMap reported).Sublist
      ((s :: w.log.filterMap answerOf).filterMap keyOf) := by
  cases known : reported (.effect e) with
  | none =>
      rw [List.filterMap_cons_none known]
      change (w.log.filterMap reported).Sublist ((s :: w.log.filterMap answerOf).filterMap keyOf)
      cases own : keyOf s with
      | none =>
          rw [List.filterMap_cons_none own]
          exact balanced.reports
      | some key =>
          rw [List.filterMap_cons_some own]
          exact balanced.reports.cons key
  | some key =>
      have own : keyOf s = some key := by
        rcases once with none | same
        · rw [known] at none
          cases none
        · exact same.symm.trans known
      rw [List.filterMap_cons_some known,List.filterMap_cons_some own]
      exact balanced.reports.cons_cons key

theorem prepared_numbered {w : World E D R} (balanced : Balanced w) (event : Event) : Numbered (prepared w event) := by
  unfold prepared
  split
  · exact balanced.numbered
  · exact balanced.numbered

theorem Balanced.moved {start after : World E D R} (numbered : Numbered start)
    (balance : (start.log.filterMap answerOf ++ start.inFlight).Perm (start.log.filterMap submissionOf))
    (adds : Adds config cause start after)
    (reports : (after.log.filterMap reported).Sublist ((start.log.filterMap answerOf).filterMap keyOf)) : Balanced after := by
  obtain ⟨fresh,log,causes,flying⟩ := adds.fresh
  have unanswered : after.log.filterMap answerOf = start.log.filterMap answerOf := by
    have none : (fresh.map Entry.effect).filterMap answerOf = [] := by
      rw [List.filterMap_map,List.filterMap_eq_nil_iff]
      exact fun e member => causes_unanswered (causes e member)
    rw [log,List.filterMap_append,none,List.nil_append]
  refine ⟨adds.numbered numbered,?_,by rwa [unanswered]⟩
  rw [unanswered,log,flying,List.filterMap_append]
  refine List.Perm.trans ?_ (balance.append_left _)
  rw [← List.append_assoc,← List.append_assoc]
  exact List.perm_append_comm.append_right _

-- Nothing is reported where no order has been answered.
theorem unanswered_reports {start after : World E D R} (adds : Adds config cause start after)
    (other : ∀ s, cause = .answer s → isOrderAction s.callback = false) :
    after.log.filterMap reported = start.log.filterMap reported := by
  obtain ⟨fresh,log,causes,_⟩ := adds.fresh
  have unreported : (fresh.map Entry.effect).filterMap reported = [] := by
    rw [List.filterMap_map,List.filterMap_eq_nil_iff]
    intro e member
    cases about : reported (.effect e) with
    | none => exact about
    | some key =>
        obtain ⟨s,same,known⟩ := causes_reported (causes e member) about
        rw [order_reported (other s same)] at known
        cases known
  rw [log,List.filterMap_append,unreported,List.nil_append]

variable [Download2 E OrderEntryREST.State] [Download2 D DropCopy.State] [LimitRequest R] [LawfulDownload2 E]
  [LawfulDownload2 D] [LawfulLimitRequest R]

theorem step_balanced {w after : World E D R} {event : Event} (balanced : Balanced w)
    (ran : AccountSystem.step config w event = some after) : Balanced after := by
  have adds := step_adds ran
  refine Balanced.moved (prepared_numbered balanced event) (prepared_balance balanced event) adds ?_
  cases happens : responseOf w event with
  | none =>
      have idle : ∀ s, causeOf w event = .answer s → isOrderAction s.callback = false := by
        intro s same
        simp only [causeOf,happens] at same
        split at same <;> cases same
      rw [unanswered_reports adds idle]
      simp only [prepared,happens]
      exact balanced.reports
  | some answered =>
      obtain ⟨s,response⟩ := answered
      simp only [causeOf,prepared,happens] at adds ⊢
      cases own : isOrderAction s.callback with
      | false =>
          have idle : ∀ other, Cause.answer s = .answer other → isOrderAction other.callback = false := by
            intro other same
            cases same
            exact own
          rw [unanswered_reports adds idle]
          change (w.log.filterMap reported).Sublist ((s :: w.log.filterMap answerOf).filterMap keyOf)
          rw [List.filterMap_cons_none (order_reported own)]
          exact balanced.reports
      | true =>
          obtain ⟨t,id,rfl,found⟩ := responseOf_iff.mp happens
          rw [step_response found] at ran
          obtain ⟨e,rfl,about⟩ := invoke_emits own ran
          refine answered_reports balanced ?_
          rcases about with silent | concerns
          · exact .inl (silent_reported silent)
          · cases known : reported (.effect e) with
            | none => exact .inl rfl
            | some key => exact .inr (concerns_reported concerns known).symm

omit [Download2 E OrderEntryREST.State] [Download2 D DropCopy.State] [LimitRequest R] [LawfulDownload2 E] [LawfulDownload2 D]
  [LawfulLimitRequest R] in
theorem Balanced.distinct {w : World E D R} (balanced : Balanced w) :
    ((answersIn w.log ++ w.inFlight).map (·.id)).Nodup := by
  have ids : ((answersIn w.log ++ w.inFlight).map (·.id)).Perm (List.range w.submitted).reverse := by
    rw [← balanced.numbered]
    exact (((List.reverse_perm _).append_right _).trans balanced.balance).map _
  exact ids.symm.nodup (List.nodup_reverse.mpr List.nodup_range)

omit [Download2 E OrderEntryREST.State] [Download2 D DropCopy.State] [LimitRequest R] [LawfulDownload2 E] [LawfulDownload2 D]
  [LawfulLimitRequest R] in
theorem Balanced.orders {w : World E D R} (balanced : Balanced w) :
    (((answersIn w.log ++ w.inFlight).filter fun s => isOrderAction s.callback).map orderOf).Perm (ordersIn w.log) := by
  have all : (answersIn w.log ++ w.inFlight).Perm (w.log.filterMap submissionOf) :=
    ((List.reverse_perm _).append_right _).trans balanced.balance
  exact ((all.filter _).trans (List.reverse_perm _).symm).map _

end accounts

section controller
variable {Y S B E D R : Type} {Q : Type → Type} {config : ControllerConfig} [Symbols Y] [LimitQueue Q] [Sequencer S B]
  [Download2 E OrderEntryREST.State] [Download2 D DropCopy.State] [LimitRequest R] [LawfulDownload2 E] [LawfulDownload2 D]
  [LawfulLimitRequest R]

-- Every order that a client was told had been taken is in flight or has been answered,
-- once, and nobody is told of an outcome but that of an order that has been answered.
theorem orders_are_settled {c : Controller Y Q S B E D R} {events : List (ControllerEvent B)} {index : Nat}
    (ran : execute (step config) (create config) events = some c) (present : c.accounts[index]? = some a) :
    ((answersIn a.world.log ++ a.world.inFlight).map (·.id)).Nodup ∧
      (((answersIn a.world.log ++ a.world.inFlight).filter fun s => isOrderAction s.callback).map orderOf).Perm
        (projection (step config) (acceptedRest config index) (create config : Controller Y Q S B E D R) events) ∧
      (responsesIn a.world.log).Sublist ((answersIn a.world.log).filterMap keyOf) := by
  have balanced : Balanced a.world := run_account ran present initial_balanced fun _ _ _ known stepped => step_balanced known stepped
  refine ⟨balanced.distinct,run_orders ran present ▸ balanced.orders,?_⟩
  rw [responsesIn,answersIn,List.filterMap_reverse]
  exact balanced.reports.reverse

end controller

section closed
open Smallest

-- Two orders, of which one is refused by the exchange and the other still in flight.
def refusing : List (ControllerEvent Unit) :=
  [connects 1,answers 1 0 (reply "ok"),order "A2",order "A2",answers 1 1 (reply "no"),answers 1 1 (reply "no")]

theorem orders_are_settled_refusing : ∃ (c : SmallController) (a : AccountStreams _ _ _),
    execute (step (twoAccounts "")) (create (twoAccounts "")) refusing = some c ∧ c.accounts[1]? = some a ∧
      a.world.inFlight.length = 1 ∧ responsesIn a.world.log = [(.createOrder,5,7,1)] ∧
      (responsesIn a.world.log).Sublist ((answersIn a.world.log).filterMap keyOf) ∧
      (((answersIn a.world.log ++ a.world.inFlight).filter fun s => isOrderAction s.callback).map orderOf).Perm
        (projection (step (twoAccounts "")) (acceptedRest (twoAccounts "") 1) (create (twoAccounts "") : SmallController) refusing) := by
  have checked : (execute (step (twoAccounts "")) (create (twoAccounts "") : SmallController) refusing).any (fun c =>
      (c.accounts[1]?).any fun a => a.world.inFlight.length == 1 && responsesIn a.world.log == [(.createOrder,5,7,1)]) = true := by
    decide +kernel
  obtain ⟨c,ran,inside⟩ := (Option.any_eq_true _ _).mp checked
  obtain ⟨a,present,known⟩ := (Option.any_eq_true _ _).mp inside
  simp only [Bool.and_eq_true,beq_iff_eq] at known
  obtain ⟨_,settled,reports⟩ := orders_are_settled ran present
  exact ⟨c,a,ran,present,known.1,known.2,reports,settled⟩

end closed
end KucoinPro.OrderLedger
