import Mathlib.Data.List.Forall2
import KucoinPro.AccountMoves

namespace KucoinPro.StaleOrderBatches
open GuardedRuns AccountSystem OrderEntryREST

variable {E D R : Type} (config : Config) [LimitRequest R]

-- The timer that picks up the request for the stale orders.
def pickedUp (w : World E D R) : Event → Bool
  | .rest (.timer _ refresh canRequest _ _) => picks config refresh canRequest w
  | _ => false

-- The answer to an order-detail request.
def isDetail (w : World E D R) (event : Event) : Bool :=
  (responseOf w event).any fun (submission,_) => submission.callback.kind == some .staleOrders

-- The one that commits the request: no other is in flight.
def commits (w : World E D R) (event : Event) : Bool := isDetail w event && w.rest.downloadStaleOrdersCounter == 1

-- None of the orders that are picked up is found, and no earlier one is waited for.
def vanishes (w : World E D R) : Event → Bool
  | .rest (.timer _ refresh canRequest findOrder _) =>
      picks config refresh canRequest w && (foundKeys findOrder w).isEmpty && w.rest.downloadStaleOrdersCounter == 0
  | _ => false

-- The account together with whether the request has been picked up and not been
-- committed since.
def follow (w : World E D R) (event : Event) (uncommitted : Bool) : Bool :=
  if pickedUp config w event then true else uncommitted && !commits w event

def track [Download2 E OrderEntryREST.State] [Download2 D DropCopy.State]
    (s : World E D R × Bool) (event : Event) : Option (World E D R × Bool) :=
  (AccountSystem.step config s.1 event).map fun after => (after,follow config s.1 event s.2)

def Counted (w : World E D R) : Prop := w.rest.downloadStaleOrdersCounter = (orderDetails w).length

-- `answered` is the log::fatal of get_order_ack, which a redirect has of its own.
structure Accounted [Download2 E OrderEntryREST.State] [Download2 D DropCopy.State] (s : World E D R × Bool) : Prop where
  counted : Counted s.1
  answered : ∀ t id submission response, s.1.inFlight.find? (fun s => s.id == id) = some submission →
    submission.callback.kind = some .staleOrders → redirects response = false →
    (AccountSystem.step config s.1 (.rest (.response t id response))).isSome = true
  committed : s.2 = true → 0 < (orderDetails s.1).length

-- What an event does to the stale orders and to the flag of their request.
inductive Batches (w : World E D R) (event : Event) (after : World E D R) : Prop where
  | copied : event = .dropCopy happened → after.rest = w.rest → after.inFlight = w.inFlight → Batches w event after
  | kept : event = .rest happened → pickedUp config w event = false → isDetail w event = false → Unbatched w after →
      (after.request.response .staleOrders = true → w.request.response .staleOrders = true) → Batches w event after
  | picked : event = .rest (.timer t refresh canRequest findOrder symbols) → picks config refresh canRequest w = true →
      Batched config t findOrder w after →
      (after.request.response .staleOrders = true → w.request.response .staleOrders = true) → Batches w event after
  | answered : event = .rest happened → pickedUp config w event = false → isDetail w event = true →
      after.rest.downloadStaleOrdersCounter + 1 = w.rest.downloadStaleOrdersCounter →
      (orderDetails after).length + 1 = (orderDetails w).length →
      after.request.detailsStaleOrders = w.request.detailsStaleOrders →
      after.request.response .staleOrders =
        (decide (after.rest.downloadStaleOrdersCounter = 0) || w.request.response .staleOrders) → Batches w event after

variable {config}

omit [LimitRequest R] in
theorem processResponse_logged {w : World E D R} (landed : redirects response = false) :
    processResponse config response logError (fun _ w => (.ok (),w)) w = some w := by
  cases empty : content response with
  | none =>
      have lands : ∃ after, processResponse config response logError (fun _ w => (.ok (),w)) w = some after ∧
          Fails logError w after := processResponse_lands landed empty
      obtain ⟨after,ran,_,_,_,_,_,rfl⟩ := lands
      exact ran
  | some body => rw [processResponse_content empty]; rfl

theorem getOrderAck_eq {w : World E D R} (landed : redirects response = false) :
    getOrderAck config t clientOrderId response w =
      if w.rest.downloadStaleOrdersCounter = 0 then none
      else
        let counted := {w with rest.downloadStaleOrdersCounter := w.rest.downloadStaleOrdersCounter - 1}
        some (if counted.rest.downloadStaleOrdersCounter = 0 then commit t .staleOrders counted else counted) := by
  rw [getOrderAck,processResponse_logged landed]
  rfl

theorem getOrderAck_landed {w after : World E D R} (ran : getOrderAck config t clientOrderId response w = some after) :
    redirects response = false := by
  cases landed : redirects response with
  | false => rfl
  | true =>
      rw [getOrderAck,processResponse_redirects landed] at ran
      cases ran

omit [LimitRequest R] in
theorem answering_detail {id : Nat} {w : World E D R} (found : w.inFlight.find? (fun s => s.id == id) = some submission)
    (detail : (submission.callback.kind == some .staleOrders) = true) :
    (orderDetails (answering submission w)).length + 1 = (orderDetails w).length := by
  obtain ⟨earlier,later,before,after⟩ := answering_split found
  rw [orderDetails,orderDetails,before,after]
  simp only [List.filter_append,List.filter_cons,detail,if_true,List.length_append,List.length_cons]
  omega

omit [LimitRequest R] in
theorem answering_kept {id : Nat} {w : World E D R} (found : w.inFlight.find? (fun s => s.id == id) = some submission)
    (other : (submission.callback.kind == some .staleOrders) = false) :
    orderDetails (answering submission w) = orderDetails w := by
  obtain ⟨earlier,later,before,after⟩ := answering_split found
  rw [orderDetails,orderDetails,before,after]
  simp only [List.filter_append,List.filter_cons,other,Bool.false_eq_true,if_false]

theorem detail_callback {callback : Callback} (detail : callback.kind = some .staleOrders) :
    ∃ clientOrderId, callback = .getOrderAck clientOrderId := by
  cases callback with
  | getOrderAck clientOrderId => exact ⟨clientOrderId,rfl⟩
  | _ => cases detail

theorem receive_unbatched (event : Event) (w : World E D R) : Unbatched w (receive event w) := ⟨⟨rfl,rfl,rfl⟩,rfl⟩

variable [Download2 E OrderEntryREST.State] [Download2 D DropCopy.State] [LawfulDownload2 E] [LawfulLimitRequest R]

theorem answered_batches {id : Nat} {w after : World E D R} (found : w.inFlight.find? (fun s => s.id == id) = some submission)
    (ran : AccountSystem.step config w (.rest (.response t id response)) = some after) :
    Batches config w (.rest (.response t id response)) after := by
  have answer : responseOf w (.rest (.response t id response)) = some (submission,response) :=
    responseOf_iff.mpr ⟨t,id,rfl,found⟩
  rw [step_response found] at ran
  by_cases detail : submission.callback.kind = some .staleOrders
  · obtain ⟨clientOrderId,callback⟩ := detail_callback detail
    simp only [invoke,callback] at ran
    rw [getOrderAck_eq (getOrderAck_landed ran)] at ran
    have fewer := answering_detail found (by simp [detail])
    split at ran
    · cases ran
    · rename_i positive
      have counter : (w.rest.downloadStaleOrdersCounter - 1) + 1 = w.rest.downloadStaleOrdersCounter := by
        have known : ¬ w.rest.downloadStaleOrdersCounter = 0 := positive
        omega
      obtain rfl := Option.some.inj ran
      refine .answered rfl rfl (by simp [isDetail,answer,detail]) ?_ ?_ ?_ ?_
      all_goals split
      · exact counter
      · exact counter
      · exact fewer
      · exact fewer
      · rfl
      · rfl
      · rename_i last
        have zero : w.rest.downloadStaleOrdersCounter - 1 = 0 := last
        simp [commit,answering,receive,World.emit,zero]
      · rename_i more
        have positive : ¬ w.rest.downloadStaleOrdersCounter - 1 = 0 := more
        simp [answering,receive,World.emit,positive]
  · have serves := invoke_serves ran
    have other : (submission.callback.kind == some .staleOrders) = false := by simpa using detail
    have same := serves.unbatched.resolve_left detail
    have asked : orderDetails after = orderDetails w := same.asked.trans (answering_kept found other)
    refine .kept rfl rfl (by simp [isDetail,answer,detail]) ⟨⟨same.counter,asked,same.details⟩,same.pending⟩ ?_
    intro set
    exact (serves.response .staleOrders set).resolve_right detail

theorem step_batches {w after : World E D R} (ran : AccountSystem.step config w event = some after) : Batches config w event after := by
  cases event with
  | dropCopy happened =>
      rcases step_dropCopy config ran with ⟨_,rfl⟩ | ⟨_,_,_,_,rfl⟩
      · exact .copied rfl rfl rfl
      · exact .copied rfl rfl rfl
  | rest happened =>
      have served : OrderEntryREST.step config (receive (.rest happened) w) happened = some after := ran
      cases happened with
      | response t id response =>
          cases found : w.inFlight.find? (fun s => s.id == id) with
          | some submission => exact answered_batches found ran
          | none =>
              have unknown : (receive (.rest (.response t id response)) w).inFlight.find? (fun s => s.id == id) = none := found
              simp only [AccountSystem.step,OrderEntryREST.step,onResponse,unknown,Option.some.injEq] at ran
              subst ran
              exact .kept rfl rfl (by simp [isDetail,responseOf,found]) ⟨⟨rfl,rfl,rfl⟩,rfl⟩ fun set => set
      | timer t refresh canRequest findOrder symbols =>
          have serves := step_serves served (fun _ _ _ same => by cases same)
          have flag := fun set => (serves.response .staleOrders set).resolve_right id
          have start := receive_unbatched (.rest (.timer t refresh canRequest findOrder symbols)) w
          obtain rfl := Option.some.inj ran
          cases due : picks config refresh canRequest w with
          | true =>
              have batched := onTimer_picks (t := t) canRequest findOrder symbols
                (receive (.rest (.timer t refresh canRequest findOrder symbols)) w) due
              exact .picked rfl due (.around start.toUnasked batched (.fields rfl rfl rfl)) flag
          | false => exact .kept rfl due rfl (start.trans (onTimer_passes canRequest findOrder symbols _ due)) flag
      | connected | disconnected | action =>
          have serves := step_serves served (fun _ _ _ same => by cases same)
          have kept := serves.unbatched.resolve_left (fun timer => by cases timer)
          exact .kept rfl rfl rfl ((receive_unbatched _ w).trans kept) fun set => (serves.response .staleOrders set).resolve_right id

-- The flag of the request is set where `follow` says that it is committed.
theorem commits_exactly {w after : World E D R} (ran : AccountSystem.step config w event = some after)
    (detail : isDetail w event = true) :
    after.request.response .staleOrders = (commits w event || w.request.response .staleOrders) := by
  cases step_batches ran with
  | copied same => subst same; cases detail
  | kept _ _ other => rw [other] at detail; cases detail
  | picked same => subst same; cases detail
  | answered _ _ _ counter _ _ flag =>
      have last : decide (after.rest.downloadStaleOrdersCounter = 0) = (w.rest.downloadStaleOrdersCounter == 1) := by
        rw [Bool.eq_iff_iff,decide_eq_true_eq,beq_iff_eq]
        omega
      rw [flag,commits,detail,Bool.true_and,last]

omit [Download2 E OrderEntryREST.State] [Download2 D DropCopy.State] [LimitRequest R] [LawfulDownload2 E]
  [LawfulLimitRequest R] in
theorem batched_length {w after : World E D R} (batched : Batched config t findOrder w after) :
    (orderDetails after).length = (foundKeys findOrder w).length + (orderDetails w).length := by
  obtain ⟨fresh,asked,each⟩ := batched.asked
  rw [asked,List.length_append,each.length_eq,List.length_reverse]

theorem step_counted {w after : World E D R} (counted : Counted w) (ran : AccountSystem.step config w event = some after) :
    Counted after := by
  unfold Counted at counted ⊢
  cases step_batches ran with
  | copied _ rest inFlight => rw [rest,orderDetails,inFlight,counted,orderDetails]
  | kept _ _ _ same => rw [same.counter,same.asked,counted]
  | picked _ _ batched => rw [batched.counter,batched_length batched,counted,Nat.add_comm]
  | answered _ _ _ counter fewer => omega

omit [LawfulDownload2 E] [LawfulLimitRequest R] in
theorem counted_answers {w : World E D R} {id : Nat} (counted : Counted w)
    (found : w.inFlight.find? (fun s => s.id == id) = some submission) (detail : submission.callback.kind = some .staleOrders)
    (landed : redirects response = false) : (AccountSystem.step config w (.rest (.response t id response))).isSome = true := by
  obtain ⟨clientOrderId,callback⟩ := detail_callback detail
  have member : submission ∈ orderDetails w :=
    List.mem_filter.mpr ⟨List.mem_of_find?_eq_some found,by simp [detail]⟩
  have positive : w.rest.downloadStaleOrdersCounter ≠ 0 := by
    rw [counted]
    exact Nat.pos_iff_ne_zero.mp (List.length_pos_of_mem member)
  rw [step_response found]
  simp only [invoke,callback,getOrderAck_eq landed]
  split
  · rename_i zero
    exact absurd zero positive
  · rfl

theorem step_committed {w after : World E D R} (counted : Counted w) (committed : uncommitted = true → 0 < (orderDetails w).length)
    (kept : vanishes config w event = false) (ran : AccountSystem.step config w event = some after)
    (waits : follow config w event uncommitted = true) : 0 < (orderDetails after).length := by
  have known := step_counted counted ran
  unfold Counted at counted known
  cases step_batches ran with
  | copied same _ inFlight =>
      subst same
      rw [orderDetails,inFlight]
      exact committed (by simpa [follow,pickedUp,commits,isDetail,responseOf] using waits)
  | kept _ unpicked other same =>
      rw [same.asked]
      exact committed (by simpa [follow,unpicked,commits,other] using waits)
  | @picked t refresh canRequest findOrder symbols same due batched =>
      subst same
      rw [batched_length batched]
      -- an order is found, or another request is in flight
      by_cases none : foundKeys findOrder w = []
      · have positive : w.rest.downloadStaleOrdersCounter ≠ 0 := by simpa [vanishes,due,none] using kept
        omega
      · have some := List.length_pos_iff.mpr none
        omega
  | answered _ unpicked detail counter _ =>
      have more : w.rest.downloadStaleOrdersCounter ≠ 1 := by
        simp only [follow,unpicked,Bool.false_eq_true,if_false,Bool.and_eq_true] at waits
        simpa [commits,detail] using waits.2
      omega

omit [LawfulDownload2 E] [LawfulLimitRequest R] in
theorem track_step {s after : World E D R × Bool} (ran : track config s event = some after) :
    AccountSystem.step config s.1 event = some after.1 ∧ after.2 = follow config s.1 event s.2 := by
  obtain ⟨w,stepped,rfl⟩ := Option.map_eq_some_iff.mp ran
  exact ⟨stepped,rfl⟩

omit [Download2 D DropCopy.State] [LawfulDownload2 E] [LawfulLimitRequest R] in
theorem initial_counted : Counted (initial : World E D R) := rfl

theorem reached_counted {s : World E D R × Bool} (path : Reached (initial,false) (track config) allowed s) : Counted s.1 := by
  induction path with
  | start => exact initial_counted
  | step _ _ ran ih => exact step_counted ih (track_step ran).1

theorem reached_committed {s : World E D R × Bool}
    (path : Reached (initial,false) (track config) (fun s event => vanishes config s.1 event = false) s) :
    s.2 = true → 0 < (orderDetails s.1).length := by
  induction path with
  | start => nofun
  | step path kept ran ih =>
      obtain ⟨stepped,followed⟩ := track_step ran
      intro waits
      exact step_committed (reached_counted path) ih kept stepped (followed ▸ waits)

theorem vanished_unaccounted {s after : World E D R × Bool} (counted : Counted s.1) (gone : vanishes config s.1 event = true)
    (ran : track config s event = some after) : ¬ Accounted config after := by
  intro accounted
  obtain ⟨stepped,followed⟩ := track_step ran
  unfold Counted at counted
  unfold vanishes at gone
  split at gone
  · rename_i t refresh canRequest findOrder symbols
    simp only [Bool.and_eq_true,beq_iff_eq,List.isEmpty_iff] at gone
    obtain ⟨⟨due,none⟩,zero⟩ := gone
    have taken : pickedUp config s.1 (.rest (.timer t refresh canRequest findOrder symbols)) = true := due
    cases step_batches stepped with
    | copied same => cases same
    | kept _ unpicked => rw [taken] at unpicked; cases unpicked
    | answered _ unpicked => rw [taken] at unpicked; cases unpicked
    | picked same _ batched =>
        cases same
        have waits : after.2 = true := by rw [followed,follow,if_pos taken]
        have positive := accounted.committed waits
        rw [batched_length batched,none,List.length_nil] at positive
        omega
  · cases gone

-- Every request is accounted for in exactly the runs in which no batch vanishes.
theorem batches_are_accounted_for (config : Config) (events : List Event) :
    EveryStep (track config) ((initial : World E D R),false) events (fun _ _ after => Accounted config after) ↔
      EveryStep (track config) ((initial : World E D R),false) events (fun s event _ => vanishes config s.1 event = false) := by
  apply everyStep_exactly
  · intro s event after path ran gone
    exact vanished_unaccounted (reached_counted path) gone ran
  · intro s event after path ran kept
    have counted := step_counted (reached_counted path) (track_step ran).1
    exact ⟨counted,fun _ _ _ _ found detail landed => counted_answers counted found detail landed,
      reached_committed (.step path kept ran)⟩

section closed
open Smallest

def lost : Order := ⟨1,7,"XBTUSDTM","C1","E1"⟩

def pollFor (findOrder : Nat → Nat → Option Order) : Event := .rest (.timer t true (fun _ => true) findOrder [])

-- One order is found, and its request fails: the batch is committed all the same.
def oneBatch : List Event := toStaleOrders [lost] ++ [pollFor (fun _ _ => some lost),answer 4 (failure 500),tick]

theorem batches_are_accounted_for_once :
    EveryStep (track (setup true)) ((initial : Small),false) oneBatch (fun _ _ after => Accounted (setup true) after) := by
  apply (batches_are_accounted_for (setup true) oneBatch).mpr
  apply everyStep_never (fun (s : Small × Bool) event => vanishes (setup true) s.1 event)
  decide +kernel

-- The order is gone by the time it is looked up: nobody commits the request.
theorem empty_batch_is_never_committed : ¬ ∀ events,
    EveryStep (track (setup true)) ((initial : Small),false) events (fun _ _ after => Accounted (setup true) after) := by
  intro all
  obtain ⟨s,after,executed,stepped,gone⟩ := met_at_last ((initial : Small),false) (track (setup true))
    (fun s event => vanishes (setup true) s.1 event) (toStaleOrders [lost]) (pollFor (fun _ _ => none)) (by decide +kernel)
  exact vanished_unaccounted (reached_counted (execute_reached executed)) gone stepped ((all _).last executed stepped)

end closed
end KucoinPro.StaleOrderBatches
