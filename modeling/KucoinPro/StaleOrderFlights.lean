import KucoinPro.StaleOrderBatches
import KucoinPro.StaleOrderDownload

namespace KucoinPro.StaleOrderFlights
open GuardedRuns AccountSystem OrderEntryREST StagedWalk StaleOrderBatches

variable {E D R : Type} (config : Config)

-- An order-detail request and the order (user_id, order_id) it was submitted for.
abbrev Query := (Nat × Nat) × Submission

def keyOf (order : Order) : Nat × Nat := (order.userId,order.orderId)

-- The order-detail requests that a step submits, newest first.
def submittedDetails (before after : World E D R) : List Submission :=
  (orderDetails after).take ((orderDetails after).length - (orderDetails before).length)

-- The queries in flight: the orders that are picked up and found are asked for one
-- after the other, and an answer ends one.
def follow [LimitRequest R] (w : World E D R) (event : Event) (after : World E D R) (queries : List Query) : List Query :=
  match event with
  | .rest (.timer _ refresh canRequest findOrder _) =>
      if picks config refresh canRequest w then (foundKeys findOrder w).reverse.zip (submittedDetails w after) ++ queries
      else queries
  | .rest (.response _ id _) =>
      if isDetail w event then queries.eraseP (fun query => query.2.id == id) else queries
  | .rest (.connected _) | .rest (.disconnected _) | .rest (.action _) | .dropCopy _ => queries

variable [Download2 E OrderEntryREST.State] [Download2 D DropCopy.State] [LimitRequest R]

def track (s : World E D R × List Query) (event : Event) : Option (World E D R × List Query) :=
  (AccountSystem.step config s.1 event).map fun after => (after,follow config s.1 event after s.2)

-- One step: no order whose query is in flight is newly lost, and no order has two.
structure Single (before : World E D R × List Query) (after : World E D R × List Query) : Prop where
  counted : ∀ query ∈ before.2, query.1 ∉ before.1.request.detailsStaleOrders → query.1 ∉ after.1.request.detailsStaleOrders
  asked : (after.2.map (·.1)).Nodup

-- A timer looks for stale orders: when the open orders are there, and every so often
-- on a stream that is READY or becomes so with this timer.
def scans (t : TraceInfo) (c : Session D R) : Bool :=
  let due := decide (c.stream.nextCheckStaleOrders < t.originCreateTime)
  if DropCopy.answered c then DropCopy.stateOf c == .getOpenOrders || (DropCopy.stateOf c == .getTrades && due)
  else DropCopy.isReady c && due

-- What the dispatcher reports to it.
def reportedTo (c : Session D R) : DropCopyEvent → List Order
  | .timer t _ refresh staleOrders => if refresh && scans t c then staleOrders else []
  | .connected _ | .disconnected _ | .welcome _ | .error _ _ | .ack _ _ | .logged | .unexpected => []

def reported (w : World E D R) : Event → List Order
  | .dropCopy happened => (w.dropCopy.map fun stream => reportedTo (session stream w) happened).getD []
  | .rest _ => []

-- An order is reported again while its query is in flight.
def reportsAgain (s : World E D R × List Query) (event : Event) : Bool :=
  (reported s.1 event).any fun order => s.2.any fun query => query.1 == keyOf order

-- What a scan does to the set of orders.
structure Scanned (orders : List Order) (before after : Session D R) : Prop where
  details : ∀ key, key ∈ after.request.detailsStaleOrders ↔ key ∈ orders.map keyOf ∨ key ∈ before.request.detailsStaleOrders
  nodup : before.request.detailsStaleOrders.Nodup → after.request.detailsStaleOrders.Nodup

omit [Download2 D DropCopy.State] [LimitRequest R] in
theorem Scanned.none {before after : Session D R} (same : after.request.detailsStaleOrders = before.request.detailsStaleOrders) :
    Scanned [] before after := by
  constructor
  · intro key
    simp [same]
  · intro distinct
    rw [same]
    exact distinct

omit [Download2 D DropCopy.State] [LimitRequest R] in
theorem Scanned.around {a b c d : Session D R} (first : b.request.detailsStaleOrders = a.request.detailsStaleOrders)
    (scanned : Scanned orders b c) (second : d.request.detailsStaleOrders = c.request.detailsStaleOrders) : Scanned orders a d := by
  constructor
  · intro key
    rw [second,scanned.details,first]
  · intro distinct
    rw [second]
    exact scanned.nodup (first ▸ distinct)

omit [Download2 D DropCopy.State] [LimitRequest R] in
theorem Scanned.trans {a b c : Session D R} (one : Scanned orders a b) (two : Scanned more b c) : Scanned (orders ++ more) a c := by
  constructor
  · intro key
    rw [two.details,one.details,List.map_append,List.mem_append,or_left_comm,or_assoc]
  · exact fun distinct => two.nodup (one.nodup distinct)

section details
variable {config} {t : TraceInfo} {c after : Session D R}

omit [Download2 D DropCopy.State] [LimitRequest R] in
theorem checkStaleOrders_scanned (orders : List Order) (c : Session D R) :
    Scanned orders c (DropCopy.checkStaleOrders orders c).2 := by
  unfold DropCopy.checkStaleOrders
  generalize false = found
  induction orders generalizing found c with
  | nil => exact .none rfl
  | cons order rest ih =>
      rw [List.foldl_cons]
      by_cases known : (order.userId,order.orderId) ∈ c.request.detailsStaleOrders
      · simp only [known,if_true]
        have scanned := ih c found
        refine ⟨?_,scanned.nodup⟩
        intro key
        rw [scanned.details,List.map_cons,List.mem_cons]
        constructor
        · exact fun present => present.imp_left .inr
        · rintro ((rfl | listed) | present)
          · exact .inr known
          · exact .inl listed
          · exact .inr present
      · simp only [known,if_false]
        have scanned := ih {c with
          request.detailsStaleOrders := (order.userId,order.orderId) :: c.request.detailsStaleOrders} true
        refine ⟨?_,fun distinct => scanned.nodup (List.nodup_cons.mpr ⟨known,distinct⟩)⟩
        intro key
        rw [scanned.details,List.map_cons,List.mem_cons,List.mem_cons]
        constructor
        · rintro (listed | rfl | present)
          · exact .inl (.inr listed)
          · exact .inl (.inl rfl)
          · exact .inr present
        · rintro ((rfl | listed) | present)
          · exact .inr (.inl rfl)
          · exact .inl listed
          · exact .inr (.inr present)

omit [Download2 D DropCopy.State] in
theorem housekeeping_scanned (config : Config) (t : TraceInfo) (now : Nanoseconds) (orders : List Order) (c : Session D R) :
    Scanned (if DropCopy.isReady c && decide (c.stream.nextCheckStaleOrders < t.originCreateTime) then orders else []) c
      (DropCopy.housekeeping config t now orders c) := by
  unfold DropCopy.housekeeping
  cases ready : DropCopy.isReady c with
  | false => exact .none rfl
  | true =>
      simp only [if_true,Bool.true_and]
      have pinged : DropCopy.Undisturbed c (DropCopy.hasResponse .privateToken (DropCopy.ping t now c)).2 := by
        unfold DropCopy.ping
        split <;> exact ⟨rfl,rfl⟩
      generalize (DropCopy.hasResponse .privateToken (DropCopy.ping t now c)).2 = during at pinged
      have polled : Scanned (if decide (c.stream.nextCheckStaleOrders < t.originCreateTime) then orders else []) during
          (DropCopy.pollStaleOrders config t orders during) := by
        unfold DropCopy.pollStaleOrders
        rw [pinged.nextCheckStaleOrders]
        by_cases due : c.stream.nextCheckStaleOrders < t.originCreateTime
        · have scanned := checkStaleOrders_scanned orders {during with
            stream.nextCheckStaleOrders := t.originCreateTime + config.settings.experimentalCheckStaleOrderFreq}
          simp only [due,if_true,decide_true]
          split
          · exact ⟨scanned.details,scanned.nodup⟩
          · exact ⟨scanned.details,scanned.nodup⟩
        · simp only [due,if_false,decide_false,Bool.false_eq_true]
          exact .none rfl
      refine .around pinged.details polled ?_
      unfold DropCopy.simulateDisconnect DropCopy.requestPrivateToken
      split
      · split <;> rfl
      · rfl

variable [LawfulDownload2 D] [LawfulLimitRequest R]

theorem checkResponse_scanned (orders : List Order) {before : Session D R → Option (Session D R)}
    (waits : (DropCopy.stateOf c).kind = some kind)
    (prepares : ∀ a b, before a = some b → Scanned orders a b ∧ b.stream = a.stream)
    (ran : DropCopy.checkResponse config t (DropCopy.stateOf c) kind before c = some after) :
    Scanned (if DropCopy.answered c then orders else []) c after ∧
    after.stream.nextCheckStaleOrders = c.stream.nextCheckStaleOrders := by
  have going : DropCopy.answered c = c.request.response kind := by rw [DropCopy.answered,waits,Option.any_some]
  simp only [DropCopy.checkResponse,DropCopy.hasResponse_fst] at ran
  rw [going]
  cases set : c.request.response kind with
  | false =>
      simp only [set,Bool.false_eq_true,if_false,Option.some.injEq] at ran
      subst ran
      exact ⟨.none rfl,rfl⟩
  | true =>
      simp only [set,if_true] at ran
      obtain ⟨during,prepared,rfl⟩ := Option.map_eq_some_iff.mp ran
      obtain ⟨scanned,stream⟩ := prepares _ _ prepared
      have same : DropCopy.stateOf during = DropCopy.stateOf c := congrArg (fun s => Walker.state s.download) stream
      have left := DropCopy.check_undisturbed config t (DropCopy.stateOf during) during
      rw [same] at left
      have read : (DropCopy.hasResponse kind c).2.request.detailsStaleOrders = c.request.detailsStaleOrders := rfl
      refine ⟨.around read scanned left.details,?_⟩
      rw [left.nextCheckStaleOrders,stream]
      rfl

theorem checkRequestQueue_scanned (orders : List Order) (ran : DropCopy.checkRequestQueue config t orders c = some after) :
    Scanned (if DropCopy.answered c && DropCopy.stateOf c == .getOpenOrders then orders else []) c after ∧
    after.stream.nextCheckStaleOrders = c.stream.nextCheckStaleOrders := by
  have stays : ∀ a b : Session D R, some a = some b → Scanned [] a b ∧ b.stream = a.stream :=
    fun a b same => Option.some.inj same ▸ ⟨.none rfl,rfl⟩
  have here : Walker.state c.stream.download = DropCopy.stateOf c := rfl
  unfold DropCopy.checkRequestQueue at ran
  simp only [here] at ran
  cases state : DropCopy.stateOf c with
  | undefined | subscribeBalances | subscribePositions | subscribeOrders | subscribeTrades | done =>
      simp only [state] at ran
      obtain rfl := Option.some.inj ran
      have idle : DropCopy.answered c = false := by rw [DropCopy.answered,state]; rfl
      rw [idle]
      exact ⟨.none rfl,rfl⟩
  | getBalances | getPositions | getTrades =>
      simp only [state] at ran
      rw [← state] at ran
      have known := checkResponse_scanned [] (by rw [state]; rfl) stays ran
      rw [ite_self] at known
      simpa using known
  | getOpenOrders =>
      simp only [state] at ran
      rw [← state] at ran
      have known := checkResponse_scanned orders (by rw [state]; rfl)
        (fun a b same => Option.some.inj same ▸ ⟨checkStaleOrders_scanned orders a,DropCopy.checkStaleOrders_stream orders a⟩) ran
      simpa using known
  | getStaleOrders =>
      simp only [state] at ran
      rw [← state] at ran
      have known := checkResponse_scanned [] (by rw [state]; rfl) ?_ ran
      · rw [ite_self] at known
        simpa using known
      · intro a b same
        split at same
        · exact stays a b same
        · cases same

theorem onTimer_scanned (now : Nanoseconds) (orders : List Order)
    (ran : DropCopy.onTimer config t now true orders c = some after) :
    Scanned (if scans t c then orders else []) c after := by
  obtain ⟨checked,queue,rfl⟩ := Option.map_eq_some_iff.mp ran
  obtain ⟨first,next⟩ := checkRequestQueue_scanned orders queue
  have second := housekeeping_scanned config t now orders checked
  rw [next,DropCopy.checkRequestQueue_ready config t orders queue,DropCopy.readyNext] at second
  have both := first.trans second
  unfold scans
  cases going : DropCopy.answered c with
  | false => simpa only [going,Bool.false_and,Bool.false_eq_true,if_false,List.nil_append] using both
  | true =>
      -- at most one of the two looks for them
      simp only [going,Bool.true_and,if_true] at both ⊢
      cases open_orders : DropCopy.stateOf c == .getOpenOrders with
      | false => simpa [open_orders] using both
      | true =>
          have state := eq_of_beq open_orders
          simpa [state] using both

theorem step_scanned (ran : DropCopy.step config c happened = some after) : Scanned (reportedTo c happened) c after := by
  cases happened with
  | timer t now refresh orders =>
      cases refresh with
      | true => exact onTimer_scanned now orders ran
      | false =>
          have kept : after.request.detailsStaleOrders = c.request.detailsStaleOrders := by
            simp only [DropCopy.step,DropCopy.onTimer,Bool.false_eq_true,if_false] at ran
            split at ran
            · exact Option.some.inj ran ▸ rfl
            · exact Option.some.inj ran ▸ rfl
          exact .none kept
  | connected t =>
      obtain rfl := Option.some.inj ran
      exact .none rfl
  | disconnected t =>
      obtain rfl := Option.some.inj ran
      exact .none rfl
  | welcome t =>
      obtain rfl := Option.some.inj ran
      exact .none (DropCopy.begin_undisturbed config t {c with stream.welcome := true}).details
  | error t message =>
      obtain rfl := Option.some.inj ran
      unfold DropCopy.onError DropCopy.requestPrivateToken
      split
      · split <;> exact .none rfl
      · exact .none rfl
  | ack t message =>
      obtain rfl := Option.some.inj ran
      unfold DropCopy.onAck
      split
      · exact .none (DropCopy.check_undisturbed config t _ c).details
      · exact .none rfl
  | logged =>
      obtain rfl := Option.some.inj ran
      exact .none rfl
  | unexpected => cases ran

end details

-- Nothing is both to be asked for and asked for already.
structure Clean (s : World E D R × List Query) : Prop where
  distinct : s.1.request.detailsStaleOrders.Nodup
  asked : (s.2.map (·.1)).Nodup
  apart : ∀ query ∈ s.2, query.1 ∉ s.1.request.detailsStaleOrders

-- The queries are the order-detail requests in flight, each with an order it asks for.
structure Synced (s : World E D R × List Query) : Prop where
  inFlight : s.2.map (·.2) = orderDetails s.1
  details : ∀ query ∈ s.2, ∃ t findOrder, IsDetail config t findOrder query.1 query.2

variable {config} {s after : World E D R × List Query}

theorem track_step (ran : track config s event = some after) :
    AccountSystem.step config s.1 event = some after.1 ∧ after.2 = follow config s.1 event after.1 s.2 := by
  obtain ⟨w,stepped,rfl⟩ := Option.map_eq_some_iff.mp ran
  exact ⟨stepped,rfl⟩

omit [Download2 E OrderEntryREST.State] [Download2 D DropCopy.State] [LimitRequest R] in
theorem isDetail_response {w : World E D R} (detail : isDetail w event = true) : ∃ t id response submission,
    event = .rest (.response t id response) ∧ w.inFlight.find? (fun s => s.id == id) = some submission ∧
      (submission.callback.kind == some .staleOrders) = true := by
  obtain ⟨⟨submission,response⟩,known,kind⟩ := (Option.any_eq_true _ _).mp detail
  obtain ⟨t,id,rfl,found⟩ := responseOf_iff.mp known
  exact ⟨t,id,response,submission,rfl,found,kind⟩

omit [Download2 E OrderEntryREST.State] [Download2 D DropCopy.State] in
theorem follow_kept {w later : World E D R} {happened : OrderEntryRestEvent} {queries : List Query}
    (unpicked : pickedUp config w (.rest happened) = false) (other : isDetail w (.rest happened) = false) :
    follow config w (.rest happened) later queries = queries := by
  cases happened with
  | timer t refresh canRequest findOrder symbols =>
      have known : picks config refresh canRequest w = false := unpicked
      simp only [follow,known,Bool.false_eq_true,if_false]
  | response t id response => simp only [follow,other,Bool.false_eq_true,if_false]
  | _ => rfl

omit [Download2 E OrderEntryREST.State] [Download2 D DropCopy.State] [LimitRequest R] in
theorem submittedDetails_eq {w later : World E D R} {fresh : List Submission}
    (asked : orderDetails later = fresh ++ orderDetails w) : submittedDetails w later = fresh := by
  rw [submittedDetails,asked,List.length_append,Nat.add_sub_cancel,List.take_left]

-- The queries of a batch.
omit [Download2 E OrderEntryREST.State] [Download2 D DropCopy.State] [LimitRequest R] in
theorem batched_queries {w later : World E D R} (batched : Batched config t findOrder w later) :
    let fresh := (foundKeys findOrder w).reverse.zip (submittedDetails w later)
    fresh.map (·.1) = (foundKeys findOrder w).reverse ∧ fresh.map (·.2) ++ orderDetails w = orderDetails later ∧
      ∀ query ∈ fresh, IsDetail config t findOrder query.1 query.2 := by
  obtain ⟨fresh,asked,each⟩ := batched.asked
  have length : (foundKeys findOrder w).reverse.length = fresh.length := by
    rw [List.length_reverse,each.length_eq,List.length_reverse]
  rw [submittedDetails_eq asked]
  refine ⟨List.map_fst_zip (Nat.le_of_eq length),?_,?_⟩
  · rw [asked]
    exact congrArg (· ++ orderDetails w) (List.map_snd_zip (Nat.le_of_eq length.symm))
  · have reversed := List.rel_reverse each
    rw [List.reverse_reverse] at reversed
    intro query member
    exact List.forall₂_zip reversed member

-- An answer takes the same request out of the two lists.
theorem filter_eraseP {p first : α → Bool} {xs : List α} (found : xs.find? first = some x) (admitted : p x = true) :
    (xs.eraseP first).filter p = (xs.filter p).eraseP first := by
  obtain ⟨same,earlier,later,rfl,none⟩ := List.find?_eq_some_iff_append.mp found
  have before : ∀ y ∈ earlier, ¬ first y = true := by simpa using none
  have kept : ∀ y ∈ earlier.filter p, ¬ first y = true := fun y member => before y (List.mem_filter.mp member).1
  rw [List.eraseP_append_right _ before,List.eraseP_cons_of_pos same,List.filter_append,List.filter_append,
    List.filter_cons_of_pos admitted,List.eraseP_append_right _ kept,List.eraseP_cons_of_pos same]

theorem map_eraseP (f : α → β) (p : β → Bool) (xs : List α) : (xs.eraseP fun x => p (f x)).map f = (xs.map f).eraseP p := by
  induction xs with
  | nil => rfl
  | cons x rest ih =>
      simp only [List.eraseP_cons,List.map_cons]
      cases p (f x) with
      | true => rfl
      | false => exact congrArg (f x :: ·) ih

theorem answered_details {w later : World E D R} {id : Nat} (found : w.inFlight.find? (fun s => s.id == id) = some submission)
    (detail : (submission.callback.kind == some .staleOrders) = true)
    (ran : AccountSystem.step config w (.rest (.response t id response)) = some later) :
    orderDetails later = (orderDetails w).eraseP fun s => s.id == id := by
  obtain ⟨clientOrderId,callback⟩ := detail_callback (eq_of_beq detail)
  have same : submission.id = id := by simpa using List.find?_some found
  rw [step_response found] at ran
  simp only [invoke,callback] at ran
  rw [getOrderAck_eq (getOrderAck_landed ran)] at ran
  have left : later.inFlight = w.inFlight.eraseP fun s => s.id == id := by
    rw [← same]
    split at ran
    · cases ran
    · obtain rfl := Option.some.inj ran
      split <;> rfl
  rw [orderDetails,left]
  exact filter_eraseP found detail

variable [LawfulDownload2 E] [LawfulLimitRequest R]

theorem step_synced (synced : Synced config s) (ran : track config s event = some after) : Synced config after := by
  obtain ⟨stepped,followed⟩ := track_step ran
  cases step_batches stepped with
  | copied same _ inFlight =>
      subst same
      have kept : after.2 = s.2 := followed
      refine ⟨?_,?_⟩
      · rw [kept,orderDetails,inFlight]
        exact synced.inFlight
      · rw [kept]
        exact synced.details
  | kept same unpicked other unbatched =>
      subst same
      rw [follow_kept unpicked other] at followed
      refine ⟨?_,?_⟩
      · rw [followed,unbatched.asked]
        exact synced.inFlight
      · rw [followed]
        exact synced.details
  | picked same due batched =>
      subst same
      obtain ⟨_,inFlight,details⟩ := batched_queries batched
      simp only [follow,due,if_true] at followed
      refine ⟨?_,?_⟩
      · rw [followed,List.map_append,synced.inFlight]
        exact inFlight
      · rw [followed]
        intro query member
        rcases List.mem_append.mp member with fresh | earlier
        · exact ⟨_,_,details query fresh⟩
        · exact synced.details query earlier
  | answered same _ detail =>
      obtain ⟨t,id,response,submission,rfl,found,kind⟩ := isDetail_response detail
      simp only [follow,detail,if_true] at followed
      refine ⟨?_,?_⟩
      · rw [followed,map_eraseP Prod.snd (fun s : Submission => s.id == id),synced.inFlight]
        exact (answered_details found kind stepped).symm
      · rw [followed]
        intro query member
        exact synced.details query (List.mem_of_mem_eraseP member)

theorem queries_in_flight (path : Reached ((initial : World E D R),[]) (track config) allowed s) : Synced config s := by
  apply path.invariant
  · exact ⟨rfl,fun query member => by cases member⟩
  · intro before event after synced _ ran
    exact step_synced synced ran

variable [LawfulDownload2 D]

omit [LawfulDownload2 E] in
theorem reported_scanned {w later : World E D R} (ran : AccountSystem.step config w (.dropCopy happened) = some later) :
    (∀ key, key ∈ later.request.detailsStaleOrders ↔
      key ∈ (reported w (.dropCopy happened)).map keyOf ∨ key ∈ w.request.detailsStaleOrders) ∧
    (w.request.detailsStaleOrders.Nodup → later.request.detailsStaleOrders.Nodup) := by
  rcases step_dropCopy config ran with ⟨absent,rfl⟩ | ⟨stream,c,present,stepped,rfl⟩
  · rw [reported,absent]
    exact ⟨fun key => by simp [receive],id⟩
  · rw [reported,present]
    have scanned := step_scanned stepped
    exact ⟨scanned.details,scanned.nodup⟩

-- Only what is reported gets into the set.
theorem step_details {w later : World E D R} (ran : AccountSystem.step config w event = some later) :
    ∀ key ∈ later.request.detailsStaleOrders, key ∈ (reported w event).map keyOf ∨ key ∈ w.request.detailsStaleOrders := by
  intro key present
  cases step_batches ran with
  | copied same =>
      subst same
      exact ((reported_scanned ran).1 key).mp present
  | kept _ _ _ unbatched => exact .inr (unbatched.details ▸ present)
  | picked _ _ batched =>
      rw [batched.details] at present
      cases present
  | answered _ _ _ _ _ details => exact .inr (details ▸ present)

omit [Download2 E OrderEntryREST.State] [LawfulDownload2 E] [LawfulDownload2 D] [LawfulLimitRequest R] in
theorem unreported (unmet : reportsAgain s event = false) (member : query ∈ s.2) : query.1 ∉ (reported s.1 event).map keyOf := by
  intro scanned
  obtain ⟨order,listed,key⟩ := List.mem_map.mp scanned
  have again : reportsAgain s event = true :=
    List.any_eq_true.mpr ⟨order,listed,List.any_eq_true.mpr ⟨query,member,beq_iff_eq.mpr key.symm⟩⟩
  rw [again] at unmet
  cases unmet

theorem step_clean (clean : Clean s) (unmet : reportsAgain s event = false) (ran : track config s event = some after) :
    Clean after := by
  obtain ⟨stepped,followed⟩ := track_step ran
  cases step_batches stepped with
  | copied same =>
      subst same
      have kept : after.2 = s.2 := followed
      refine ⟨(reported_scanned stepped).2 clean.distinct,?_,?_⟩
      · rw [kept]
        exact clean.asked
      · rw [kept]
        intro query member present
        rcases step_details stepped _ present with scanned | earlier
        · exact unreported unmet member scanned
        · exact clean.apart query member earlier
  | kept same unpicked other unbatched =>
      subst same
      rw [follow_kept unpicked other] at followed
      refine ⟨?_,?_,?_⟩
      · rw [unbatched.details]
        exact clean.distinct
      · rw [followed]
        exact clean.asked
      · rw [followed,unbatched.details]
        exact clean.apart
  | @picked t refresh canRequest findOrder symbols same due batched =>
      subst same
      obtain ⟨keys,_,_⟩ := batched_queries batched
      simp only [follow,due,if_true] at followed
      refine ⟨?_,?_,?_⟩
      · rw [batched.details]
        exact .nil
      · rw [followed,List.map_append,keys]
        -- what is picked up is in the set, and what is asked for already is not
        apply List.nodup_append.mpr
        refine ⟨(List.reverse_perm _).nodup_iff.mpr (clean.distinct.filter _),clean.asked,?_⟩
        rintro key fresh _ earlier rfl
        obtain ⟨query,member,rfl⟩ := List.mem_map.mp earlier
        exact clean.apart query member (List.mem_of_mem_filter (List.mem_reverse.mp fresh))
      · rw [batched.details]
        intro query _ present
        cases present
  | answered same _ detail _ _ details =>
      obtain ⟨t,id,response,submission,rfl,_,_⟩ := isDetail_response detail
      simp only [follow,detail,if_true] at followed
      have fewer : after.2.Sublist s.2 := followed ▸ List.eraseP_sublist
      refine ⟨?_,(fewer.map _).nodup clean.asked,?_⟩
      · rw [details]
        exact clean.distinct
      · rw [details]
        exact fun query member => clean.apart query (fewer.subset member)

theorem reached_clean
    (path : Reached ((initial : World E D R),[]) (track config) (fun s event => reportsAgain s event = false) s) : Clean s := by
  apply path.invariant
  · exact ⟨.nil,.nil,fun query member => by cases member⟩
  · intro before event after clean unmet ran
    exact step_clean clean unmet ran

-- An order that is reported again is counted again: its query took it out of the set.
omit [LawfulDownload2 E] in
theorem reported_again (clean : Clean s) (again : reportsAgain s event = true) (ran : track config s event = some after) :
    ¬ Single s after := by
  intro single
  obtain ⟨order,listed,known⟩ := List.any_eq_true.mp again
  obtain ⟨query,member,key⟩ := List.any_eq_true.mp known
  cases event with
  | rest happened => cases listed
  | dropCopy happened =>
      have scanned : query.1 ∈ after.1.request.detailsStaleOrders := by
        apply ((reported_scanned (track_step ran).1).1 query.1).mpr
        exact .inl (List.mem_map.mpr ⟨order,listed,(eq_of_beq key).symm⟩)
      exact single.counted query member (clean.apart query member) scanned

theorem reported_once (clean : Clean s) (unmet : reportsAgain s event = false) (ran : track config s event = some after) :
    Single s after := by
  refine ⟨?_,(step_clean clean unmet ran).asked⟩
  intro query member absent present
  rcases step_details (track_step ran).1 _ present with scanned | earlier
  · exact unreported unmet member scanned
  · exact absent earlier

-- One query of an order in flight in exactly the runs in which no order is reported
-- while its query is.
theorem stale_orders_are_asked_for_once (config : Config) (events : List Event) :
    EveryStep (track config) ((initial : World E D R),[]) events (fun before _ after => Single before after) ↔
      EveryStep (track config) ((initial : World E D R),[]) events (fun s event _ => reportsAgain s event = false) := by
  apply everyStep_first
  · intro s event after path ran again
    exact reported_again (reached_clean path) again ran
  · intro s event after path ran unmet
    exact reported_once (reached_clean path) unmet ran

section closed
open Smallest StaleOrderDownload

-- The next check of a READY session.
def nextCheck : Event := .dropCopy (.timer ⟨2000000000,0⟩ 2000000000 true [order])

theorem stale_orders_are_asked_for_once_answered :
    EveryStep (track (setup true)) ((initial : Small),[]) (readyWithBatch ++ [answer 4 (reply "ok"),nextCheck])
      (fun before _ after => Single before after) := by
  apply (stale_orders_are_asked_for_once (setup true) (readyWithBatch ++ [answer 4 (reply "ok"),nextCheck])).mpr
  apply everyStep_never (fun (s : Small × List Query) event => reportsAgain s event)
  decide +kernel

-- The answer takes longer than the time between two checks.
theorem stale_order_is_counted_again : ¬ ∀ events,
    EveryStep (track (setup true)) ((initial : Small),[]) events (fun before _ after => Single before after) := by
  intro all
  have slow : (execute (track (setup true)) ((initial : Small),[]) readyWithBatch).any (fun s =>
      !s.1.request.detailsStaleOrders.contains (1,7) && s.2.any (fun query => query.1 == (1,7)) &&
      (track (setup true) s nextCheck).any fun after => after.1.request.detailsStaleOrders.contains (1,7)) = true := by
    decide +kernel
  obtain ⟨before,executed,known⟩ := (Option.any_eq_true _ _).mp slow
  simp only [Bool.and_eq_true,Bool.not_eq_true'] at known
  obtain ⟨⟨absent,flying⟩,counted⟩ := known
  obtain ⟨after,stepped,present⟩ := (Option.any_eq_true _ _).mp counted
  obtain ⟨query,member,key⟩ := List.any_eq_true.mp flying
  have single := (all _).last executed stepped
  rw [← eq_of_beq key] at absent present
  exact single.counted query member (by simpa using absent) (by simpa using present)

-- And the timer of the order stream that comes next asks for it a second time.
example : (execute (track (setup true)) ((initial : Small),[])
    (readyWithBatch ++ [nextCheck,pollFor (fun _ _ => some order)])).any
      (fun s => s.2.map (·.1) == [(1,7),(1,7)] && s.2.map (·.2) == orderDetails s.1) = true := by
  decide +kernel

end closed
end KucoinPro.StaleOrderFlights
