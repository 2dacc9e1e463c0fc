import KucoinPro.OrderOutcome

namespace KucoinPro.EffectCauses
open GuardedRuns StagedWalk AccountSystem OrderEntryREST OrderOutcome Json

variable {E D R : Type} {config : Config}

-- What makes the streams of an account do something: an event of the drop copy, a
-- timer or the connection of the order stream, an order action, an answer.
inductive Cause where
  | dropCopy
  | stream
  | action (action : OrderAction)
  | answer (submission : Submission)

-- The download of the token goes on with the connection and with its own answers.
def Cause.downloads : Cause → Prop
  | .stream => True
  | .answer submission => submission.callback.kind = some .privateToken
  | .dropCopy | .action _ => False

-- What an order action comes to when it is accepted.
def orders (config : Config) : OrderAction → List (Web.Request × Callback × String)
  | .createOrder messageInfo createOrder refData requestId =>
      [(postRequest config messageInfo.traceInfo API.restPrivate.orderPlace .applicationJson
        (Encoder.addOrder config.platform createOrder refData requestId),
        .createOrderAck messageInfo.source createOrder.orderId,requestId)]
  | .modifyOrder _ _ _ => []
  | .cancelOrder messageInfo cancelOrder order requestId =>
      [(postRequest config messageInfo.traceInfo API.restPrivate.orderCancel .undefined (Encoder.cancelOrder order),
        .cancelOrderAck messageInfo.source cancelOrder.orderId cancelOrder.version,requestId)]
  | .cancelAllOrders messageInfo cancelAllOrders requestId symbols =>
      (symbols.filter fun symbol => cancelAllOrders.symbol == "" || symbol == cancelAllOrders.symbol).map fun symbol =>
        (postRequest config messageInfo.traceInfo API.restPrivate.orderCancelAll .undefined (Encoder.cancelAllOrders symbol),
          .cancelAllOrdersAck,requestId)

def orderOf (s : Submission) : Web.Request × Callback × String := (s.request,s.callback,s.requestId)

-- The ack that is passed on where a response has been taken for a success.
def notes : Callback → Effect → Prop
  | .getAccountAck,.accountAck _ | .getPositionAck,.positionAck _ | .getOrdersAck,.ordersAck _ => True
  | .getExecutionAck,.executionAck _ | .getOrderBookAck _,.orderBookAck _ => True
  | .createOrderAck userId orderId,.addOrderAck _ user order version => user = userId ∧ order = orderId ∧ version = 1
  | .cancelOrderAck userId orderId version,.cancelOrderAck _ user order v => user = userId ∧ order = orderId ∧ v = version
  | .cancelAllOrdersAck,.allOrdersCancelled _ => True
  | _,_ => False

-- Everything an account does, and on what account it does so.
inductive Causes (config : Config) : Cause → Effect → Prop where
  | quiet : DropCopy.quiet e = true → Causes config .dropCopy e
  | wsStatus : Causes config .dropCopy (.streamStatus (DropCopy.streamStatus config status reason))
  | status : cause.downloads → Causes config cause (.streamStatus
      ⟨config.orderEntryStreamId,config.account.name,OrderEntryREST.SUPPORTS,.http,status,reason⟩)
  | asked : cause.downloads → isOrderAction s.callback = false → Causes config cause (.submit s)
  | token : s.callback.kind = some .privateToken → Causes config (.answer s) (.token token)
  | privateToken : s.callback.kind = some .privateToken → p.account = config.account.name →
      Causes config (.answer s) (.privateToken p)
  | start : s.callback.kind = some .privateToken → Causes config (.answer s) .start
  | resume : s.callback.kind = some .privateToken → Causes config (.answer s) .resume
  | noted : notes s.callback e → Causes config (.answer s) e
  | funds : s.callback = .getAccountAck → Causes config (.answer s) (.fundsUpdate (fundsUpdate config item))
  | order : s.callback = .getOrdersAck →
      Causes config (.answer s) (.orderUpdate (orderUpdate config item status) config.orderEntryStreamId)
  | outcome : Concerns config s (.response response streamId userId orderId) →
      Causes config (.answer s) (.response response streamId userId orderId)
  | refused : s.callback = .cancelAllOrdersAck →
      Causes config (.answer s) (.cancelAllOrdersAck (rejectedAck config s.requestId origin status error text))
  | ordered : orderOf s ∈ orders config action → Causes config (.action action) (.submit s)
  | forwarded : symbol ∈ symbols → Causes config (.action (.cancelAllOrders messageInfo cancel requestId symbols))
      (.cancelAllOrdersAck (forwardedAck config cancel requestId symbol))

def submissionOf : Entry → Option Submission
  | .effect (.submit s) => some s
  | _ => none

def answerOf : Entry → Option Submission
  | .effect (.answer s) => some s
  | _ => none

-- Requests are numbered from 0 in the order in which they are handed over.
def Numbered (w : World E D R) : Prop :=
  (w.log.filterMap submissionOf).map (·.id) = (List.range w.submitted).reverse

-- A part of a handler: what it does has this cause, and what it asks for is in flight.
structure Adds (config : Config) (cause : Cause) (before after : World E D R) : Prop where
  numbered : Numbered before → Numbered after
  fresh : ∃ fresh : List Effect, after.log = fresh.map .effect ++ before.log ∧ (∀ e ∈ fresh, Causes config cause e) ∧
    after.inFlight = (fresh.map Entry.effect).filterMap submissionOf ++ before.inFlight

theorem Adds.fields {before after : World E D R} (log : after.log = before.log) (inFlight : after.inFlight = before.inFlight)
    (submitted : after.submitted = before.submitted) : Adds config cause before after := by
  refine ⟨?_,[],by simpa using log,by simp,by simpa using inFlight⟩
  intro numbered
  rwa [Numbered,log,submitted]

theorem Adds.refl (w : World E D R) : Adds config cause w w := .fields rfl rfl rfl

theorem Adds.trans {a b c : World E D R} (one : Adds config cause a b) (two : Adds config cause b c) :
    Adds config cause a c := by
  refine ⟨two.numbered ∘ one.numbered,?_⟩
  obtain ⟨first,firstLog,firstCauses,firstFlight⟩ := one.fresh
  obtain ⟨second,secondLog,secondCauses,secondFlight⟩ := two.fresh
  refine ⟨second ++ first,?_,?_,?_⟩
  · rw [secondLog,firstLog,List.map_append,List.append_assoc]
  · intro e member
    rcases List.mem_append.mp member with newer | older
    · exact secondCauses e newer
    · exact firstCauses e older
  · rw [secondFlight,firstFlight,List.map_append,List.filterMap_append,List.append_assoc]

theorem Adds.emit (w : World E D R) (causes : Causes config cause e) (other : submissionOf (.effect e) = none) :
    Adds config cause w (w.emit e) := by
  have silent : ([e].map Entry.effect).filterMap submissionOf = [] := by
    simp only [List.map_cons,List.map_nil,List.filterMap_cons_none other,List.filterMap_nil]
  refine ⟨?_,[e],rfl,by simpa using causes,?_⟩
  · intro numbered
    rw [Numbered,World.emit,List.filterMap_cons_none other]
    exact numbered
  · rw [silent]
    rfl

theorem Adds.submit (w : World E D R) (causes : Causes config cause (.submit ⟨w.submitted,request,callback,requestId⟩)) :
    Adds config cause w (w.submit request callback requestId) := by
  refine ⟨?_,[.submit ⟨w.submitted,request,callback,requestId⟩],rfl,by simpa using causes,rfl⟩
  intro numbered
  have counted : ((w.submit request callback requestId).log.filterMap submissionOf).map (·.id) =
      w.submitted :: (w.log.filterMap submissionOf).map (·.id) := rfl
  have next : (w.submit request callback requestId).submitted = w.submitted + 1 := rfl
  rw [Numbered,counted,next,List.range_succ,List.reverse_append,numbered]
  rfl

theorem Adds.foldl {step : World E D R → α → World E D R} (xs : List α) (w : World E D R)
    (each : ∀ w, ∀ x ∈ xs, Adds config cause w (step w x)) : Adds config cause w (xs.foldl step w) := by
  induction xs generalizing w with
  | nil => exact .refl w
  | cons x rest ih =>
      exact (each w x List.mem_cons_self).trans (ih (step w x) fun w y member => each w y (List.mem_cons_of_mem _ member))

-- The download and its token.

theorem onConnectionStatus_adds (may : cause.downloads) (status : ConnectionStatus) (reason : String) (w : World E D R) :
    Adds config cause w (onConnectionStatus config status reason w) := by
  have one : Adds config cause w {w with rest.connectionStatus := status} := .fields rfl rfl rfl
  exact one.trans (.emit _ (.status may) rfl)

theorem getPrivateToken_adds (may : cause.downloads) (t : TraceInfo) (sequence : Nat) (w : World E D R) :
    Adds config cause w (getPrivateToken config t sequence w) := .submit w (.asked may rfl)

theorem onDownload_adds [Download2 E OrderEntryREST.State]
    (may : cause.downloads) (t : TraceInfo) (walker : E) (s : OrderEntryREST.State) (w : World E D R) :
    Adds config cause w (onDownload config t walker s w).2 := by
  cases s with
  | undefined => exact .refl w
  | privateToken =>
      simp only [onDownload]
      split
      · exact .refl w
      · exact (onConnectionStatus_adds may _ _ w).trans (getPrivateToken_adds may t _ _)
  | done => exact onConnectionStatus_adds may _ _ w

theorem withDownload_adds {w : World E D R} {result : E × World E D R} (walked : Adds config cause w result.2) :
    Adds config cause w (withDownload result) := walked.trans (.fields rfl rfl rfl)

theorem onDisconnected_adds [Download2 E OrderEntryREST.State]
    (may : cause.downloads) (w : World E D R) : Adds config cause w (onDisconnected config w) := by
  have one : Adds config cause w (onConnectionStatus config .disconnected "" w) := onConnectionStatus_adds may _ _ w
  simp only [onDisconnected]
  split
  · exact one
  · exact one.trans (.fields rfl rfl rfl)

theorem onPrivateToken_adds [Download2 D DropCopy.State]
    (own : s.callback.kind = some .privateToken) (p : PrivateToken) (w : World E D R) :
    Adds config (.answer s) w (Controller.onPrivateToken p w) := by
  unfold Controller.onPrivateToken
  split
  · have one : Adds config (.answer s) w {w with dropCopy := some (DropCopy.create p.query)} := .fields rfl rfl rfl
    exact one.trans (.emit _ (.start own) rfl)
  · split
    · rename_i dropCopy _ _
      have one : Adds config (.answer s) w {w with dropCopy := some {dropCopy with query := p.query}} := .fields rfl rfl rfl
      exact one.trans (.emit _ (.resume own) rfl)
    · exact .refl w

theorem onToken_adds [Download2 D DropCopy.State]
    (own : s.callback.kind = some .privateToken) (token : Token) (w : World E D R) :
    Adds config (.answer s) w (onToken config token w) := by
  have one : Adds config (.answer s) w (w.emit (.token token)) := .emit w (.token own) rfl
  exact (one.trans (.emit _ (.privateToken own rfl) rfl)).trans (onPrivateToken_adds own _ _)

section token
variable [Download2 E OrderEntryREST.State] [LawfulDownload2 E]

theorem onConnected_adds (may : cause.downloads) (t : TraceInfo) (w : World E D R) :
    Adds config cause w (onConnected config t w) := by
  unfold onConnected
  cases running : isDownloading w with
  | true =>
      exact withDownload_adds ((LawfulDownload2.bump_running (onDownload config t) w.rest.download w running).related
        (Adds config cause) (fun _ _ _ one two => one.trans two) (onDownload_adds may t))
  | false =>
      exact withDownload_adds ((LawfulDownload2.begin_idle (onDownload config t) w.rest.download w running).related
        (Adds config cause) (fun _ _ _ one two => one.trans two) (onDownload_adds may t))

theorem retryPrivateToken_adds (may : cause.downloads) (t : TraceInfo) (w : World E D R) :
    Adds config cause w (retryPrivateToken config t w) := by
  unfold retryPrivateToken
  split
  · exact withDownload_adds (retry_related (Adds config cause) .refl (fun _ _ _ one two => one.trans two)
      (onDownload_adds may t) _ _ w)
  · exact .refl w

theorem checkPrivateToken_adds (may : cause.downloads) (t : TraceInfo) (w : World E D R) :
    Adds config cause w (checkPrivateToken config t w) := by
  unfold checkPrivateToken
  split
  · exact withDownload_adds (check_related (Adds config cause) .refl (fun _ _ _ one two => one.trans two)
      (onDownload_adds may t) _ _ w)
  · exact .refl w

variable [Download2 D DropCopy.State] [LimitRequest R]

theorem getPrivateTokenAck_adds {s : Submission} {sequence : Nat} {w after : World E D R} (own : s.callback.kind = some .privateToken)
    (ran : getPrivateTokenAck config t sequence response w = some after) : Adds config (.answer s) w after := by
  obtain ⟨processed,acked,rfl⟩ := getPrivateTokenAck_cases ran
  have may : (Cause.answer s).downloads := own
  have committed : Adds config (.answer s) processed (commit t .privateToken processed) := .fields rfl rfl rfl
  apply Adds.trans ?_ committed
  cases acked with
  | retried _ => exact retryPrivateToken_adds may t w
  | skipped _ => exact .refl w
  | @processed _ token _ _ _ =>
      have dispatched : Adds config (.answer s) w (if token.code = SYSTEM_CODE_SUCCESS then onToken config token w else w) := by
        split
        · exact onToken_adds own token w
        · exact .refl w
      exact (dispatched.trans (checkPrivateToken_adds may t _)).trans (.fields rfl rfl rfl)

-- The answers to the other requests.

end token

theorem processResponse_adds {w after : World E D R}
    {errorHandler : Origin → RequestStatus → Error → String → World E D R → World E D R}
    {successHandler : String → World E D R → Except Exception Unit × World E D R}
    (fails : ∀ origin status error text w, Adds config cause w (errorHandler origin status error text w))
    (succeeds : ∀ body w, Adds config cause w (successHandler body w).2)
    (ran : processResponse config response errorHandler successHandler w = some after) : Adds config cause w after :=
  processResponse_rule Adds.refl (fun _ _ _ one two => one.trans two) fails succeeds ran

theorem getAck_adds [LimitRequest R] {decode : String → Except Exception (Envelope α)}
    {handler : Envelope α → World E D R → Except Exception Unit × World E D R} {w after : World E D R}
    (handles : ∀ ack w, Adds config cause w (handler ack w).2)
    (ran : getAck config decode handler kind t response w = some after) : Adds config cause w after := by
  obtain ⟨processed,process,rfl⟩ := Option.map_eq_some_iff.mp ran
  refine (processResponse_adds (fun _ _ _ _ w => .refl w) ?_ process).trans (.fields rfl rfl rfl)
  intro body w
  split
  · exact .refl w
  · split
    · exact handles _ w
    · exact .refl w

theorem onAccountAck_adds {s : Submission} (own : s.callback = .getAccountAck) (ack : AccountAck) (w : World E D R) :
    Adds config (.answer s) w (onAccountAck config ack w).2 := by
  have noted : Adds config (.answer s) w (w.emit (.accountAck ack)) := .emit w (.noted (by simp [notes,own])) rfl
  exact noted.trans (.foldl _ _ fun w _ _ => .emit w (.funds own) rfl)

theorem onOrderItems_adds {s : Submission} (own : s.callback = .getOrdersAck) (items : List OrdersAckDataItemsItem)
    (w : World E D R) : Adds config (.answer s) w (onOrderItems config items w).2 := by
  induction items generalizing w with
  | nil => exact .refl w
  | cons item rest ih =>
      simp only [onOrderItems]
      split
      · exact .refl w
      · exact (Adds.emit w (.order own) rfl).trans (ih _)

theorem getOrderAck_adds [LimitRequest R]
    {w after : World E D R} (ran : getOrderAck config t clientOrderId response w = some after) :
    Adds config cause w after := by
  obtain ⟨processed,process,counted⟩ := Option.bind_eq_some_iff.mp ran
  have one : Adds config cause w processed := processResponse_adds (fun _ _ _ _ w => .refl w) (fun _ w => .refl w) process
  split at counted
  · cases counted
  · obtain rfl := Option.some.inj counted
    apply one.trans
    split
    · exact .fields rfl rfl rfl
    · exact .fields rfl rfl rfl

theorem createOrderAck_adds {s : Submission} {w after : World E D R} (own : s.callback = .createOrderAck userId orderId)
    (ran : createOrderAck config userId orderId 1 response w = some after) : Adds config (.answer s) w after := by
  have rejects : ∀ origin status error text (w : World E D R),
      Adds config (.answer s) w (rejectOrder config .createOrder userId orderId 1 origin status error text w) := by
    intro origin status error text w
    refine .emit w (.outcome ?_) rfl
    simp [Concerns,own,errorResponse]
  refine processResponse_adds rejects ?_ ran
  intro body w
  split
  · exact .refl w
  · split
    · exact .emit w (.noted (by simp [notes,own])) rfl
    · exact rejects _ _ _ _ w

theorem cancelOrderAck_adds {s : Submission} {w after : World E D R} (own : s.callback = .cancelOrderAck userId orderId version)
    (ran : cancelOrderAck config userId orderId version response w = some after) : Adds config (.answer s) w after := by
  have rejects : ∀ origin status error text (w : World E D R),
      Adds config (.answer s) w (rejectOrder config .cancelOrder userId orderId version origin status error text w) := by
    intro origin status error text w
    refine .emit w (.outcome ?_) rfl
    simp [Concerns,own,errorResponse]
  refine processResponse_adds rejects ?_ ran
  intro body w
  split
  · exact .refl w
  · split
    · split
      · exact rejects _ _ _ _ w
      · exact .emit w (.noted (by simp [notes,own])) rfl
    · exact rejects _ _ _ _ w

theorem cancelAllOrdersAck_adds {s : Submission} {w after : World E D R} (own : s.callback = .cancelAllOrdersAck)
    (ran : cancelAllOrdersAck config s.requestId response w = some after) : Adds config (.answer s) w after := by
  have rejects : ∀ origin status error text (w : World E D R),
      Adds config (.answer s) w (rejectAllOrders config s.requestId origin status error text w) := by
    intro origin status error text w
    exact .emit w (.refused own) rfl
  refine processResponse_adds rejects ?_ ran
  intro body w
  split
  · exact .refl w
  · split
    · exact .emit w (.noted (by simp [notes,own])) rfl
    · exact rejects _ _ _ _ w

theorem getOrderBookAck_adds {s : Submission} {w after : World E D R} (own : s.callback = .getOrderBookAck symbol)
    (ran : getOrderBookAck config symbol response w = some after) : Adds config (.answer s) w after := by
  refine processResponse_adds (fun _ _ _ _ w => .refl w) ?_ ran
  intro body w
  split
  · exact .refl w
  · split
    · exact .emit w (.noted (by simp [notes,own])) rfl
    · exact .refl w

theorem onOrdersAck_adds {s : Submission} (own : s.callback = .getOrdersAck) (ack : OrdersAck) (w : World E D R) :
    Adds config (.answer s) w (onOrdersAck config ack w).2 := by
  have noted : Adds config (.answer s) w (w.emit (.ordersAck ack)) := .emit w (.noted (by simp [notes,own])) rfl
  exact noted.trans (onOrderItems_adds own _ _)

theorem invoke_adds [Download2 E OrderEntryREST.State] [Download2 D DropCopy.State] [LimitRequest R] [LawfulDownload2 E]
    {s : Submission} {w after : World E D R} (ran : invoke config t s response w = some after) :
    Adds config (.answer s) w after := by
  cases callback : s.callback with
  | getPrivateTokenAck sequence =>
      simp only [invoke,callback] at ran
      exact getPrivateTokenAck_adds (by rw [callback]; rfl) ran
  | getAccountAck =>
      simp only [invoke,callback] at ran
      exact getAck_adds (onAccountAck_adds callback) ran
  | getPositionAck =>
      simp only [invoke,callback] at ran
      exact getAck_adds (fun _ w => .emit w (.noted (by simp [notes,callback])) rfl) ran
  | getOrdersAck =>
      simp only [invoke,callback] at ran
      exact getAck_adds (onOrdersAck_adds callback) ran
  | getOrderAck clientOrderId =>
      simp only [invoke,callback] at ran
      exact getOrderAck_adds ran
  | getExecutionAck =>
      simp only [invoke,callback] at ran
      exact getAck_adds (fun _ w => .emit w (.noted (by simp [notes,callback])) rfl) ran
  | createOrderAck userId orderId =>
      simp only [invoke,callback] at ran
      exact createOrderAck_adds callback ran
  | cancelOrderAck userId orderId version =>
      simp only [invoke,callback] at ran
      exact cancelOrderAck_adds callback ran
  | cancelAllOrdersAck =>
      simp only [invoke,callback] at ran
      exact cancelAllOrdersAck_adds callback ran
  | getOrderBookAck symbol =>
      simp only [invoke,callback] at ran
      exact getOrderBookAck_adds callback ran

-- The timer and the order actions.

theorem checkPending_adds [LimitRequest R] [LawfulLimitRequest R]
    {callback : World E D R → World E D R} (t : TraceInfo) (kind : Kind) (granted : Bool) (w : World E D R)
    (each : ∀ w, Adds config cause w (callback w)) : Adds config cause w (checkPending t kind granted callback w) := by
  have taken : Adds config cause w {w with request := (w.request.checkPending t kind granted).2} := .fields rfl rfl rfl
  rw [checkPending_eq]
  split
  · exact taken.trans (each _)
  · exact taken

theorem getStaleOrders_adds (t : TraceInfo) (findOrder : Nat → Nat → Option Order) (w : World E D R) :
    Adds config .stream w (getStaleOrders config t findOrder w) := by
  have each : ∀ (w : World E D R) key, Adds config .stream w (getStaleOrder config t findOrder w key) := by
    intro w key
    unfold getStaleOrder
    split
    · exact .refl w
    · rename_i order _
      have one : Adds config .stream w (getOrder config t order.symbol order.clientOrderId order.externalOrderId w) :=
        .submit w (.asked True.intro rfl)
      exact one.trans (.fields rfl rfl rfl)
  exact (Adds.foldl _ w fun w key _ => each w key).trans (.fields rfl rfl rfl)

theorem checkRequestQueue_adds [LimitRequest R] [LawfulLimitRequest R]
    (t : TraceInfo) (canRequest : Kind → Bool) (findOrder : Nat → Nat → Option Order)
    (symbols : List String) (w : World E D R) :
    Adds config .stream w (checkRequestQueue config t canRequest findOrder symbols w) := by
  have books : ∀ w : World E D R, ∀ symbol ∈ symbols, Adds config .stream w (getOrderBook config t symbol w) :=
    fun w _ _ => .submit w (.asked True.intro rfl)
  refine Adds.trans ?_ (.foldl symbols _ books)
  refine Adds.trans ?_ (checkPending_adds t _ _ _ fun w => .submit w (.asked True.intro rfl))
  refine Adds.trans ?_ (checkPending_adds t _ _ _ fun w => getStaleOrders_adds t findOrder w)
  refine Adds.trans ?_ (checkPending_adds t _ _ _ fun w => .submit w (.asked True.intro rfl))
  refine Adds.trans ?_ (checkPending_adds t _ _ _ fun w => .submit w (.asked True.intro rfl))
  exact checkPending_adds t _ _ _ fun w => .submit w (.asked True.intro rfl)

theorem onTimer_adds [Download2 E OrderEntryREST.State] [LimitRequest R] [LawfulLimitRequest R]
    (t : TraceInfo) (refresh : Bool) (canRequest : Kind → Bool) (findOrder : Nat → Nat → Option Order)
    (symbols : List String) (w : World E D R) :
    Adds config .stream w (onTimer config t refresh canRequest findOrder symbols w) := by
  have queued : Adds config .stream w
      (if config.account.master then checkRequestQueue config t canRequest findOrder symbols w else w) := by
    split
    · exact checkRequestQueue_adds t canRequest findOrder symbols w
    · exact .refl w
  unfold onTimer
  split
  · have may : Cause.stream.downloads := True.intro
    exact queued.trans (checkPending_adds t _ _ _ fun w => getPrivateToken_adds may t _ w)
  · exact .refl w

theorem act_adds (w : World E D R) (action : OrderAction) : Adds config (.action action) w (act config w action).2 := by
  cases action with
  | createOrder messageInfo order refData requestId =>
      simp only [act,createOrder]
      split
      · exact .refl w
      · exact .submit w (.ordered List.mem_cons_self)
  | modifyOrder => exact .refl w
  | cancelOrder messageInfo cancel order requestId =>
      simp only [act,cancelOrder]
      split
      · exact .refl w
      · exact .submit w (.ordered List.mem_cons_self)
  | cancelAllOrders messageInfo cancel requestId symbols =>
      simp only [act,cancelAllOrders]
      split
      · exact .refl w
      · apply Adds.foldl symbols w
        intro w symbol member
        split
        · exact .refl w
        · rename_i passed
          have kept : cancel.symbol = "" ∨ symbol = cancel.symbol := by
            by_cases empty : cancel.symbol = ""
            · exact .inl empty
            · exact .inr (by_contra fun other => passed ⟨empty,other⟩)
          refine Adds.trans (.submit w (.ordered (List.mem_map.mpr ⟨symbol,?_,rfl⟩))) (.emit _ (.forwarded member) rfl)
          simpa [List.mem_filter,member] using kept

-- The drop copy writes to the log only.

theorem quiet_other (quiet : DropCopy.quiet e = true) : submissionOf (.effect e) = none := by
  cases e with
  | submit => cases quiet
  | _ => rfl

-- What a part of a handler of the drop copy does.
def Logs (config : Config) (before after : Session D R) : Prop :=
  ∃ fresh : List Effect, after.log = fresh.map .effect ++ before.log ∧ ∀ e ∈ fresh,
    Causes config .dropCopy e ∧ submissionOf (.effect e) = none

theorem Logs.refl (c : Session D R) : Logs config c c := ⟨[],rfl,by simp⟩

theorem Logs.trans {a b c : Session D R} (one : Logs config a b) (two : Logs config b c) : Logs config a c := by
  obtain ⟨first,firstLog,firstCauses⟩ := one
  obtain ⟨second,secondLog,secondCauses⟩ := two
  refine ⟨second ++ first,by rw [secondLog,firstLog,List.map_append,List.append_assoc],?_⟩
  intro e member
  rcases List.mem_append.mp member with newer | older
  · exact secondCauses e newer
  · exact firstCauses e older

theorem tame_logs [Download2 D DropCopy.State] [LimitRequest R]
    {c after : Session D R} (tame : DropCopy.Tame c after) : Logs config c after := by
  obtain ⟨fresh,log,silent⟩ := tame.log
  exact ⟨fresh,log,fun e member => ⟨.quiet (silent e member),quiet_other (silent e member)⟩⟩

theorem onConnectionStatus_logs (status : ConnectionStatus) (reason : String) (c : Session D R) :
    Logs config c (DropCopy.onConnectionStatus config status reason c) :=
  ⟨[_],rfl,by simpa using ⟨.wsStatus,rfl⟩⟩

variable [LimitRequest R] [LawfulLimitRequest R]

theorem onDownload_logs (t : TraceInfo) (d : D) (s : DropCopy.State) (c : Session D R) :
    Logs config c (DropCopy.onDownload config t d s c).2 := by
  by_cases waiting : (DropCopy.onDownload config t d s c).1 = 0
  · by_cases last : s = .done
    · subst last
      exact onConnectionStatus_logs .ready "" c
    · rw [DropCopy.onDownload_passes config last waiting]
      exact .refl c
  · obtain ⟨fresh,log,silent⟩ := (DropCopy.onDownload_waits config waiting).log
    refine (onConnectionStatus_logs .downloading s.name c).trans ⟨fresh,log,?_⟩
    exact fun e member => ⟨.quiet (silent e member),quiet_other (silent e member)⟩

theorem moves_logs [Download2 D DropCopy.State] {c after : Session D R} (moves : DropCopy.Moves config event c after) :
    Logs config c after := by
  obtain ⟨moved,stage,chores⟩ := moves
  apply Logs.trans ?_ (tame_logs chores.tame)
  cases stage with
  | stays => exact .refl c
  | dropped _ => exact onConnectionStatus_logs .disconnected "" _
  | walked _ kept walk =>
      have walked := walk.related (Logs config) (fun _ _ _ one two => one.trans two) (onDownload_logs _)
      exact (tame_logs kept.toTame).trans walked

-- One event of an account.

def causeOf (w : World E D R) (event : Event) : Cause :=
  match responseOf w event with
  | some (s,_) => .answer s
  | none =>
    match event with
    | .dropCopy _ => .dropCopy
    | .rest (.action action) => .action action
    | .rest _ => .stream

-- The world as the handler of an event finds it.
def prepared (w : World E D R) (event : Event) : World E D R :=
  match responseOf w event with
  | some (s,_) => answering s (receive event w)
  | none => receive event w

omit [LimitRequest R] [LawfulLimitRequest R] in
theorem resume_adds {w : World E D R} {c : Session D R} (logs : Logs config (session stream w) c) :
    Adds config .dropCopy w (resume w c) := by
  obtain ⟨fresh,log,causes⟩ := logs
  have grown : (resume w c).log = fresh.map Entry.effect ++ w.log := log
  have silent : (fresh.map Entry.effect).filterMap submissionOf = [] := by
    rw [List.filterMap_map,List.filterMap_eq_nil_iff]
    exact fun e member => (causes e member).2
  refine ⟨?_,fresh,grown,fun e member => (causes e member).1,?_⟩
  · intro numbered
    rw [Numbered,grown,List.filterMap_append,silent,List.nil_append]
    exact numbered
  · rw [silent]
    rfl

variable [Download2 E OrderEntryREST.State] [Download2 D DropCopy.State] [LawfulDownload2 E] [LawfulDownload2 D]

theorem step_adds {w after : World E D R} (ran : AccountSystem.step config w event = some after) :
    Adds config (causeOf w event) (prepared w event) after := by
  cases happens : responseOf w event with
  | some answered =>
      obtain ⟨s,response⟩ := answered
      obtain ⟨t,id,rfl,found⟩ := responseOf_iff.mp happens
      rw [step_response found] at ran
      simp only [causeOf,prepared,happens]
      exact invoke_adds ran
  | none =>
      simp only [causeOf,prepared,happens]
      cases step_happens ran with
      | lost => cases event with
        | dropCopy => exact .refl _
        | rest happened => cases happened <;> exact .refl _
      | copied same present _ moves =>
          subst same
          exact resume_adds (moves_logs moves)
      | @served happened _ same other =>
          subst same
          cases happened with
          | timer t refresh canRequest findOrder symbols =>
              exact Option.some.inj ran ▸ onTimer_adds t refresh canRequest findOrder symbols _
          | connected t =>
              have may : Cause.stream.downloads := True.intro
              exact Option.some.inj ran ▸ onConnected_adds may t _
          | disconnected t =>
              have may : Cause.stream.downloads := True.intro
              exact Option.some.inj ran ▸ onDisconnected_adds may _
          | action action => exact Option.some.inj ran ▸ act_adds _ action
          | response t id response => exact absurd rfl (other t id response)
      | answered same found =>
          rw [responseOf_iff.mpr ⟨_,_,same,found⟩] at happens
          cases happens

end KucoinPro.EffectCauses
