import KucoinPro.AccountSystem
import KucoinPro.History

namespace KucoinPro.OrderEntryREST
open StagedWalk Json

variable {E D R : Type} (config : Config)

-- What a private token does to the drop copy: nothing, or a new query.
inductive Renewed [Download2 D DropCopy.State] : Option (DropCopy D) → Option (DropCopy D) → Prop where
  | same : Renewed d d
  | created : query ≠ "" → Renewed none (some (DropCopy.create query))
  | renewed : query ≠ "" → Renewed (some d) (some {d with query := query})

theorem Renewed.trans [Download2 D DropCopy.State]
    {a b c : Option (DropCopy D)} (one : Renewed a b) (two : Renewed b c) : Renewed a c := by
  cases two with
  | same => exact one
  | created known =>
      cases one with
      | same => exact .created known
  | renewed known =>
      cases one with
      | same => exact .renewed known
      | created _ => exact .created known
      | renewed _ => exact .renewed known

theorem Renewed.state [Download2 D DropCopy.State]
    [LawfulDownload2 D] {before : Option (DropCopy D)} (renewed : Renewed before (some stream)) :
    Walker.state stream.download = (.undefined : DropCopy.State) ∨
      ∃ earlier, before = some earlier ∧ Walker.state stream.download = Walker.state earlier.download := by
  cases renewed with
  | same => exact .inr ⟨stream,rfl,rfl⟩
  | created _ => exact .inl LawfulDownload2.create_state
  | renewed _ => exact .inr ⟨_,rfl,rfl⟩

-- Somebody is after a private token.
def Asking [LimitRequest R] (w : World E D R) : Prop :=
  w.request.pending .privateToken = true ∨ ∃ s ∈ w.inFlight, s.callback.kind = some .privateToken

-- The request that goes with a callback.
def Asked (s : Submission) : Prop :=
  match s.callback with
  | .getPrivateTokenAck _ => ∃ t, s.request = postRequest config t API.restPrivate.bulletPrivate .undefined ""
  | .getAccountAck => ∃ t, s.request = getRequest config t API.restPrivate.accountBalance "?accountType=FUNDING" .immediate
  | .getPositionAck => ∃ t, s.request = getRequest config t API.restPrivate.positionOpenList "?accountMode=UNIFIED" .immediate
  | .getOrdersAck => ∃ t, s.request =
      getRequest config t API.restPrivate.orderOpenList "?accountMode=UNIFIED&tradeType=FUTURES" .immediate
  | .getOrderAck clientOrderId => ∃ t externalOrderId symbol, s.request =
      getRequest config t API.restPrivate.orderDetails (getOrderQuery clientOrderId externalOrderId symbol) .immediate
  | .getExecutionAck => ∃ t, s.request =
      getRequest config t API.restPrivate.orderExecution "?accountMode=UNIFIED&tradeType=FUTURES" .immediate
  | .createOrderAck _ _ => ∃ t body, s.request = postRequest config t API.restPrivate.orderPlace .applicationJson body
  | .cancelOrderAck _ _ _ => ∃ t body, s.request = postRequest config t API.restPrivate.orderCancel .undefined body
  | .cancelAllOrdersAck => ∃ t body, s.request = postRequest config t API.restPrivate.orderCancelAll .undefined body
  | .getOrderBookAck symbol => ∃ t, s.request = getRequest config t API.restPublic.marketOrderbook
      ("?tradeType=FUTURES&symbol=" ++ symbol ++ "&limit=FULL") .undefined

-- And only the master asks for what is its own.
structure Proper (s : Submission) : Prop where
  asked : Asked config s
  allowed : config.account.master = true ∨ s.callback.isOwn = false

-- Effects of the order stream: no status of the websocket, no answered request.
def served : Effect → Bool
  | .streamStatus status => status.protocol == .http
  | .answer _ => false
  | _ => true

-- Effects that neither announce a token nor that the order stream is READY.
def calm : Effect → Bool
  | .privateToken _ => false
  | .streamStatus status => !(status.protocol == .http && status.connectionStatus == .ready)
  | _ => true

-- The download of the order stream, the flag that goes with it and the drop copy
-- are left alone.
structure Spared (before after : World E D R) : Prop where
  dropCopy : after.dropCopy = before.dropCopy
  download : after.rest.download = before.rest.download
  flag : after.rest.hasDownloadedPrivateToken = before.rest.hasDownloadedPrivateToken
  log : ∃ fresh : List Effect, after.log = fresh.map .effect ++ before.log ∧ ∀ e ∈ fresh, calm e = true

-- The order-detail requests that are in flight.
def orderDetails (w : World E D R) : List Submission := w.inFlight.filter fun s => s.callback.kind == some .staleOrders

-- And so are the stale orders: the counter and the requests it is there for, the
-- set of orders and whether somebody asks for it.
structure Unasked (before after : World E D R) : Prop where
  counter : after.rest.downloadStaleOrdersCounter = before.rest.downloadStaleOrdersCounter
  asked : orderDetails after = orderDetails before
  details : after.request.detailsStaleOrders = before.request.detailsStaleOrders

structure Unbatched [LimitRequest R] (before after : World E D R) : Prop extends Unasked before after where
  pending : after.request.pending .staleOrders = before.request.pending .staleOrders

-- The kinds whose response flag a handler may set, and whether it may touch the
-- download and the stale orders.
structure Scope where
  flagged : Kind → Prop
  downloads : Prop
  batches : Prop

def Scope.nothing : Scope := ⟨fun _ => False,False,False⟩

-- All that a handler of the order stream does to the account.
structure Serves [Download2 D DropCopy.State] [LimitRequest R] (scope : Scope) (before after : World E D R) : Prop where
  dropCopy : Renewed before.dropCopy after.dropCopy
  response : ∀ k, after.request.response k = true → before.request.response k = true ∨ scope.flagged k
  log : ∃ fresh : List Effect, after.log = fresh.map .effect ++ before.log ∧ ∀ e ∈ fresh, served e = true
  inFlight : ∀ s ∈ after.inFlight, s ∈ before.inFlight ∨ Proper config s
  keeps : ∀ s ∈ before.inFlight, s ∈ after.inFlight
  asking : Asking before → Asking after
  spared : scope.downloads ∨ Spared before after
  unbatched : scope.batches ∨ Unbatched before after

-- The code of a response and of its body, as the ack handlers look at it; the
-- body of an order detail is not looked at.
def content (response : Web.Response) : Option String :=
  match response.result with
  | .ok ⟨_,.success,body⟩ | .ok ⟨_,.clientError,body⟩ => some body
  | _ => none

def redirects (response : Web.Response) : Bool :=
  match response.result with
  | .ok ⟨_,.redirection,_⟩ => true
  | _ => false

def decodes (decode : String → Except Exception (Envelope α)) (response : Web.Response) : Bool :=
  match content response with
  | none => false
  | some body =>
    match decode body with
    | .error _ => false
    | .ok ack => ack.code == SYSTEM_CODE_SUCCESS

def succeeds (callback : Callback) (response : Web.Response) : Bool :=
  match callback with
  | .getPrivateTokenAck _ => decodes config.platform.token response
  | .getAccountAck => decodes config.platform.accountAck response
  | .getPositionAck => decodes config.platform.positionAck response
  | .getOrdersAck => decodes config.platform.ordersAck response
  | .getExecutionAck => decodes config.platform.executionAck response
  | _ => true

variable {config} {scope : Scope}

theorem Spared.fields {before after : World E D R} (dropCopy : after.dropCopy = before.dropCopy)
    (rest : after.rest = before.rest) (log : after.log = before.log) : Spared before after :=
  ⟨dropCopy,congrArg (·.download) rest,congrArg (·.hasDownloadedPrivateToken) rest,[],log,by simp⟩

theorem Spared.trans {a b c : World E D R} (one : Spared a b) (two : Spared b c) : Spared a c :=
  ⟨two.dropCopy.trans one.dropCopy,two.download.trans one.download,two.flag.trans one.flag,
    History.newer_trans one.log two.log⟩

theorem Spared.emit (w : World E D R) (silent : calm e = true) : Spared w (w.emit e) :=
  ⟨rfl,rfl,rfl,[e],rfl,by simpa using silent⟩

variable [LimitRequest R]

theorem Unbatched.trans {a b c : World E D R} (one : Unbatched a b) (two : Unbatched b c) : Unbatched a c :=
  ⟨⟨two.counter.trans one.counter,two.asked.trans one.asked,two.details.trans one.details⟩,
    two.pending.trans one.pending⟩

theorem Unbatched.fields {before after : World E D R}
    (counter : after.rest.downloadStaleOrdersCounter = before.rest.downloadStaleOrdersCounter)
    (inFlight : after.inFlight = before.inFlight) (request : after.request = before.request) : Unbatched before after :=
  ⟨⟨counter,by rw [orderDetails,inFlight,orderDetails],by rw [request]⟩,by rw [request]⟩

variable [Download2 D DropCopy.State]

theorem Serves.trans {a b c : World E D R} (one : Serves config scope a b) (two : Serves config scope b c) :
    Serves config scope a c := by
  refine ⟨one.dropCopy.trans two.dropCopy,?_,History.newer_trans one.log two.log,?_,
    fun s present => two.keeps s (one.keeps s present),two.asking ∘ one.asking,?_,?_⟩
  · intro k set
    rcases two.response k set with earlier | now
    · exact one.response k earlier
    · exact .inr now
  · intro s present
    rcases two.inFlight s present with earlier | new
    · exact one.inFlight s earlier
    · exact .inr new
  · rcases one.spared with may | before
    · exact .inl may
    · exact two.spared.imp_right before.trans
  · rcases one.unbatched with may | before
    · exact .inl may
    · exact two.unbatched.imp_right before.trans

theorem Serves.fields {before after : World E D R} (dropCopy : after.dropCopy = before.dropCopy)
    (limit : after.request.limit = before.request.limit) (log : after.log = before.log)
    (inFlight : after.inFlight = before.inFlight) (rest : scope.downloads ∨
      after.rest.download = before.rest.download ∧
      after.rest.hasDownloadedPrivateToken = before.rest.hasDownloadedPrivateToken)
    (stale : scope.batches ∨ after.rest.downloadStaleOrdersCounter = before.rest.downloadStaleOrdersCounter ∧
      after.request.detailsStaleOrders = before.request.detailsStaleOrders) : Serves config scope before after := by
  refine ⟨dropCopy ▸ .same,?_,⟨[],log,by simp⟩,?_,fun _ present => inFlight ▸ present,?_,
    rest.imp_right fun same => ⟨dropCopy,same.1,same.2,[],log,by simp⟩,
    stale.imp_right fun same => ⟨⟨same.1,by rw [orderDetails,inFlight,orderDetails],same.2⟩,?_⟩⟩
  · intro k set
    exact .inl (by simpa [Request.response,limit] using set)
  · intro s present
    exact .inl (inFlight ▸ present)
  · simp [Asking,Request.pending,limit,inFlight]
  · simp [Request.pending,limit]

theorem Serves.refl (w : World E D R) : Serves config scope w w := .fields rfl rfl rfl rfl (.inr ⟨rfl,rfl⟩) (.inr ⟨rfl,rfl⟩)

theorem Serves.emit (w : World E D R) (own : served e = true) (silent : scope.downloads ∨ calm e = true) :
    Serves config scope w (w.emit e) :=
  ⟨.same,fun _ set => .inl set,⟨[e],rfl,by simpa using own⟩,fun _ present => .inl present,fun _ => id,id,silent.imp_right (.emit w),
    .inr (.fields rfl rfl rfl)⟩

theorem Serves.submit (w : World E D R) (allowed : config.account.master = true ∨ callback.isOwn = false)
    (asked : Asked config ⟨w.submitted,request,callback,requestId⟩)
    (other : scope.batches ∨ (callback.kind == some .staleOrders) = false) :
    Serves config scope w (w.submit request callback requestId) := by
  refine ⟨.same,fun _ set => .inl set,⟨[.submit ⟨w.submitted,request,callback,requestId⟩],rfl,by simp [served]⟩,?_,
    fun _ => List.mem_cons_of_mem _,?_,.inr ⟨rfl,rfl,rfl,[.submit _],rfl,by simp [calm]⟩,
    other.imp_right fun another => ⟨⟨rfl,?_,rfl⟩,rfl⟩⟩
  · intro s present
    rcases List.mem_cons.mp present with rfl | earlier
    · exact .inr ⟨asked,allowed⟩
    · exact .inl earlier
  · rintro (pending | ⟨s,present,token⟩)
    · exact .inl pending
    · exact .inr ⟨s,List.mem_cons_of_mem _ present,token⟩
  · simp [orderDetails,World.submit,another]

theorem Serves.foldl {step : World E D R → α → World E D R} (each : ∀ w x, Serves config scope w (step w x))
    (xs : List α) (w : World E D R) : Serves config scope w (xs.foldl step w) := by
  induction xs generalizing w with
  | nil => exact .refl w
  | cons x rest ih => exact (each w x).trans (ih (step w x))

theorem onConnectionStatus_serves (may : scope.downloads) (status : ConnectionStatus) (reason : String) (w : World E D R) :
    Serves config scope w (onConnectionStatus config status reason w) := by
  have one : Serves config scope w {w with rest.connectionStatus := status} := .fields rfl rfl rfl rfl (.inl may) (.inr ⟨rfl,rfl⟩)
  exact one.trans (.emit _ rfl (.inl may))

theorem getPrivateToken_serves (t : TraceInfo) (sequence : Nat) (w : World E D R) :
    Serves config scope w (getPrivateToken config t sequence w) := .submit w (.inr rfl) ⟨t,rfl⟩ (.inr rfl)

theorem onDownload_serves [Download2 E State]
    (may : scope.downloads) (t : TraceInfo) (walker : E) (s : State) (w : World E D R) :
    Serves config scope w (onDownload config t walker s w).2 := by
  cases s with
  | undefined => exact .refl w
  | privateToken =>
      simp only [onDownload]
      split
      · exact .refl w
      · exact (onConnectionStatus_serves may _ _ w).trans (getPrivateToken_serves t _ _)
  | done => exact onConnectionStatus_serves may _ _ w

theorem withDownload_serves (may : scope.downloads) {w : World E D R} {result : E × World E D R}
    (served : Serves config scope w result.2) : Serves config scope w (withDownload result) :=
  served.trans (.fields rfl rfl rfl rfl (.inl may) (.inr ⟨rfl,rfl⟩))

theorem walk_serves [Download2 E State]
    (may : scope.downloads) {w during : World E D R} (walk : Walk (onDownload config t) s w d during) :
    Serves config scope w (withDownload (d,during)) :=
  withDownload_serves may (walk.related (Serves config scope) (fun _ _ _ one two => one.trans two) (onDownload_serves may t))

-- Every path of process_response is a handler, or nothing at all.
section processResponse
variable {σ : Type} {related : σ → σ → Prop} {errorHandler : Origin → RequestStatus → Error → String → σ → σ}
  {successHandler : String → σ → Except Exception Unit × σ}

theorem catchException_rule (fails : ∀ origin status error text w, related w (errorHandler origin status error text w))
    (e : Exception) (w : σ) : related w (catchException errorHandler e w) := by
  cases e with
  | oms => exact fails _ _ _ _ w
  | network => exact fails _ _ _ _ w
  | std => exact fails _ _ _ _ w

theorem processResponse_rule {w after : σ} (refl : ∀ w, related w w) (trans : ∀ a b c, related a b → related b c → related a c)
    (fails : ∀ origin status error text w, related w (errorHandler origin status error text w))
    (succeeds : ∀ body w, related w (successHandler body w).2)
    (ran : processResponse config response errorHandler successHandler w = some after) : related w after := by
  have finished : ∀ result : Except Exception Unit × σ, related w result.2 → related w (finish errorHandler result) := by
    rintro ⟨outcome,during⟩ reached
    cases outcome with
    | ok => exact reached
    | error e => exact trans _ _ _ reached (catchException_rule fails e during)
  unfold processResponse at ran
  split at ran
  · exact Option.some.inj ran ▸ catchException_rule fails _ w
  · split at ran
    · exact Option.some.inj ran ▸ finished _ (refl w)
    · exact Option.some.inj ran ▸ finished _ (refl w)
    · exact Option.some.inj ran ▸ finished _ (succeeds _ w)
    · exact Option.some.inj ran ▸ finished _ (succeeds _ w)
    · cases ran
    · exact Option.some.inj ran ▸ fails _ _ _ _ w

def Fails (errorHandler : Origin → RequestStatus → Error → String → σ → σ) (w after : σ) : Prop :=
  ∃ origin status error text, status.isFailure = true ∧ after = errorHandler origin status error text w

theorem catchException_fails {w : σ} (e : Exception) : Fails errorHandler w (catchException errorHandler e w) := by
  cases e with
  | oms origin status error what failed => exact ⟨origin,status,error,what,failed,rfl⟩
  | network status error what failed => exact ⟨.gateway,status,error,what,failed,rfl⟩
  | std what => exact ⟨.exchange,.error,.unknown,what,rfl,rfl⟩

-- A response without content fails, whatever it is; a redirect is fatal.
theorem processResponse_lands {w : σ} (landed : redirects response = false) (empty : content response = none) :
    ∃ after, processResponse config response errorHandler successHandler w = some after ∧ Fails errorHandler w after := by
  unfold processResponse
  cases result : response.result with
  | error e => exact ⟨_,rfl,catchException_fails e⟩
  | ok r =>
      obtain ⟨status,category,body⟩ := r
      cases category with
      | unknown | informationalResponse =>
          -- expect(OK) throws
          have other : status ≠ Web.STATUS_OK := response.proper _ result (by simp)
          simp only [Web.Response.expect,other,if_false]
          exact ⟨_,rfl,catchException_fails _⟩
      | success | clientError => simp [content,result] at empty
      | redirection => simp [redirects,result] at landed
      | serverError => exact ⟨_,rfl,.exchange,.rejected,.unknown,_,rfl,rfl⟩

theorem processResponse_redirects {w : σ} (redirect : redirects response = true) :
    processResponse config response errorHandler successHandler w = none := by
  unfold redirects at redirect
  split at redirect
  · rename_i result
    simp only [processResponse,result]
  · cases redirect

theorem processResponse_failed {w after : σ} (empty : content response = none)
    (ran : processResponse config response errorHandler successHandler w = some after) : Fails errorHandler w after := by
  cases landed : redirects response with
  | true =>
      rw [processResponse_redirects landed] at ran
      cases ran
  | false =>
      have lands : ∃ reached, processResponse config response errorHandler successHandler w = some reached ∧
          Fails errorHandler w reached := processResponse_lands landed empty
      obtain ⟨_,same,fails⟩ := lands
      rw [ran] at same
      exact Option.some.inj same ▸ fails

end processResponse

theorem processResponse_serves {w after : World E D R}
    {errorHandler : Origin → RequestStatus → Error → String → World E D R → World E D R}
    (fails : ∀ origin status error text w, Serves config scope w (errorHandler origin status error text w))
    (succeeds : ∀ body w, Serves config scope w (successHandler body w).2)
    (ran : processResponse config response errorHandler successHandler w = some after) : Serves config scope w after :=
  processResponse_rule Serves.refl (fun _ _ _ one two => one.trans two) fails succeeds ran

-- The world the callback of a request starts from.
def answering (submission : Submission) (w : World E D R) : World E D R :=
  {w with inFlight := w.inFlight.eraseP (fun s => s.id == submission.id)}.emit (.answer submission)

-- It takes that request, and no other, out of those in flight.
omit [Download2 D DropCopy.State] [LimitRequest R] in
theorem answering_split {id : Nat} {w : World E D R} (found : w.inFlight.find? (fun s => s.id == id) = some submission) :
    ∃ earlier later, w.inFlight = earlier ++ submission :: later ∧ (answering submission w).inFlight = earlier ++ later := by
  obtain ⟨same,earlier,later,split,none⟩ := List.find?_eq_some_iff_append.mp found
  have known : submission.id = id := by simpa using same
  subst known
  refine ⟨earlier,later,split,?_⟩
  simp only [answering,World.emit]
  rw [split,List.eraseP_append_right _ (by simpa using none)]
  simp

omit [Download2 D DropCopy.State] [LimitRequest R] in
theorem answering_keeps {id : Nat} {w : World E D R} (found : w.inFlight.find? (fun s => s.id == id) = some submission)
    (present : s ∈ w.inFlight) (other : s ≠ submission) : s ∈ (answering submission w).inFlight := by
  obtain ⟨earlier,later,split,remain⟩ := answering_split found
  rw [split] at present
  rw [remain]
  simpa [other] using present

theorem onResponse_found [Download2 E State]
    {id : Nat} {w : World E D R} (found : w.inFlight.find? (fun s => s.id == id) = some submission) :
    onResponse config t id response w = invoke config t submission response (answering submission w) := by
  have known : submission.id = id := by simpa using List.find?_some found
  subst known
  simp only [onResponse,found]
  rfl

theorem commit_serves [LawfulLimitRequest R] (t : TraceInfo) (w : World E D R) (mine : scope.flagged kind) :
    Serves config scope w (commit t kind w) := by
  refine ⟨.same,?_,⟨[],rfl,by simp⟩,fun _ present => .inl present,fun _ => id,?_,.inr (.fields rfl rfl rfl),
    .inr ⟨⟨rfl,rfl,rfl⟩,by simp [commit]⟩⟩
  · intro k set
    simp only [commit,Request.commit_response,Bool.or_eq_true,decide_eq_true_eq] at set
    rcases set with same | earlier
    · exact .inr (same ▸ mine)
    · exact .inl earlier
  · simp [Asking,commit]

theorem getAck_serves [LawfulLimitRequest R] {decode : String → Except Exception (Envelope α)}
    {handler : Envelope α → World E D R → Except Exception Unit × World E D R} {w after : World E D R} (mine : scope.flagged kind)
    (handles : ∀ ack w, Serves config scope w (handler ack w).2)
    (ran : getAck config decode handler kind t response w = some after) : Serves config scope w after := by
  obtain ⟨processed,process,rfl⟩ := Option.map_eq_some_iff.mp ran
  refine (processResponse_serves (fun _ _ _ _ w => .refl w) ?_ process).trans (commit_serves t processed mine)
  intro body w
  split
  · exact .refl w
  · split
    · exact handles _ w
    · exact .refl w

theorem processResponse_content {σ : Type} {errorHandler : Origin → RequestStatus → Error → String → σ → σ}
    {successHandler : String → σ → Except Exception Unit × σ} {w : σ} (known : content response = some body) :
    processResponse config response errorHandler successHandler w = some (finish errorHandler (successHandler body w)) := by
  unfold content at known
  split at known
  · rename_i result
    cases known
    simp only [processResponse,result]
  · rename_i result
    cases known
    simp only [processResponse,result]
  · cases known

-- A success is handed to the ack handler, which first of all notes it.
theorem getAck_handled {decode : String → Except Exception (Envelope α)} {note : Envelope α → Effect}
    {handler : Envelope α → World E D R → Except Exception Unit × World E D R} {w after : World E D R}
    (handles : ∀ ack w, Serves config .nothing (w.emit (note ack)) (handler ack w).2)
    (good : decodes decode response = true) (ran : getAck config decode handler kind t response w = some after) :
    ∃ ack, ∃ fresh : List Effect, ack.code = SYSTEM_CODE_SUCCESS ∧
      after.log = fresh.map .effect ++ .effect (note ack) :: w.log := by
  unfold decodes at good
  cases known : content response with
  | none => simp [known] at good
  | some body =>
      cases decoded : decode body with
      | error e => simp [known,decoded] at good
      | ok ack =>
          have success : ack.code = SYSTEM_CODE_SUCCESS := by simpa [known,decoded] using good
          obtain ⟨processed,process,rfl⟩ := Option.map_eq_some_iff.mp ran
          rw [processResponse_content known] at process
          simp only [decoded,success,if_true,Option.some.injEq] at process
          have handled : Serves config .nothing (handler ack w).2 processed := by
            subst process
            rcases handler ack w with ⟨outcome,during⟩
            cases outcome with
            | ok => exact .refl _
            | error e => exact catchException_rule (fun _ _ _ _ w => .refl w) e during
          obtain ⟨fresh,log,_⟩ := ((handles ack w).trans handled).log
          exact ⟨ack,fresh,success,log⟩

theorem onAccountAck_notes (ack : AccountAck) (w : World E D R) :
    Serves config scope (w.emit (.accountAck ack)) (onAccountAck config ack w).2 := .foldl (fun w _ => .emit w rfl (.inr rfl)) _ _

theorem onOrderItems_serves (items : List OrdersAckDataItemsItem) (w : World E D R) :
    Serves config scope w (onOrderItems config items w).2 := by
  induction items generalizing w with
  | nil => exact .refl w
  | cons item rest ih =>
      simp only [onOrderItems]
      split
      · exact .refl w
      · exact (Serves.emit w rfl (.inr rfl)).trans (ih _)

theorem onOrdersAck_notes (ack : OrdersAck) (w : World E D R) :
    Serves config scope (w.emit (.ordersAck ack)) (onOrdersAck config ack w).2 := onOrderItems_serves _ _

theorem getOrderAck_serves [LawfulLimitRequest R]
    {w after : World E D R} (mine : scope.flagged .staleOrders) (may : scope.batches)
    (ran : getOrderAck config t clientOrderId response w = some after) : Serves config scope w after := by
  obtain ⟨processed,process,counted⟩ := Option.bind_eq_some_iff.mp ran
  have one : Serves config scope w processed :=
    processResponse_serves (fun _ _ _ _ w => .refl w) (fun _ w => .refl w) process
  split at counted
  · cases counted
  · obtain rfl := Option.some.inj counted
    have two : Serves config scope processed
        {processed with rest.downloadStaleOrdersCounter := processed.rest.downloadStaleOrdersCounter - 1} :=
      .fields rfl rfl rfl rfl (.inr ⟨rfl,rfl⟩) (.inl may)
    split
    · exact (one.trans two).trans (commit_serves t _ mine)
    · exact one.trans two

theorem onPrivateToken_serves (may : scope.downloads) (w : World E D R) (known : p.query ≠ "") :
    Serves config scope w (Controller.onPrivateToken p w) := by
  unfold Controller.onPrivateToken
  split
  · rename_i absent
    exact ⟨absent ▸ .created known,fun _ set => .inl set,⟨[.start],rfl,by simp [served]⟩,fun _ present => .inl present,fun _ => id,id,
      .inl may,.inr (.fields rfl rfl rfl)⟩
  · rename_i dropCopy present
    split
    · exact ⟨present ▸ .renewed known,fun _ set => .inl set,⟨[.resume],rfl,by simp [served]⟩,fun _ present => .inl present,fun _ => id,id,
        .inl may,.inr (.fields rfl rfl rfl)⟩
    · exact .refl w

theorem query_known (token : String) : "?token=" ++ token ≠ "" := by
  intro equal
  have size := congrArg String.length equal
  rw [String.length_append] at size
  have prefixed : "?token=".length = 7 := rfl
  have none : "".length = 0 := rfl
  omega

section handlers
variable [Download2 E State]

section download

omit [Download2 E State] in
theorem onToken_serves (may : scope.downloads) (token : Token) (w : World E D R) :
    Serves config scope w (onToken config token w) := by
  have one : Serves config scope w (w.emit (.token token)) := .emit w rfl (.inr rfl)
  exact (one.trans (.emit _ rfl (.inl may))).trans (onPrivateToken_serves may _ (query_known token.data.token))

theorem retryPrivateToken_serves [LawfulDownload2 E] (may : scope.downloads) (t : TraceInfo) (w : World E D R) :
    Serves config scope w (retryPrivateToken config t w) := by
  unfold retryPrivateToken
  split
  · exact withDownload_serves may (retry_related (Serves config scope) .refl (fun _ _ _ one two => one.trans two) (onDownload_serves may t) _ _ w)
  · exact .refl w

theorem checkPrivateToken_serves [LawfulDownload2 E] (may : scope.downloads) (t : TraceInfo) (w : World E D R) :
    Serves config scope w (checkPrivateToken config t w) := by
  unfold checkPrivateToken
  split
  · exact withDownload_serves may (check_related (Serves config scope) .refl (fun _ _ _ one two => one.trans two) (onDownload_serves may t) _ _ w)
  · exact .refl w

-- What the ack of a private token does, before the request is committed.
inductive TokenAck (config : Config) (t : TraceInfo) (sequence : Nat) (response : Web.Response) (w : World E D R) :
    World E D R → Prop where
  | retried : (∀ body, content response = some body → ∃ e, config.platform.token body = .error e) →
      TokenAck config t sequence response w (retryPrivateToken config t w)
  | skipped : (isDownloading w && Download2.skip sequence .privateToken w.rest.download) = true →
      TokenAck config t sequence response w w
  | processed : (isDownloading w && Download2.skip sequence .privateToken w.rest.download) = false →
      content response = some body → config.platform.token body = .ok token →
      TokenAck config t sequence response w {checkPrivateToken config t
        (if token.code = SYSTEM_CODE_SUCCESS then onToken config token w else w) with rest.hasDownloadedPrivateToken := true}

theorem getPrivateTokenAck_cases {sequence : Nat} {w after : World E D R}
    (ran : getPrivateTokenAck config t sequence response w = some after) :
    ∃ processed, TokenAck config t sequence response w processed ∧ after = commit t .privateToken processed := by
  obtain ⟨processed,process,rfl⟩ := Option.map_eq_some_iff.mp ran
  refine ⟨processed,?_,rfl⟩
  cases known : content response with
  | none =>
      obtain ⟨_,_,_,_,_,rfl⟩ := processResponse_failed known process
      exact .retried (by simp [known])
  | some body =>
      rw [processResponse_content known] at process
      cases skipped : isDownloading w && Download2.skip sequence .privateToken w.rest.download with
      | true =>
          simp only [skipped,if_true,finish,Option.some.injEq] at process
          exact process ▸ .skipped skipped
      | false =>
          cases decoded : config.platform.token body with
          | error e =>
              simp only [skipped,decoded,Bool.false_eq_true,if_false,finish,Option.some.injEq] at process
              have thrown : processed = retryPrivateToken config t w := by
                rw [← process]
                cases e <;> rfl
              refine thrown ▸ .retried ?_
              intro other same
              cases known.symm.trans same
              exact ⟨e,decoded⟩
          | ok token =>
              simp only [skipped,decoded,Bool.false_eq_true,if_false,finish,Option.some.injEq] at process
              exact process ▸ .processed skipped known decoded

theorem getPrivateTokenAck_serves [LawfulLimitRequest R] [LawfulDownload2 E]
    (may : scope.downloads) {sequence : Nat} {w after : World E D R}
    (mine : scope.flagged .privateToken)
    (ran : getPrivateTokenAck config t sequence response w = some after) : Serves config scope w after := by
  obtain ⟨processed,acked,rfl⟩ := getPrivateTokenAck_cases ran
  apply Serves.trans ?_ (commit_serves t processed mine)
  cases acked with
  | retried _ => exact retryPrivateToken_serves may t w
  | skipped _ => exact .refl w
  | @processed _ token _ _ _ =>
      have dispatched : Serves config scope w (if token.code = SYSTEM_CODE_SUCCESS then onToken config token w else w) := by
        split
        · exact onToken_serves may token w
        · exact .refl w
      exact (dispatched.trans (checkPrivateToken_serves may t _)).trans (.fields rfl rfl rfl rfl (.inl may) (.inr ⟨rfl,rfl⟩))

theorem onConnected_serves [LawfulDownload2 E] (may : scope.downloads) (t : TraceInfo) (w : World E D R) :
    Serves config scope w (onConnected config t w) := by
  unfold onConnected
  cases running : isDownloading w with
  | true =>
      exact walk_serves may (LawfulDownload2.bump_running (onDownload config t) w.rest.download w running)
  | false =>
      exact walk_serves may (LawfulDownload2.begin_idle (onDownload config t) w.rest.download w running)

theorem onDisconnected_serves (may : scope.downloads) (w : World E D R) : Serves config scope w (onDisconnected config w) := by
  have one : Serves config scope w (onConnectionStatus config .disconnected "" w) := onConnectionStatus_serves may _ _ w
  simp only [onDisconnected]
  split
  · exact one
  · exact one.trans (.fields rfl rfl rfl rfl (.inl may) (.inr ⟨rfl,rfl⟩))

end download

variable [LawfulLimitRequest R]

omit [Download2 E State] [Download2 D DropCopy.State] in
theorem checkPending_eq (t : TraceInfo) (kind : Kind) (granted : Bool) (callback : World E D R → World E D R) (w : World E D R) :
    checkPending t kind granted callback w =
      if w.request.pending kind && granted then callback {w with request := (w.request.checkPending t kind granted).2}
      else {w with request := (w.request.checkPending t kind granted).2} := by
  have run : (w.request.checkPending t kind granted).1 = (w.request.pending kind && granted) := Request.checkPending_fst
  rw [← run]
  rfl

omit [Download2 E State] in
theorem checkPending_serves {callback : World E D R → World E D R} (t : TraceInfo) (granted : Bool) (w : World E D R)
    (own : kind ≠ .privateToken) (each : ∀ w, Serves config scope w (callback w))
    (other : scope.batches ∨ (kind == .staleOrders) = false) :
    Serves config scope w (checkPending t kind granted callback w) := by
  have taken : Serves config scope w {w with request := (w.request.checkPending t kind granted).2} := by
    refine ⟨.same,?_,⟨[],rfl,by simp⟩,fun _ present => .inl present,fun _ => id,?_,.inr (.fields rfl rfl rfl),
      other.imp_right fun another => ⟨⟨rfl,rfl,rfl⟩,?_⟩⟩
    · intro k set
      exact .inl (by simpa using set)
    · have other : ¬(Kind.privateToken = kind) := fun same => own same.symm
      simp [Asking,other]
    · have stale : ¬(Kind.staleOrders = kind) := fun same => by simp [← same] at another
      simp [stale]
  rw [checkPending_eq]
  split
  · exact taken.trans (each _)
  · exact taken

theorem checkPending_token_serves (scope : Scope) (t : TraceInfo) (granted : Bool) (w : World E D R) :
    Serves config scope w (checkPending t .privateToken granted
      (fun w => getPrivateToken config t (Walker.sequence w.rest.download) w) w) := by
  have asks : ∀ w : World E D R, Asking (getPrivateToken config t (Walker.sequence w.rest.download) w) :=
    fun _ => .inr ⟨_,List.mem_cons_self,rfl⟩
  rw [checkPending_eq]
  cases run : w.request.pending .privateToken && granted with
  | true =>
      let taken : World E D R := {w with request := (w.request.checkPending t .privateToken granted).2}
      have served : Serves config scope taken (getPrivateToken config t (Walker.sequence w.rest.download) taken) :=
        getPrivateToken_serves t _ taken
      have same : Spared w taken := .fields rfl rfl rfl
      have kept : Unbatched w taken := ⟨⟨rfl,rfl,rfl⟩,by simp [taken]⟩
      refine ⟨.same,?_,served.log,served.inFlight,served.keeps,fun _ => asks _,served.spared.imp_right same.trans,
        served.unbatched.imp_right kept.trans⟩
      intro k set
      exact .inl (by simpa [getPrivateToken,World.submit] using set)
  | false =>
      refine ⟨.same,?_,⟨[],rfl,by simp⟩,fun _ present => .inl present,fun _ => id,?_,.inr (.fields rfl rfl rfl),
        .inr ⟨⟨rfl,rfl,rfl⟩,by simp⟩⟩
      · intro k set
        exact .inl (by simpa using set)
      · rintro (pending | flying)
        · have refused : granted = false := by simpa [pending] using run
          exact .inl (by simp [pending,refused])
        · exact .inr flying

omit [Download2 E State] [LawfulLimitRequest R] in
theorem getStaleOrders_serves (t : TraceInfo) (findOrder : Nat → Nat → Option Order) (w : World E D R)
    (master : config.account.master = true) (may : scope.batches) :
    Serves config scope w (getStaleOrders config t findOrder w) := by
  have each : ∀ (w : World E D R) key, Serves config scope w (getStaleOrder config t findOrder w key) := by
    intro w key
    unfold getStaleOrder
    split
    · exact .refl w
    · rename_i order _
      have one : Serves config scope w (getOrder config t order.symbol order.clientOrderId order.externalOrderId w) :=
        .submit w (.inl master) ⟨t,_,_,rfl⟩ (.inl may)
      exact one.trans (.fields rfl rfl rfl rfl (.inr ⟨rfl,rfl⟩) (.inl may))
  exact (Serves.foldl each _ w).trans (.fields rfl rfl rfl rfl (.inr ⟨rfl,rfl⟩) (.inl may))

-- One request for each order that is found, with the arguments in the order in
-- which the lambda passes them, and the counter is raised by as many.
def IsDetail (config : Config) (t : TraceInfo) (findOrder : Nat → Nat → Option Order) (key : Nat × Nat) (s : Submission) : Prop :=
  ∃ order, findOrder key.1 key.2 = some order ∧ s.callback = .getOrderAck order.symbol ∧
    s.request = getRequest config t API.restPrivate.orderDetails
      (getOrderQuery order.symbol order.clientOrderId order.externalOrderId) .immediate

def foundKeys (findOrder : Nat → Nat → Option Order) (w : World E D R) : List (Nat × Nat) :=
  w.request.detailsStaleOrders.filter fun key => (findOrder key.1 key.2).isSome

structure Batched (config : Config) (t : TraceInfo) (findOrder : Nat → Nat → Option Order) (before after : World E D R) : Prop where
  asked : ∃ fresh, orderDetails after = fresh ++ orderDetails before ∧
    List.Forall₂ (IsDetail config t findOrder) (foundKeys findOrder before) fresh.reverse
  counter : after.rest.downloadStaleOrdersCounter =
    before.rest.downloadStaleOrdersCounter + (foundKeys findOrder before).length
  details : after.request.detailsStaleOrders = []

omit [Download2 E State] [Download2 D DropCopy.State] [LimitRequest R] [LawfulLimitRequest R] in
theorem getStaleOrder_found (config : Config) (t : TraceInfo) (w : World E D R) (known : findOrder key.1 key.2 = some order) :
    ∃ s, IsDetail config t findOrder key s ∧ orderDetails (getStaleOrder config t findOrder w key) = s :: orderDetails w ∧
      (getStaleOrder config t findOrder w key).rest.downloadStaleOrdersCounter = w.rest.downloadStaleOrdersCounter + 1 ∧
      (getStaleOrder config t findOrder w key).request = w.request := by
  simp only [getStaleOrder,known]
  exact ⟨_,⟨order,known,rfl,rfl⟩,rfl,rfl,rfl⟩

omit [Download2 E State] [Download2 D DropCopy.State] [LimitRequest R] [LawfulLimitRequest R] in
theorem getStaleOrder_batched (t : TraceInfo) (findOrder : Nat → Nat → Option Order) (keys : List (Nat × Nat)) (w : World E D R) :
    let found := keys.filter fun key => (findOrder key.1 key.2).isSome
    let after := keys.foldl (getStaleOrder config t findOrder) w
    (∃ fresh, orderDetails after = fresh ++ orderDetails w ∧ List.Forall₂ (IsDetail config t findOrder) found fresh.reverse) ∧
      after.rest.downloadStaleOrdersCounter = w.rest.downloadStaleOrdersCounter + found.length ∧ after.request = w.request := by
  induction keys generalizing w with
  | nil => exact ⟨⟨[],rfl,.nil⟩,rfl,rfl⟩
  | cons key rest ih =>
      cases known : findOrder key.1 key.2 with
      | none =>
          have stays : getStaleOrder config t findOrder w key = w := by simp only [getStaleOrder,known]
          simpa [stays,known] using ih w
      | some order =>
          obtain ⟨⟨fresh,asked,each⟩,counter,request⟩ := ih (getStaleOrder config t findOrder w key)
          obtain ⟨s,detail,first,one,same⟩ := getStaleOrder_found config t w known
          simp only [List.foldl_cons,List.filter_cons,known,Option.isSome_some,if_true,List.length_cons]
          refine ⟨⟨fresh ++ [s],?_,?_⟩,by omega,request.trans same⟩
          · rw [asked,first,List.append_assoc,List.singleton_append]
          · rw [List.reverse_append]
            exact .cons detail each

omit [Download2 E State] [Download2 D DropCopy.State] [LimitRequest R] [LawfulLimitRequest R] in
theorem getStaleOrders_batched (t : TraceInfo) (findOrder : Nat → Nat → Option Order) (w : World E D R) :
    Batched config t findOrder w (getStaleOrders config t findOrder w) := by
  obtain ⟨asked,counter,_⟩ := getStaleOrder_batched t findOrder w.request.detailsStaleOrders w
  exact ⟨asked,counter,rfl⟩

omit [Download2 E State] [Download2 D DropCopy.State] [LawfulLimitRequest R] in
theorem Batched.around {a b c d : World E D R} (first : Unasked a b) (batched : Batched config t findOrder b c)
    (second : Unbatched c d) : Batched config t findOrder a d := by
  have same : foundKeys findOrder b = foundKeys findOrder a := by rw [foundKeys,first.details,foundKeys]
  refine ⟨?_,?_,second.details.trans batched.details⟩
  · rw [second.asked,← first.asked,← same]
    exact batched.asked
  · rw [second.counter,← first.counter,← same]
    exact batched.counter

-- The timer is its pass over the stale orders with the other requests around it.
omit [Download2 E State] in
theorem checkRequestQueue_parts (scope : Scope) (t : TraceInfo) (canRequest : Kind → Bool) (findOrder : Nat → Nat → Option Order)
    (symbols : List String) (w : World E D R) (master : config.account.master = true) :
    ∃ during, Serves config scope w during ∧
      Serves config scope (checkPending t .staleOrders (canRequest .staleOrders) (getStaleOrders config t findOrder) during)
        (checkRequestQueue config t canRequest findOrder symbols w) := by
  have books : ∀ (w : World E D R) symbol, Serves config scope w (getOrderBook config t symbol w) :=
    fun w symbol => .submit w (.inl master) ⟨t,rfl⟩ (.inr rfl)
  refine ⟨checkPending t .openOrders (canRequest .openOrders) (getOrders config t)
    (checkPending t .positions (canRequest .positions) (getPosition config t)
      (checkPending t .balances (canRequest .balances) (getAccount config t) w)),?_,?_⟩
  · refine Serves.trans ?_ (checkPending_serves t _ _ (by decide) (fun w => .submit w (.inl master) ⟨t,rfl⟩ (.inr rfl)) (.inr rfl))
    refine Serves.trans ?_ (checkPending_serves t _ _ (by decide) (fun w => .submit w (.inl master) ⟨t,rfl⟩ (.inr rfl)) (.inr rfl))
    exact checkPending_serves t _ _ (by decide) (fun w => .submit w (.inl master) ⟨t,rfl⟩ (.inr rfl)) (.inr rfl)
  · apply Serves.trans ?_ (.foldl books symbols _)
    exact checkPending_serves t _ _ (by decide) (fun w => .submit w (.inl master) ⟨t,rfl⟩ (.inr rfl)) (.inr rfl)

-- Whether a timer gets to the queue of the account's own requests.
def serving (config : Config) (refresh : Bool) (w : World E D R) : Bool := refresh && isReady w && config.account.master

theorem onTimer_idle (scope : Scope) (canRequest : Kind → Bool) (findOrder : Nat → Nat → Option Order) (symbols : List String)
    (w : World E D R) (idle : serving config refresh w = false) :
    Serves config scope w (onTimer config t refresh canRequest findOrder symbols w) := by
  unfold onTimer
  split
  · rename_i ready
    have slave : config.account.master = false := by simpa [serving,ready] using idle
    simp only [slave,Bool.false_eq_true,if_false]
    exact checkPending_token_serves scope t _ _
  · exact .refl w

theorem onTimer_parts (scope : Scope) (t : TraceInfo) (canRequest : Kind → Bool) (findOrder : Nat → Nat → Option Order)
    (symbols : List String) (w : World E D R) (served : serving config refresh w = true) : ∃ during, Serves config scope w during ∧
      Serves config scope (checkPending t .staleOrders (canRequest .staleOrders) (getStaleOrders config t findOrder) during)
        (onTimer config t refresh canRequest findOrder symbols w) := by
  simp only [serving,Bool.and_eq_true] at served
  obtain ⟨during,first,second⟩ := checkRequestQueue_parts scope t canRequest findOrder symbols w served.2
  refine ⟨during,first,?_⟩
  simp only [onTimer,served,Bool.and_self,if_true]
  exact second.trans (checkPending_token_serves scope t _ _)

-- Whether it picks up the request for the stale orders.
def picks (config : Config) (refresh : Bool) (canRequest : Kind → Bool) (w : World E D R) : Bool :=
  serving config refresh w && w.request.pending .staleOrders && canRequest .staleOrders

theorem onTimer_picks (canRequest : Kind → Bool) (findOrder : Nat → Nat → Option Order) (symbols : List String) (w : World E D R)
    (picked : picks config refresh canRequest w = true) :
    Batched config t findOrder w (onTimer config t refresh canRequest findOrder symbols w) := by
  simp only [picks,Bool.and_eq_true,and_assoc] at picked
  obtain ⟨during,first,second⟩ := onTimer_parts .nothing t canRequest findOrder symbols w picked.1
  have before : Unbatched w during := first.unbatched.resolve_left id
  have due : (during.request.pending .staleOrders && canRequest .staleOrders) = true := by
    rw [before.pending,picked.2.1,picked.2.2]
    rfl
  rw [checkPending_eq,if_pos due] at second
  let taken : World E D R := {during with request := (during.request.checkPending t .staleOrders (canRequest .staleOrders)).2}
  have batched : Batched config t findOrder taken (getStaleOrders config t findOrder taken) :=
    getStaleOrders_batched t findOrder taken
  have start : Unasked w taken := ⟨before.counter,before.asked,before.details⟩
  exact .around start batched (second.unbatched.resolve_left id)

theorem onTimer_passes (canRequest : Kind → Bool) (findOrder : Nat → Nat → Option Order) (symbols : List String) (w : World E D R)
    (unpicked : picks config refresh canRequest w = false) :
    Unbatched w (onTimer config t refresh canRequest findOrder symbols w) := by
  cases served : serving config refresh w with
  | false => exact (onTimer_idle .nothing canRequest findOrder symbols w served).unbatched.resolve_left id
  | true =>
      obtain ⟨during,first,second⟩ := onTimer_parts .nothing t canRequest findOrder symbols w served
      have before : Unbatched w during := first.unbatched.resolve_left id
      have rests : (during.request.pending .staleOrders && canRequest .staleOrders) = false := by
        rw [before.pending]
        simpa [picks,served] using unpicked
      rw [checkPending_eq,if_neg (by simp [rests])] at second
      have middle : Unbatched during {during with
          request := (during.request.checkPending t .staleOrders (canRequest .staleOrders)).2} := by
        refine ⟨⟨rfl,rfl,rfl⟩,?_⟩
        rw [Request.checkPending_pending]
        cases pending : during.request.pending .staleOrders with
        | false => rfl
        | true =>
            rw [pending,Bool.true_and] at rests
            simp [rests]
      exact (before.trans middle).trans (second.unbatched.resolve_left id)

-- A serving timer asks for the book of each symbol it is handed.
omit [Download2 E State] [Download2 D DropCopy.State] [LimitRequest R] [LawfulLimitRequest R] in
theorem getOrderBooks_asked (t : TraceInfo) (symbols : List String) (w : World E D R) (wanted : symbol ∈ symbols) :
    ∃ s ∈ (symbols.foldl (fun w symbol => getOrderBook config t symbol w) w).inFlight, s.callback = .getOrderBookAck symbol := by
  have kept : ∀ (symbols : List String) (w : World E D R) s, s ∈ w.inFlight →
      s ∈ (symbols.foldl (fun w symbol => getOrderBook config t symbol w) w).inFlight := by
    intro symbols
    induction symbols with
    | nil => exact fun _ _ => id
    | cons first rest ih => exact fun w s present => ih _ s (List.mem_cons_of_mem _ present)
  induction symbols generalizing w with
  | nil => cases wanted
  | cons first rest ih =>
      rcases List.mem_cons.mp wanted with rfl | later
      · exact ⟨_,kept rest _ _ List.mem_cons_self,rfl⟩
      · exact ih _ later

theorem onTimer_asked (t : TraceInfo) (canRequest : Kind → Bool) (findOrder : Nat → Nat → Option Order) (symbols : List String)
    (w : World E D R) (served : serving config refresh w = true) (wanted : symbol ∈ symbols) :
    ∃ s ∈ (onTimer config t refresh canRequest findOrder symbols w).inFlight, s.callback = .getOrderBookAck symbol := by
  simp only [serving,Bool.and_eq_true] at served
  obtain ⟨during,_,second⟩ := checkRequestQueue_parts .nothing t canRequest findOrder symbols w served.2
  have asked : ∃ s ∈ (checkRequestQueue config t canRequest findOrder symbols w).inFlight, s.callback = .getOrderBookAck symbol :=
    getOrderBooks_asked t symbols _ wanted
  obtain ⟨s,present,callback⟩ := asked
  refine ⟨s,?_,callback⟩
  simp only [onTimer,served,Bool.and_self,if_true]
  exact (checkPending_token_serves .nothing t _ _).keeps s present

theorem onTimer_serves (may : scope.batches) (t : TraceInfo) (refresh : Bool) (canRequest : Kind → Bool)
    (findOrder : Nat → Nat → Option Order) (symbols : List String) (w : World E D R) :
    Serves config scope w (onTimer config t refresh canRequest findOrder symbols w) := by
  cases served : serving config refresh w with
  | false => exact onTimer_idle scope canRequest findOrder symbols w served
  | true =>
      have master : config.account.master = true := by
        simp only [serving,Bool.and_eq_true] at served
        exact served.2
      obtain ⟨during,first,second⟩ := onTimer_parts scope t canRequest findOrder symbols w served
      refine (first.trans ?_).trans second
      exact checkPending_serves t _ _ (by decide) (fun w => getStaleOrders_serves t findOrder w master may) (.inl may)

end handlers

theorem act_serves (w : World E D R) (action : OrderAction) : Serves config scope w (act config w action).2 := by
  cases action with
  | createOrder messageInfo order refData requestId =>
      simp only [act,createOrder]
      split
      · exact .refl w
      · exact .submit w (.inr rfl) ⟨_,_,rfl⟩ (.inr rfl)
  | modifyOrder => exact .refl w
  | cancelOrder messageInfo cancel order requestId =>
      simp only [act,cancelOrder]
      split
      · exact .refl w
      · exact .submit w (.inr rfl) ⟨_,_,rfl⟩ (.inr rfl)
  | cancelAllOrders messageInfo cancel requestId symbols =>
      simp only [act,cancelAllOrders]
      split
      · exact .refl w
      · apply Serves.foldl ?_ symbols w
        intro w symbol
        split
        · exact .refl w
        · apply Serves.trans (.submit w (.inr rfl) ?_ (.inr rfl)) (.emit _ rfl (.inr rfl))
          exact ⟨_,_,rfl⟩

theorem createOrderAck_serves {w after : World E D R}
    (ran : createOrderAck config userId orderId version response w = some after) : Serves config scope w after := by
  refine processResponse_serves (fun _ _ _ _ w => .emit w rfl (.inr rfl)) ?_ ran
  intro body w
  split
  · exact .refl w
  · split <;> exact .emit w rfl (.inr rfl)

theorem cancelOrderAck_serves {w after : World E D R}
    (ran : cancelOrderAck config userId orderId version response w = some after) : Serves config scope w after := by
  refine processResponse_serves (fun _ _ _ _ w => .emit w rfl (.inr rfl)) ?_ ran
  intro body w
  split
  · exact .refl w
  · split
    · split <;> exact .emit w rfl (.inr rfl)
    · exact .emit w rfl (.inr rfl)

theorem cancelAllOrdersAck_serves {w after : World E D R}
    (ran : cancelAllOrdersAck config requestId response w = some after) : Serves config scope w after := by
  refine processResponse_serves (fun _ _ _ _ w => .emit w rfl (.inr rfl)) ?_ ran
  intro body w
  split
  · exact .refl w
  · split <;> exact .emit w rfl (.inr rfl)

theorem getOrderBookAck_serves {w after : World E D R}
    (ran : getOrderBookAck config symbol response w = some after) : Serves config scope w after := by
  refine processResponse_serves (fun _ _ _ _ w => .refl w) ?_ ran
  intro body w
  split
  · exact .refl w
  · split
    · exact .emit w rfl (.inr rfl)
    · exact .refl w

-- It asks for nothing.
omit [Download2 D DropCopy.State] [LimitRequest R] in
theorem getOrderBookAck_flying {w after : World E D R}
    (ran : getOrderBookAck config symbol response w = some after) : after.inFlight = w.inFlight := by
  let same (a b : World E D R) : Prop := b.inFlight = a.inFlight
  have unchanged : same w after := by
    refine processResponse_rule (fun _ => rfl) ?_ (fun _ _ _ _ _ => rfl) ?_ ran
    · intro a b c one two
      exact Eq.trans two one
    · intro body w
      split
      · rfl
      · split <;> rfl
  exact unchanged

def isDownloadEvent : OrderEntryRestEvent → Bool
  | .connected _ | .disconnected _ => true
  | _ => false

def isTimer : OrderEntryRestEvent → Bool
  | .timer .. => true
  | _ => false

-- The scope of the callback of a response, and that of anything else.
def answerScope (callback : Callback) : Scope where
  flagged k := callback.kind = some k
  downloads := callback.kind = some .privateToken
  batches := callback.kind = some .staleOrders

def eventScope (event : OrderEntryRestEvent) : Scope where
  flagged _ := False
  downloads := isDownloadEvent event = true
  batches := isTimer event = true

variable [Download2 E State] [LawfulLimitRequest R] [LawfulDownload2 E]

theorem invoke_serves {w after : World E D R} (ran : invoke config t submission response w = some after) :
    Serves config (answerScope submission.callback) w after := by
  cases callback : submission.callback with
  | getPrivateTokenAck sequence =>
      simp only [invoke,callback] at ran
      exact getPrivateTokenAck_serves rfl rfl ran
  | getAccountAck =>
      simp only [invoke,callback] at ran
      exact getAck_serves rfl (fun ack w => (Serves.emit w rfl (.inr rfl)).trans (onAccountAck_notes ack w)) ran
  | getPositionAck =>
      simp only [invoke,callback] at ran
      exact getAck_serves rfl (fun _ w => .emit w rfl (.inr rfl)) ran
  | getOrdersAck =>
      simp only [invoke,callback] at ran
      exact getAck_serves rfl (fun ack w => (Serves.emit w rfl (.inr rfl)).trans (onOrdersAck_notes ack w)) ran
  | getOrderAck clientOrderId =>
      simp only [invoke,callback] at ran
      exact getOrderAck_serves rfl rfl ran
  | getExecutionAck =>
      simp only [invoke,callback] at ran
      exact getAck_serves rfl (fun _ w => .emit w rfl (.inr rfl)) ran
  | createOrderAck userId orderId =>
      simp only [invoke,callback] at ran
      exact createOrderAck_serves ran
  | cancelOrderAck userId orderId version =>
      simp only [invoke,callback] at ran
      exact cancelOrderAck_serves ran
  | cancelAllOrdersAck =>
      simp only [invoke,callback] at ran
      exact cancelAllOrdersAck_serves ran
  | getOrderBookAck symbol =>
      simp only [invoke,callback] at ran
      exact getOrderBookAck_serves ran

theorem step_serves {w after : World E D R} (ran : step config w event = some after)
    (other : ∀ t id response, event ≠ .response t id response) : Serves config (eventScope event) w after := by
  cases event with
  | timer t refresh canRequest findOrder symbols =>
      exact Option.some.inj ran ▸ onTimer_serves rfl t refresh canRequest findOrder symbols w
  | connected t => exact Option.some.inj ran ▸ onConnected_serves rfl t w
  | disconnected t => exact Option.some.inj ran ▸ onDisconnected_serves rfl w
  | response t id response => exact absurd rfl (other t id response)
  | action action => exact Option.some.inj ran ▸ act_serves w action

end KucoinPro.OrderEntryREST
