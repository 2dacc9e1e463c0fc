import KucoinPro.Core
import KucoinPro.Web

namespace KucoinPro
open StagedWalk

-- The members of gateway::Request, which DropCopy asks for and OrderEntryREST serves.
inductive Kind where
  | privateToken
  | balances
  | positions
  | openOrders
  | staleOrders
  | trades
  deriving DecidableEq, Repr

structure Request (R : Type) where
  limit : Kind → R
  detailsStaleOrders : List (Nat × Nat)

namespace Request
variable {R : Type} [LimitRequest R]

def create : Request R := ⟨fun _ => LimitRequest.create,[]⟩

def pending (request : Request R) (kind : Kind) : Bool := LimitRequest.pending (request.limit kind)

def response (request : Request R) (kind : Kind) : Bool := LimitRequest.response (request.limit kind)

def set (request : Request R) (kind : Kind) (r : R) : Request R :=
  {request with limit := fun k => if k = kind then r else request.limit k}

def mark (request : Request R) (t : TraceInfo) (kind : Kind) : Request R :=
  request.set kind (LimitRequest.request t (request.limit kind))

def commit (request : Request R) (t : TraceInfo) (kind : Kind) : Request R :=
  request.set kind (LimitRequest.commit t (request.limit kind))

def checkPending (request : Request R) (t : TraceInfo) (kind : Kind) (granted : Bool) : Bool × Request R :=
  let (run,r) := LimitRequest.checkPending t granted (request.limit kind)
  (run,request.set kind r)

def hasResponse (request : Request R) (kind : Kind) : Bool × Request R :=
  let (has,r) := LimitRequest.hasResponse (request.limit kind)
  (has,request.set kind r)

variable [LawfulLimitRequest R] {request : Request R} {t : TraceInfo} {kind k : Kind}

@[simp] theorem create_response : (create : Request R).response kind = false := by simp [create,response]

@[simp] theorem mark_pending : (request.mark t kind).pending k = (decide (k = kind) || request.pending k) := by
  by_cases same : k = kind <;> simp [mark,set,pending,same]

@[simp] theorem mark_response : (request.mark t kind).response k = (!decide (k = kind) && request.response k) := by
  by_cases same : k = kind <;> simp [mark,set,response,same]

@[simp] theorem commit_pending : (request.commit t kind).pending k = request.pending k := by
  by_cases same : k = kind <;> simp [commit,set,pending,same]

@[simp] theorem commit_response : (request.commit t kind).response k = (decide (k = kind) || request.response k) := by
  by_cases same : k = kind <;> simp [commit,set,response,same]

@[simp] theorem checkPending_fst : (request.checkPending t kind granted).1 = (request.pending kind && granted) := by
  simp [checkPending,pending]

@[simp] theorem checkPending_pending : (request.checkPending t kind granted).2.pending k =
    (request.pending k && !(decide (k = kind) && granted)) := by
  by_cases same : k = kind <;> simp [checkPending,set,pending,same]

@[simp] theorem checkPending_response : (request.checkPending t kind granted).2.response k = request.response k := by
  by_cases same : k = kind <;> simp [checkPending,set,response,same]

@[simp] theorem hasResponse_fst : (request.hasResponse kind).1 = request.response kind := by
  simp [hasResponse,response]

@[simp] theorem hasResponse_pending : (request.hasResponse kind).2.pending k = request.pending k := by
  by_cases same : k = kind <;> simp [hasResponse,set,pending,same]

theorem hasResponse_response (flagged : (request.hasResponse kind).2.response k = true) : request.response k = true := by
  by_cases same : k = kind
  · subst same
    simp only [hasResponse,set,response,if_true] at flagged
    exact LawfulLimitRequest.hasResponse_response _ flagged
  · simpa [hasResponse,set,response,same] using flagged

end Request

-- The lambda that goes with a submitted request: the handler of its response
-- and the values it captured.
inductive Callback where
  | getPrivateTokenAck (sequence : Nat)
  | getAccountAck
  | getPositionAck
  | getOrdersAck
  | getOrderAck (clientOrderId : String)
  | getExecutionAck
  | createOrderAck (userId orderId : Nat)
  | cancelOrderAck (userId orderId version : Nat)
  | cancelAllOrdersAck
  | getOrderBookAck (symbol : String)
  deriving DecidableEq, Repr

-- The kind whose response flag the handler commits.
def Callback.kind : Callback → Option Kind
  | .getPrivateTokenAck _ => some .privateToken
  | .getAccountAck => some .balances
  | .getPositionAck => some .positions
  | .getOrdersAck => some .openOrders
  | .getOrderAck _ => some .staleOrders
  | .getExecutionAck => some .trades
  | .createOrderAck _ _ | .cancelOrderAck _ _ _ | .cancelAllOrdersAck | .getOrderBookAck _ => none

-- The account's own requests are those of the record, less the token.
def Callback.isOwn (callback : Callback) : Bool :=
  match callback.kind with
  | none | some .privateToken => false
  | some _ => true

structure Submission where
  id : Nat
  request : Web.Request
  callback : Callback
  requestId : String
  deriving DecidableEq, Repr

inductive Effect where
  -- handed to a connection, or a callback run by it
  | submit (submission : Submission)
  | answer (submission : Submission)
  | sendText (message : String)
  | start
  | resume
  | suspendFor (period : Nanoseconds)
  | close
  -- dispatched to the server
  | streamStatus (streamStatus : StreamStatus)
  | fundsUpdate (fundsUpdate : FundsUpdate)
  | orderUpdate (orderUpdate : OrderUpdate) (streamId : Nat)
  | response (response : Response) (streamId userId orderId : Nat)
  | cancelAllOrdersAck (cancelAllOrdersAck : CancelAllOrdersAck)
  -- dispatched to the stream's own handlers and to the controller
  | token (token : Json.Token)
  | accountAck (accountAck : Json.AccountAck)
  | positionAck (positionAck : Json.PositionAck)
  | ordersAck (ordersAck : Json.OrdersAck)
  | executionAck (executionAck : Json.ExecutionAck)
  | addOrderAck (addOrderAck : Json.AddOrderAck) (userId orderId version : Nat)
  | cancelOrderAck (cancelOrderAck : Json.CancelOrderAck) (userId orderId version : Nat)
  | allOrdersCancelled (cancelAllOrdersAck : Json.CancelAllOrdersAck)
  | orderBookAck (orderBookAck : Json.OrderBookAck)
  | privateToken (privateToken : PrivateToken)

-- The flags and lists that come with an event are the answers the stream gets
-- from its connection, the rate limiter and the dispatcher while it runs.
inductive DropCopyEvent where
  | timer (traceInfo : TraceInfo) (now : Nanoseconds) (refresh : Bool) (staleOrders : List Order)
  | connected (traceInfo : TraceInfo)
  | disconnected (traceInfo : TraceInfo)
  | welcome (traceInfo : TraceInfo)
  | error (traceInfo : TraceInfo) (error : Json.ErrorMessage)
  | ack (traceInfo : TraceInfo) (ack : Json.Ack)
  -- Ready, Close, Latency, Pong, Balance, PositionAll and OrderAll
  | logged
  -- Text, Ticker, Trade, OBU and what the parser throws at
  | unexpected

inductive OrderEntryRestEvent where
  | timer (traceInfo : TraceInfo) (refresh : Bool) (canRequest : Kind → Bool) (findOrder : Nat → Nat → Option Order)
      (symbols : List String)
  | connected (traceInfo : TraceInfo)
  | disconnected (traceInfo : TraceInfo)
  | action (action : OrderAction)
  | response (traceInfo : TraceInfo) (id : Nat) (response : Web.Response)

inductive Event where
  | dropCopy (event : DropCopyEvent)
  | rest (event : OrderEntryRestEvent)

inductive Entry where
  | event (event : Event)
  | effect (effect : Effect)

inductive DropCopy.State where
  | undefined
  | subscribeBalances
  | getBalances
  | subscribePositions
  | getPositions
  | subscribeOrders
  | getOpenOrders
  | getStaleOrders
  | subscribeTrades
  | getTrades
  | done
  deriving DecidableEq, Repr

namespace DropCopy.State

def name : State → String
  | undefined => "UNDEFINED"
  | subscribeBalances => "SUBSCRIBE_BALANCES"
  | getBalances => "GET_BALANCES"
  | subscribePositions => "SUBSCRIBE_POSITIONS"
  | getPositions => "GET_POSITIONS"
  | subscribeOrders => "SUBSCRIBE_ORDERS"
  | getOpenOrders => "GET_OPEN_ORDERS"
  | getStaleOrders => "GET_STALE_ORDERS"
  | subscribeTrades => "SUBSCRIBE_TRADES"
  | getTrades => "GET_TRADES"
  | done => "DONE"

def all : List State :=
  [undefined,subscribeBalances,getBalances,subscribePositions,getPositions,subscribeOrders,getOpenOrders,getStaleOrders,
    subscribeTrades,getTrades,done]

-- magic_enum::enum_cast
def ofName (text : String) : Option State := all.find? (fun s => s.name == text)

theorem ofName_iff : ofName text = some s ↔ text = s.name := by
  constructor
  · intro known
    have found : s.name = text := by simpa using List.find?_some known
    exact found.symm
  · rintro rfl
    cases s <;> decide

def next : State → State
  | undefined => subscribeBalances
  | subscribeBalances => getBalances
  | getBalances => subscribePositions
  | subscribePositions => getPositions
  | getPositions => subscribeOrders
  | subscribeOrders => getOpenOrders
  | getOpenOrders => getStaleOrders
  | getStaleOrders => subscribeTrades
  | subscribeTrades => getTrades
  | getTrades | done => done

def remaining : State → Nat
  | undefined => 10
  | subscribeBalances => 9
  | getBalances => 8
  | subscribePositions => 7
  | getPositions => 6
  | subscribeOrders => 5
  | getOpenOrders => 4
  | getStaleOrders => 3
  | subscribeTrades => 2
  | getTrades => 1
  | done => 0

instance : Stages State where
  undefined := undefined
  first := subscribeBalances
  done := done
  next := next
  remaining := remaining
  remaining_next s working := by cases s <;> first | exact absurd rfl working | decide

theorem remaining_injective {s other : State} (same : s.remaining = other.remaining) : s = other := by
  cases s <;> cases other <;> first | rfl | simp [remaining] at same

theorem passed_next {s other : State} (passed : s.next.remaining < other.remaining) :
    s.remaining < other.remaining ∨ s = other := by
  have step : s.remaining ≤ s.next.remaining + 1 := by cases s <;> decide
  rcases Nat.lt_or_ge s.remaining other.remaining with before | after
  · exact .inl before
  · exact .inr (remaining_injective (by omega))

-- The request that a GET_ state waits for.
def kind : State → Option Kind
  | getBalances => some .balances
  | getPositions => some .positions
  | getOpenOrders => some .openOrders
  | getStaleOrders => some .staleOrders
  | getTrades => some .trades
  | _ => none

def isSubscribe : State → Bool
  | subscribeBalances | subscribePositions | subscribeOrders | subscribeTrades => true
  | _ => false

theorem waits_remaining {s : State} (waits : s.kind = some k) : s.remaining < subscribeBalances.remaining := by
  cases s <;> first | decide | cases waits

theorem next_working (s : State) : s.next ≠ undefined := by cases s <;> nofun

theorem waits_working {s : State} (waits : s.kind = some k) : s ≠ undefined ∧ s ≠ done := by
  cases s <;> first | cases waits; done | exact ⟨nofun,nofun⟩

theorem subscribe_working {s : State} (subscribing : s.isSubscribe = true) : s ≠ undefined ∧ s ≠ done := by
  cases s <;> first | cases subscribing; done | exact ⟨nofun,nofun⟩

theorem subscribe_kind {s : State} (subscribing : s.isSubscribe = true) : s.kind = none := by
  cases s <;> first | rfl | cases subscribing

end DropCopy.State

inductive OrderEntryREST.State where
  | undefined
  | privateToken
  | done
  deriving DecidableEq, Repr

namespace OrderEntryREST.State

def name : State → String
  | undefined => "UNDEFINED"
  | privateToken => "PRIVATE_TOKEN"
  | done => "DONE"

def next : State → State
  | undefined => privateToken
  | privateToken | done => done

def remaining : State → Nat
  | undefined => 2
  | privateToken => 1
  | done => 0

instance : Stages State where
  undefined := undefined
  first := privateToken
  done := done
  next := next
  remaining := remaining
  remaining_next s working := by cases s <;> first | exact absurd rfl working | decide

end OrderEntryREST.State

structure OrderEntryREST (E : Type) where
  connectionStatus : ConnectionStatus
  download : E
  hasDownloadedPrivateToken : Bool
  downloadStaleOrdersCounter : Nat

structure DropCopy (D : Type) where
  query : String
  welcome : Bool
  ready : Bool
  connectionStatus : ConnectionStatus
  download : D
  logonTimeout : Nanoseconds
  nextPing : Nanoseconds
  nextSimulatedDisconnect : Nanoseconds
  nextCheckStaleOrders : Nanoseconds

-- One account: its two streams, the record they share, what is in flight and
-- what has happened so far, newest first.
structure World (E D R : Type) where
  dropCopy : Option (DropCopy D)
  rest : OrderEntryREST E
  request : Request R
  inFlight : List Submission
  submitted : Nat
  log : List Entry

namespace World
variable {E D R : Type}

def emit (effect : Effect) (w : World E D R) : World E D R := {w with log := .effect effect :: w.log}

-- (*connection_)(request, callback, request_id)
def submit (request : Web.Request) (callback : Callback) (requestId : String) (w : World E D R) : World E D R :=
  {w with
    inFlight := ⟨w.submitted,request,callback,requestId⟩ :: w.inFlight
    submitted := w.submitted + 1
    log := .effect (.submit ⟨w.submitted,request,callback,requestId⟩) :: w.log}

end World

-- What the handlers of the drop copy read and write.
structure Session (D R : Type) where
  stream : DropCopy D
  request : Request R
  log : List Entry

namespace Session
variable {D R : Type}

def emit (effect : Effect) (c : Session D R) : Session D R := {c with log := .effect effect :: c.log}

end Session
end KucoinPro
