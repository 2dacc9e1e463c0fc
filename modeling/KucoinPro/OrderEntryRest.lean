import KucoinPro.DropCopy

namespace KucoinPro

-- Controller::operator()(Trace<PrivateToken>)
def Controller.onPrivateToken [Download2 D DropCopy.State] (privateToken : PrivateToken) (w : World E D R) : World E D R :=
  match w.dropCopy with
  | none => {w with dropCopy := some (DropCopy.create privateToken.query)}.emit .start
  | some dropCopy =>
      if privateToken.query ≠ "" ∧ dropCopy.query ≠ privateToken.query then
        {w with dropCopy := some {dropCopy with query := privateToken.query}}.emit .resume
      else w

namespace OrderEntryREST
open StagedWalk Json

variable {E D R : Type} [Download2 E State] [Download2 D DropCopy.State] [LimitRequest R] (config : Config)

def SUPPORTS : List SupportType := [.funds,.position,.createOrder,.cancelOrder,.orderAck,.trade]

def onConnectionStatus (status : ConnectionStatus) (reason : String) (w : World E D R) : World E D R :=
  {w with rest.connectionStatus := status}.emit (.streamStatus {
    streamId := config.orderEntryStreamId
    account := config.account.name
    supports := SUPPORTS
    protocol := .http
    connectionStatus := status
    reason := reason })

def isReady (w : World E D R) : Bool := w.rest.connectionStatus == .ready

def isDownloading (w : World E D R) : Bool := Download2.downloading w.rest.download

def commit (t : TraceInfo) (kind : Kind) (w : World E D R) : World E D R := {w with request := w.request.commit t kind}

-- The catch clauses of process_response.
def catchException {σ : Type} (errorHandler : Origin → RequestStatus → Error → String → σ → σ) : Exception → σ → σ
  | .oms origin status error what _ => errorHandler origin status error what
  | .network status error what _ => errorHandler .gateway status error what
  | .std what => errorHandler .exchange .error .unknown what

-- A success handler may throw after a part of its work: what it did stays.
def finish {σ : Type} (errorHandler : Origin → RequestStatus → Error → String → σ → σ) : Except Exception Unit × σ → σ
  | (.ok _,after) => after
  | (.error e,after) => catchException errorHandler e after

def processResponse {σ : Type} (response : Web.Response)
    (errorHandler : Origin → RequestStatus → Error → String → σ → σ)
    (successHandler : String → σ → Except Exception Unit × σ) (w : σ) : Option σ :=
  match response.result with
  | .error e => some (catchException errorHandler e w)
  | .ok r =>
    match r.category with
    | .unknown | .informationalResponse => some (finish errorHandler (response.expect r,w))
    | .success | .clientError => some (finish errorHandler (successHandler r.body w))
    | .redirection => none
    | .serverError => some (errorHandler .exchange .rejected .unknown (config.platform.formatStatus r.status) w)

-- The error handlers that only log.
def logError (_ : Origin) (_ : RequestStatus) (_ : Error) (_ : String) (w : World E D R) : World E D R := w

def getRequest (t : TraceInfo) (path query : String) (qualityOfService : Web.QualityOfService) : Web.Request where
  method := .get
  path := path
  query := query
  accept := .applicationJson
  contentType := .undefined
  headers := config.account.createHeaders t .get path query ""
  body := ""
  qualityOfService := qualityOfService

def postRequest (t : TraceInfo) (path : String) (contentType : Web.ContentType) (body : String) : Web.Request where
  method := .post
  path := path
  query := ""
  accept := .applicationJson
  contentType := contentType
  headers := config.account.createHeaders t .post path "" body
  body := body
  qualityOfService := .immediate

-- private-token

def getPrivateToken (t : TraceInfo) (sequence : Nat) (w : World E D R) : World E D R :=
  w.submit (postRequest config t API.restPrivate.bulletPrivate .undefined "") (.getPrivateTokenAck sequence) "private-token"

def onDownload (t : TraceInfo) (walker : E) (state : State) (w : World E D R) : Int × World E D R :=
  match state with
  | .undefined => (0,w)
  | .privateToken =>
      if w.rest.hasDownloadedPrivateToken then (0,w)
      else (1,getPrivateToken config t (Walker.sequence walker) (onConnectionStatus config .downloading state.name w))
  | .done => (0,onConnectionStatus config .ready "" w)

-- What a call of download_ leaves behind.
def withDownload (result : E × World E D R) : World E D R := {result.2 with rest.download := result.1}

def onToken (token : Token) (w : World E D R) : World E D R :=
  let privateToken := {account := config.account.name, query := "?token=" ++ token.data.token : PrivateToken}
  Controller.onPrivateToken privateToken ((w.emit (.token token)).emit (.privateToken privateToken))

def retryPrivateToken (t : TraceInfo) (w : World E D R) : World E D R :=
  if isDownloading w then withDownload (Download2.retry (onDownload config t) .privateToken w.rest.download w) else w

def checkPrivateToken (t : TraceInfo) (w : World E D R) : World E D R :=
  if isDownloading w then withDownload (Download2.check (onDownload config t) .privateToken w.rest.download w) else w

def getPrivateTokenAck (t : TraceInfo) (sequence : Nat) (response : Web.Response) (w : World E D R) : Option (World E D R) :=
  (processResponse config response (fun _ _ _ _ w => retryPrivateToken config t w) (fun body w =>
    if isDownloading w && Download2.skip sequence .privateToken w.rest.download then (.ok (),w)
    else match config.platform.token body with
      | .error e => (.error e,w)
      | .ok token =>
          let dispatched := if token.code = SYSTEM_CODE_SUCCESS then onToken config token w else w
          let checked := checkPrivateToken config t dispatched
          (.ok (),{checked with rest.hasDownloadedPrivateToken := true})) w).map (commit t .privateToken)

-- The acknowledgements of the account's own requests: `handler` gets what came
-- with code 200000, an error is logged, and every path commits.
def getAck (decode : String → Except Exception (Envelope α))
    (handler : Envelope α → World E D R → Except Exception Unit × World E D R) (kind : Kind) (t : TraceInfo)
    (response : Web.Response) (w : World E D R) : Option (World E D R) :=
  (processResponse config response logError (fun body w =>
    match decode body with
    | .error e => (.error e,w)
    | .ok ack =>
        if ack.code = SYSTEM_CODE_SUCCESS then handler ack w
        else (.ok (),logError .exchange .rejected (guessError ack.code) ack.msg w)) w).map (commit t kind)

-- account

def getAccount (t : TraceInfo) (w : World E D R) : World E D R :=
  w.submit (getRequest config t API.restPrivate.accountBalance "?accountType=FUNDING" .immediate) .getAccountAck "account"

def fundsUpdate (item : AccountAckDataAccountsItemCurrenciesItem) : FundsUpdate where
  streamId := config.orderEntryStreamId
  account := config.account.name
  currency := item.currency
  balance := item.balance
  hold := item.hold
  borrowed := nan
  unrealizedPnl := nan
  updateType := .snapshot

def onAccountAck (ack : AccountAck) (w : World E D R) : Except Exception Unit × World E D R :=
  (.ok (),(ack.data.accounts.flatMap (·.currencies)).foldl (fun w item => w.emit (.fundsUpdate (fundsUpdate config item)))
    (w.emit (.accountAck ack)))

def getAccountAck : TraceInfo → Web.Response → World E D R → Option (World E D R) :=
  getAck config config.platform.accountAck (onAccountAck config) .balances

-- position

def getPosition (t : TraceInfo) (w : World E D R) : World E D R :=
  w.submit (getRequest config t API.restPrivate.positionOpenList "?accountMode=UNIFIED" .immediate) .getPositionAck "position"

def onPositionAck (ack : PositionAck) (w : World E D R) : Except Exception Unit × World E D R :=
  (.ok (),w.emit (.positionAck ack))

def getPositionAck : TraceInfo → Web.Response → World E D R → Option (World E D R) :=
  getAck config config.platform.positionAck onPositionAck .positions

-- orders

def getOrders (t : TraceInfo) (w : World E D R) : World E D R :=
  w.submit (getRequest config t API.restPrivate.orderOpenList "?accountMode=UNIFIED&tradeType=FUTURES" .immediate)
    .getOrdersAck "orders"

def orderStatus (item : OrdersAckDataItemsItem) : Except Exception OrderStatus :=
  match config.platform.getOrderStatus (mapOrderStatus item.status) with
  | .error e => .error e
  | .ok status =>
      if status = .completed ∧ !config.platform.isEqual item.size item.filledSize then .ok .canceled else .ok status

def orderUpdate (item : OrdersAckDataItemsItem) (status : OrderStatus) : OrderUpdate where
  account := config.account.name
  exchange := config.settings.exchange
  symbol := item.symbol
  side := item.side.map
  maxShowQuantity := nan
  orderType := item.orderType.map
  timeInForce := item.timeInForce.map
  createTimeUtc := item.orderTime
  updateTimeUtc := item.updatedTime.toNanoseconds.toInt
  externalOrderId := item.orderId
  clientOrderId := item.clientOid
  orderStatus := status
  quantity := item.size
  price := item.price
  stopPrice := nan
  leverage := nan
  remainingQuantity := if status = .canceled then 0 else item.size - item.filledSize
  tradedQuantity := item.filledSize
  averageTradedPrice := item.avgPrice
  lastTradedQuantity := nan
  lastTradedPrice := nan
  updateType := .snapshot

def onOrderItems : List OrdersAckDataItemsItem → World E D R → Except Exception Unit × World E D R
  | [],w => (.ok (),w)
  | item :: rest,w =>
      match orderStatus config item with
      | .error e => (.error e,w)
      | .ok status => onOrderItems rest (w.emit (.orderUpdate (orderUpdate config item status) config.orderEntryStreamId))

def onOrdersAck (ack : OrdersAck) (w : World E D R) : Except Exception Unit × World E D R :=
  onOrderItems config ack.data.items (w.emit (.ordersAck ack))

def getOrdersAck : TraceInfo → Web.Response → World E D R → Option (World E D R) :=
  getAck config config.platform.ordersAck (onOrdersAck config) .openOrders

-- order

def getOrderQuery (clientOrderId externalOrderId symbol : String) : String :=
  "?accountMode=UNIFIED&tradeType=FUTURES&symbol=" ++ symbol ++
    (if externalOrderId = "" then "&clientOid=" ++ clientOrderId else "&orderId=" ++ externalOrderId)

def getOrder (t : TraceInfo) (clientOrderId externalOrderId symbol : String) (w : World E D R) : World E D R :=
  w.submit (getRequest config t API.restPrivate.orderDetails (getOrderQuery clientOrderId externalOrderId symbol) .immediate)
    (.getOrderAck clientOrderId) "order"

def getOrderAck (t : TraceInfo) (_clientOrderId : String) (response : Web.Response) (w : World E D R) : Option (World E D R) :=
  (processResponse config response logError (fun _ w => (.ok (),w)) w).bind fun after =>
    if after.rest.downloadStaleOrdersCounter = 0 then none
    else
      let counted := {after with rest.downloadStaleOrdersCounter := after.rest.downloadStaleOrdersCounter - 1}
      some (if counted.rest.downloadStaleOrdersCounter = 0 then commit t .staleOrders counted else counted)

-- execution

def getExecution (t : TraceInfo) (w : World E D R) : World E D R :=
  w.submit (getRequest config t API.restPrivate.orderExecution "?accountMode=UNIFIED&tradeType=FUTURES" .immediate)
    .getExecutionAck "execution"

def onExecutionAck (ack : ExecutionAck) (w : World E D R) : Except Exception Unit × World E D R :=
  (.ok (),w.emit (.executionAck ack))

def getExecutionAck : TraceInfo → Web.Response → World E D R → Option (World E D R) :=
  getAck config config.platform.executionAck onExecutionAck .trades

-- create-order

def createOrder (messageInfo : MessageInfo) (createOrder : CreateOrder) (refData : RefData) (requestId : String)
    (w : World E D R) : Except ActionError Unit × World E D R :=
  if !isReady w then (.error (.notReady "not ready"),w)
  else
    let body := Encoder.addOrder config.platform createOrder refData requestId
    (.ok (),w.submit (postRequest config messageInfo.traceInfo API.restPrivate.orderPlace .applicationJson body)
      (.createOrderAck messageInfo.source createOrder.orderId) requestId)

def errorResponse (requestType : RequestType) (version : Nat) (origin : Origin) (status : RequestStatus) (error : Error)
    (text : String) : Response where
  requestType := requestType
  origin := origin
  requestStatus := status
  error := error
  text := text
  version := version
  requestId := ""
  externalOrderId := ""
  clientOrderId := ""
  quantity := nan
  price := nan

def rejectOrder (requestType : RequestType) (userId orderId version : Nat) (origin : Origin) (status : RequestStatus)
    (error : Error) (text : String) (w : World E D R) : World E D R :=
  w.emit (.response (errorResponse requestType version origin status error text) config.orderEntryStreamId userId orderId)

def createOrderAck (userId orderId version : Nat) (response : Web.Response) (w : World E D R) : Option (World E D R) :=
  processResponse config response (rejectOrder config .createOrder userId orderId version) (fun body w =>
    match config.platform.addOrderAck body with
    | .error e => (.error e,w)
    | .ok ack =>
        if ack.code = SYSTEM_CODE_SUCCESS then (.ok (),w.emit (.addOrderAck ack userId orderId version))
        else (.ok (),rejectOrder config .createOrder userId orderId version .exchange .rejected (guessError ack.code) ack.msg w)) w

-- cancel-order

def cancelOrder (messageInfo : MessageInfo) (cancelOrder : CancelOrder) (order : Order) (requestId : String)
    (w : World E D R) : Except ActionError Unit × World E D R :=
  if !isReady w then (.error (.notReady "not ready"),w)
  else
    (.ok (),w.submit (postRequest config messageInfo.traceInfo API.restPrivate.orderCancel .undefined (Encoder.cancelOrder order))
      (.cancelOrderAck messageInfo.source cancelOrder.orderId cancelOrder.version) requestId)

def cancelOrderAck (userId orderId version : Nat) (response : Web.Response) (w : World E D R) : Option (World E D R) :=
  processResponse config response (rejectOrder config .cancelOrder userId orderId version) (fun body w =>
    match config.platform.cancelOrderAck body with
    | .error e => (.error e,w)
    | .ok ack =>
        if ack.code = SYSTEM_CODE_SUCCESS then
          if ack.data.cancelledOrderIds = [] then
            let msg := if ack.msg = "" then config.platform.enumNameError .unknownOrderId else ack.msg
            (.ok (),rejectOrder config .cancelOrder userId orderId version .exchange .rejected .unknownOrderId msg w)
          else (.ok (),w.emit (.cancelOrderAck ack userId orderId version))
        else (.ok (),rejectOrder config .cancelOrder userId orderId version .exchange .rejected (guessError ack.code) ack.msg w)) w

-- cancel-all-orders

def forwardedAck (cancelAllOrders : CancelAllOrders) (requestId symbol : String) : KucoinPro.CancelAllOrdersAck where
  streamId := config.orderEntryStreamId
  account := config.account.name
  orderId := cancelAllOrders.orderId
  exchange := cancelAllOrders.exchange
  symbol := symbol
  side := cancelAllOrders.side
  origin := .gateway
  requestStatus := .forwarded
  error := .undefined
  text := ""
  requestId := requestId
  strategyId := cancelAllOrders.strategyId

def cancelAllOrders (messageInfo : MessageInfo) (cancelAllOrders : CancelAllOrders) (requestId : String)
    (symbols : List String) (w : World E D R) : Except ActionError Unit × World E D R :=
  if !isReady w then (.error (.notReady "not ready"),w)
  else (.ok (),symbols.foldl (fun w symbol =>
    if cancelAllOrders.symbol ≠ "" ∧ symbol ≠ cancelAllOrders.symbol then w
    else
      let request := postRequest config messageInfo.traceInfo API.restPrivate.orderCancelAll .undefined
        (Encoder.cancelAllOrders symbol)
      (w.submit request .cancelAllOrdersAck requestId).emit
        (.cancelAllOrdersAck (forwardedAck config cancelAllOrders requestId symbol))) w)

def rejectedAck (requestId : String) (origin : Origin) (status : RequestStatus) (error : Error) (text : String) :
    KucoinPro.CancelAllOrdersAck where
  streamId := config.orderEntryStreamId
  account := config.account.name
  orderId := 0
  exchange := ""
  symbol := ""
  side := .undefined
  origin := origin
  requestStatus := status
  error := error
  text := text
  requestId := requestId
  strategyId := 0

def rejectAllOrders (requestId : String) (origin : Origin) (status : RequestStatus) (error : Error) (text : String)
    (w : World E D R) : World E D R :=
  w.emit (.cancelAllOrdersAck (rejectedAck config requestId origin status error text))

def cancelAllOrdersAck (requestId : String) (response : Web.Response) (w : World E D R) : Option (World E D R) :=
  processResponse config response (rejectAllOrders config requestId) (fun body w =>
    match config.platform.cancelAllOrdersAck body with
    | .error e => (.error e,w)
    | .ok ack =>
        if ack.code = SYSTEM_CODE_SUCCESS then (.ok (),w.emit (.allOrdersCancelled ack))
        else (.ok (),rejectAllOrders config requestId .exchange .rejected (guessError ack.code) ack.msg w)) w

-- order-book

def getOrderBook (t : TraceInfo) (symbol : String) (w : World E D R) : World E D R :=
  w.submit (getRequest config t API.restPublic.marketOrderbook ("?tradeType=FUTURES&symbol=" ++ symbol ++ "&limit=FULL") .undefined)
    (.getOrderBookAck symbol) "order_book"

def getOrderBookAck (_symbol : String) (response : Web.Response) (w : World E D R) : Option (World E D R) :=
  processResponse config response logError (fun body w =>
    match config.platform.orderBookAck body with
    | .error e => (.error e,w)
    | .ok ack => (.ok (),if ack.code = SYSTEM_CODE_SUCCESS then w.emit (.orderBookAck ack) else w)) w

-- helpers

def checkPending (t : TraceInfo) (kind : Kind) (granted : Bool) (callback : World E D R → World E D R) (w : World E D R) :
    World E D R :=
  let (run,request) := w.request.checkPending t kind granted
  if run then callback {w with request := request} else {w with request := request}

def getStaleOrder (t : TraceInfo) (findOrder : Nat → Nat → Option Order) (w : World E D R) (key : Nat × Nat) : World E D R :=
  match findOrder key.1 key.2 with
  | none => w
  | some order =>
      let asked := getOrder config t order.symbol order.clientOrderId order.externalOrderId w
      {asked with rest.downloadStaleOrdersCounter := asked.rest.downloadStaleOrdersCounter + 1}

def getStaleOrders (t : TraceInfo) (findOrder : Nat → Nat → Option Order) (w : World E D R) : World E D R :=
  let asked := w.request.detailsStaleOrders.foldl (getStaleOrder config t findOrder) w
  {asked with request.detailsStaleOrders := []}

-- `symbols` are those depth_request_queue hands out.
def checkRequestQueue (t : TraceInfo) (canRequest : Kind → Bool) (findOrder : Nat → Nat → Option Order) (symbols : List String)
    (w : World E D R) : World E D R :=
  let w := checkPending t .balances (canRequest .balances) (getAccount config t) w
  let w := checkPending t .positions (canRequest .positions) (getPosition config t) w
  let w := checkPending t .openOrders (canRequest .openOrders) (getOrders config t) w
  let w := checkPending t .staleOrders (canRequest .staleOrders) (getStaleOrders config t findOrder) w
  let w := checkPending t .trades (canRequest .trades) (getExecution config t) w
  symbols.foldl (fun w symbol => getOrderBook config t symbol w) w

def onTimer (t : TraceInfo) (refresh : Bool) (canRequest : Kind → Bool) (findOrder : Nat → Nat → Option Order)
    (symbols : List String) (w : World E D R) : World E D R :=
  if refresh && isReady w then
    let w := if config.account.master then checkRequestQueue config t canRequest findOrder symbols w else w
    checkPending t .privateToken (canRequest .privateToken)
      (fun w => getPrivateToken config t (Walker.sequence w.rest.download) w) w
  else w

def onConnected (t : TraceInfo) (w : World E D R) : World E D R :=
  if isDownloading w then withDownload (Download2.bump (onDownload config t) w.rest.download w)
  else withDownload (Download2.begin (onDownload config t) w.rest.download w)

def onDisconnected (w : World E D R) : World E D R :=
  let published := onConnectionStatus config .disconnected "" w
  if isDownloading published then published else {published with rest.download := Download2.reset published.rest.download}

def invoke (t : TraceInfo) (submission : Submission) (response : Web.Response) : World E D R → Option (World E D R) :=
  match submission.callback with
  | .getPrivateTokenAck sequence => getPrivateTokenAck config t sequence response
  | .getAccountAck => getAccountAck config t response
  | .getPositionAck => getPositionAck config t response
  | .getOrdersAck => getOrdersAck config t response
  | .getOrderAck clientOrderId => getOrderAck config t clientOrderId response
  | .getExecutionAck => getExecutionAck config t response
  | .createOrderAck userId orderId => createOrderAck config userId orderId 1 response
  | .cancelOrderAck userId orderId version => cancelOrderAck config userId orderId version response
  | .cancelAllOrdersAck => cancelAllOrdersAck config submission.requestId response
  | .getOrderBookAck symbol => getOrderBookAck config symbol response

-- The connection runs the callback of a request that is in flight, once.
def onResponse (t : TraceInfo) (id : Nat) (response : Web.Response) (w : World E D R) : Option (World E D R) :=
  match w.inFlight.find? (fun s => s.id == id) with
  | none => some w
  | some submission =>
      invoke config t submission response
        ({w with inFlight := w.inFlight.eraseP (fun s => s.id == id)}.emit (.answer submission))

-- server::OrderActionStream
def act (w : World E D R) : OrderAction → Except ActionError Unit × World E D R
  | .createOrder messageInfo order refData requestId => createOrder config messageInfo order refData requestId w
  | .modifyOrder _ _ _ => (.error (.notSupported "not supported"),w)
  | .cancelOrder messageInfo cancel order requestId => cancelOrder config messageInfo cancel order requestId w
  | .cancelAllOrders messageInfo cancel requestId symbols => cancelAllOrders config messageInfo cancel requestId symbols w

def step (w : World E D R) : OrderEntryRestEvent → Option (World E D R)
  | .timer t refresh canRequest findOrder symbols => some (onTimer config t refresh canRequest findOrder symbols w)
  | .connected t => some (onConnected config t w)
  | .disconnected _ => some (onDisconnected config w)
  | .action action => some (act config w action).2
  | .response t id response => onResponse config t id response w

end OrderEntryREST
end KucoinPro
