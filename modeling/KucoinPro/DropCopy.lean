import KucoinPro.World

namespace KucoinPro.DropCopy
open StagedWalk

-- Asserts are those of a release build: they do nothing.
variable {D R : Type} [Download2 D State] [LimitRequest R] (config : Config)

def SUPPORTS : List SupportType := [.funds,.position,.orderAck,.order,.trade]

def PING_FREQUENCY : Nanoseconds := 300
def SUSPEND_FOR : Nanoseconds := 60 * 1000000000

def create (query : String) : DropCopy D where
  query := query
  welcome := false
  ready := false
  connectionStatus := .undefined
  download := Download2.create
  logonTimeout := 0
  nextPing := 0
  nextSimulatedDisconnect := 0
  nextCheckStaleOrders := 0

def streamStatus (status : ConnectionStatus) (reason : String) : StreamStatus where
  streamId := config.dropCopyStreamId
  account := config.account.name
  supports := SUPPORTS
  protocol := .ws
  connectionStatus := status
  reason := reason

def onConnectionStatus (status : ConnectionStatus) (reason : String) (c : Session D R) : Session D R :=
  {c with stream.connectionStatus := status}.emit (.streamStatus (streamStatus config status reason))

def isReady (c : Session D R) : Bool := c.stream.connectionStatus == .ready

def subscribeAccount (state : State) (channel : String) (c : Session D R) : Session D R :=
  c.emit (.sendText ("\x7b\"id\":\"" ++ state.name ++ "\",\"action\":\"SUBSCRIBE\",\"channel\":\"" ++ channel ++
    "\",\"accountType\":\"UNIFIED\"\x7d"))

def subscribeTrade (state : State) (channel : String) (c : Session D R) : Session D R :=
  c.emit (.sendText ("\x7b\"id\":\"" ++ state.name ++ "\",\"action\":\"SUBSCRIBE\",\"channel\":\"" ++ channel ++
    "\",\"tradeType\":\"UNIFIED\"\x7d"))

def sendPing (now : Nanoseconds) (c : Session D R) : Session D R :=
  c.emit (.sendText ("\x7b\"id\":" ++ toString now ++ ",\"type\":\"ping\"\x7d"))

def markRequest (t : TraceInfo) (kind : Kind) (c : Session D R) : Session D R := {c with request := c.request.mark t kind}

def hasResponse (kind : Kind) (c : Session D R) : Bool × Session D R :=
  let (has,request) := c.request.hasResponse kind
  (has,{c with request := request})

def onDownload (t : TraceInfo) (_ : D) (state : State) (c : Session D R) : Int × Session D R :=
  let publishDownloading := onConnectionStatus config .downloading state.name c
  match state with
  | .undefined => (0,c)
  | .subscribeBalances => (1,subscribeAccount state "balance" publishDownloading)
  | .getBalances => (1,markRequest t .balances publishDownloading)
  | .subscribePositions => (1,subscribeTrade state "positionAll" publishDownloading)
  | .getPositions => (1,markRequest t .positions publishDownloading)
  | .subscribeOrders => (1,subscribeTrade state "orderAll" publishDownloading)
  | .getOpenOrders => (1,markRequest t .openOrders publishDownloading)
  | .getStaleOrders =>
      if c.request.detailsStaleOrders = [] then (0,c) else (1,markRequest t .staleOrders publishDownloading)
  | .subscribeTrades => (1,subscribeTrade state "execution" publishDownloading)
  | .getTrades =>
      if config.settings.downloadTradesLookback = 0 then (0,c) else (1,markRequest t .trades publishDownloading)
  | .done =>
      let published := onConnectionStatus config .ready "" c
      (0,{published with stream.ready := true})

-- What a call of download_ leaves behind.
def withDownload (result : D × Session D R) : Session D R := {result.2 with stream.download := result.1}

def begin (t : TraceInfo) (c : Session D R) : Session D R :=
  withDownload (Download2.begin (onDownload config t) c.stream.download c)

def check (t : TraceInfo) (state : State) (c : Session D R) : Session D R :=
  withDownload (Download2.check (onDownload config t) state c.stream.download c)

def requestPrivateToken (t : TraceInfo) (c : Session D R) : Session D R :=
  if c.stream.query = "" then c
  else markRequest t .privateToken ({c with stream.query := ""}.emit (.suspendFor SUSPEND_FOR))

-- check_stale_orders(): what get_all_stale_orders reports is inserted into the
-- set, and the result is whether anything was new.
def checkStaleOrders (staleOrders : List Order) (c : Session D R) : Bool × Session D R :=
  staleOrders.foldl (fun (found,c) order =>
    let key := (order.userId,order.orderId)
    if key ∈ c.request.detailsStaleOrders then (found,c)
    else (true,{c with request.detailsStaleOrders := key :: c.request.detailsStaleOrders})) (false,c)

-- check_stale_orders(trace_info)
def pollStaleOrders (t : TraceInfo) (staleOrders : List Order) (c : Session D R) : Session D R :=
  if c.stream.nextCheckStaleOrders < t.originCreateTime then
    let (found,after) := checkStaleOrders staleOrders
      {c with stream.nextCheckStaleOrders := t.originCreateTime + config.settings.experimentalCheckStaleOrderFreq}
    if found then markRequest t .staleOrders after else after
  else c

-- One GET_ state of check_request_queue: `before` runs between the answer of
-- has_response and the call of check.
def checkResponse (t : TraceInfo) (state : State) (kind : Kind) (before : Session D R → Option (Session D R))
    (c : Session D R) : Option (Session D R) :=
  let (has,after) := hasResponse kind c
  if has then (before after).map (check config t state) else some after

def checkRequestQueue (t : TraceInfo) (staleOrders : List Order) (c : Session D R) : Option (Session D R) :=
  let state : State := Walker.state c.stream.download
  match state with
  | .undefined | .subscribeBalances | .subscribePositions | .subscribeOrders | .subscribeTrades | .done => some c
  | .getBalances => checkResponse config t state .balances some c
  | .getPositions => checkResponse config t state .positions some c
  | .getOpenOrders => checkResponse config t state .openOrders (fun c => some (checkStaleOrders staleOrders c).2) c
  | .getStaleOrders =>
      checkResponse config t state .staleOrders (fun c => if c.request.detailsStaleOrders = [] then some c else none) c
  | .getTrades => checkResponse config t state .trades some c

def ping (t : TraceInfo) (now : Nanoseconds) (c : Session D R) : Session D R :=
  if c.stream.nextPing < t.originCreateTime then
    sendPing now {c with stream.nextPing := t.originCreateTime + PING_FREQUENCY / 2}
  else c

def simulateDisconnect (t : TraceInfo) (now : Nanoseconds) (c : Session D R) : Session D R :=
  if c.stream.nextSimulatedDisconnect ≠ 0 ∧ c.stream.nextSimulatedDisconnect < now then
    requestPrivateToken t {c with stream.nextSimulatedDisconnect := 0}
  else c

def housekeeping (t : TraceInfo) (now : Nanoseconds) (staleOrders : List Order) (c : Session D R) : Session D R :=
  if isReady c then
    simulateDisconnect t now (pollStaleOrders config t staleOrders (hasResponse .privateToken (ping t now c)).2)
  else c

def onTimer (t : TraceInfo) (now : Nanoseconds) (refresh : Bool) (staleOrders : List Order) (c : Session D R) :
    Option (Session D R) :=
  if refresh then (checkRequestQueue config t staleOrders c).map (housekeeping config t now staleOrders)
  else if c.stream.logonTimeout ≠ 0 ∧ c.stream.logonTimeout < now then some (c.emit .close)
  else some c

def onConnected (t : TraceInfo) (c : Session D R) : Session D R :=
  let simulated := config.settings.experimentalSimulateExpiredToken
  {c with
    stream.logonTimeout := t.originCreateTime + config.settings.wsRequestTimeout
    stream.nextSimulatedDisconnect :=
      if simulated ≠ 0 then t.originCreateTime + simulated else c.stream.nextSimulatedDisconnect}

def onDisconnected (c : Session D R) : Session D R :=
  let published := onConnectionStatus config .disconnected "" {c with stream.ready := false}
  {published with
    stream.download := Download2.reset published.stream.download
    stream.welcome := false
    stream.logonTimeout := 0
    stream.nextPing := 0}

def onWelcome (t : TraceInfo) (c : Session D R) : Session D R := begin config t {c with stream.welcome := true}

def onError (t : TraceInfo) (error : Json.ErrorMessage) (c : Session D R) : Session D R :=
  if error.code = 401 ∧ error.data = "token is expired" then requestPrivateToken t c else c

def onAck (t : TraceInfo) (ack : Json.Ack) (c : Session D R) : Session D R :=
  match State.ofName ack.id with
  | some state => check config t state c
  | none => c

def step (c : Session D R) : DropCopyEvent → Option (Session D R)
  | .timer t now refresh staleOrders => onTimer config t now refresh staleOrders c
  | .connected t => some (onConnected config t c)
  | .disconnected _ => some (onDisconnected config c)
  | .welcome t => some (onWelcome config t c)
  | .error t message => some (onError t message c)
  | .ack t message => some (onAck config t message c)
  | .logged => some c
  | .unexpected => none

end KucoinPro.DropCopy
