import KucoinPro.Web

namespace KucoinPro

structure OrderEntryWS where
  welcome : Bool
  pingFreq : Nanoseconds
  ready : Bool
  connectionStatus : ConnectionStatus
  logonTimeout : Nanoseconds
  nextPing : Nanoseconds
  deriving DecidableEq, Repr

namespace OrderEntryWS
open Json

variable (config : Config)

def SUPPORTS : List SupportType := [.createOrder,.cancelOrder,.orderAck]

inductive Effect where
  -- handed to the connection
  | sendText (message : String)
  | close
  -- dispatched to the server
  | streamStatus (streamStatus : StreamStatus)
  | response (response : Response) (streamId : Nat)

-- `refresh` is the answer of the connection.
inductive Event where
  | timer (traceInfo : TraceInfo) (refresh : Bool)
  | connected (traceInfo : TraceInfo)
  | disconnected (traceInfo : TraceInfo)
  | text (traceInfo : TraceInfo) (payload : String)
  -- Ready, Close and Latency
  | logged
  | binary
  | action (action : OrderAction)

-- The stream and what it has done so far, newest first.
structure Session where
  stream : OrderEntryWS
  log : List Effect

def Session.emit (effect : Effect) (s : Session) : Session := {s with log := effect :: s.log}

def initial : Session where
  stream := {
    welcome := false
    pingFreq := 0
    ready := false
    connectionStatus := .undefined
    logonTimeout := 0
    nextPing := 0 }
  log := []

def isReady (s : Session) : Bool := s.stream.connectionStatus == .ready

def onConnectionStatus (status : ConnectionStatus) (reason : String) (s : Session) : Session :=
  {s with stream.connectionStatus := status}.emit (.streamStatus {
    streamId := config.orderEntryStreamId
    account := config.account.name
    supports := SUPPORTS
    protocol := .ws
    connectionStatus := status
    reason := reason })

-- server::OrderActionStream
def act (s : Session) : OrderAction → Except ActionError Unit × Session
  | .createOrder _ createOrder refData requestId =>
      (.ok (),s.emit (.sendText (Encoder.wsAddOrder config.platform createOrder refData requestId)))
  | .modifyOrder _ _ _ => (.error (.notSupported "not supported"),s)
  | .cancelOrder _ _ order requestId => (.ok (),s.emit (.sendText (Encoder.wsCancelOrder order requestId)))
  | .cancelAllOrders _ _ _ _ => (.error (.notSupported "not supported"),s)

def onConnected (t : TraceInfo) (s : Session) : Session :=
  {s with stream.logonTimeout := t.originCreateTime + config.settings.wsRequestTimeout}

def onDisconnected (s : Session) : Session :=
  let published := onConnectionStatus config .disconnected "" s
  {published with
    stream.welcome := false
    stream.pingFreq := 0
    stream.ready := false
    stream.logonTimeout := 0
    stream.nextPing := 0}

def onAuth (message : String) (s : Session) : Session :=
  onConnectionStatus config .loginSent "" (s.emit (.sendText (config.account.createWsAuth message)))

def onWelcome (welcome : WSWelcome) (s : Session) : Session :=
  onConnectionStatus config .ready "" {s with stream.welcome := true, stream.pingFreq := welcome.pingInterval * 1000000}

def respond (requestType : RequestType) (status : RequestStatus) (error : Error)
    (text requestId externalOrderId clientOrderId : String) (s : Session) : Session :=
  s.emit (.response {
    requestType := requestType
    origin := .exchange
    requestStatus := status
    error := error
    text := text
    version := 0
    requestId := requestId
    externalOrderId := externalOrderId
    clientOrderId := clientOrderId
    quantity := nan
    price := nan } config.orderEntryStreamId)

def onError (error : WSError) (s : Session) : Option Session :=
  let helper requestType := respond config requestType .rejected (guessError error.code) error.msg error.id "" "" s
  match error.op with
  | .undefinedInternal =>
      if isAuthError error.code then
        if config.settings.experimentalRetryLogon then some (s.emit .close) else none
      else some s
  | .unknownInternal | .pong => some s
  | .addOrderAck => some (helper .createOrder)
  | .cancelOrderAck => some (helper .cancelOrder)

def onAddOrderAck (ack : WSAddOrderAck) (s : Session) : Session :=
  respond config .createOrder .accepted .undefined "" ack.id ack.data.orderId ack.data.clientOid s

def onCancelOrderAck (ack : WSCancelOrderAck) (s : Session) : Session :=
  respond config .cancelOrder .accepted .undefined "" ack.id "" ack.data.clientOid s

def parse (decoders : WSDecoders) (payload : String) (s : Session) : Option Session :=
  (WSParser.dispatch decoders payload).bind fun
    | .auth _ message => some (onAuth config message s)
    | .welcome welcome => some (onWelcome config welcome s)
    | .error error => onError config error s
    | .pong _ => some s
    | .addOrderAck ack => some (onAddOrderAck config ack s)
    | .cancelOrderAck ack => some (onCancelOrderAck config ack s)

def sendPing (t : TraceInfo) (s : Session) : Session :=
  if t.originCreateTime < s.stream.nextPing then s
  else {s with stream.nextPing := t.originCreateTime + s.stream.pingFreq / 2}.emit
    (.sendText ("\x7b\"id\":\"" ++ toString t.originCreateTime ++ "\",\"op\":\"ping\"\x7d"))

def checkLogonTimeout (t : TraceInfo) (s : Session) : Session :=
  if s.stream.logonTimeout ≠ 0 ∧ s.stream.logonTimeout < t.originCreateTime then s.emit .close else s

def onTimer (t : TraceInfo) (refresh : Bool) (s : Session) : Session :=
  if refresh then if isReady s then sendPing t s else checkLogonTimeout t s else s

def step (decoders : WSDecoders) (s : Session) : Event → Option Session
  | .timer t refresh => some (onTimer t refresh s)
  | .connected t => some (onConnected config t s)
  | .disconnected _ => some (onDisconnected config s)
  | .text _ payload => parse config decoders payload s
  | .logged => some s
  | .binary => none
  | .action action => some (act config s action).2

end OrderEntryWS
end KucoinPro
