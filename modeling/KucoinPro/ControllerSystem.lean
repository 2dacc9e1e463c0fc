import KucoinPro.MarketSystem
import KucoinPro.OrderEntryWs
import KucoinPro.Rest

namespace KucoinPro

-- The accounts are those of the configuration, each name once, in the order in
-- which the maps of the controller are walked through.
structure ControllerConfig where
  accounts : List Account
  settings : Settings
  platform : Platform
  market : MarketSettings
  decoders : Json.WSDecoders
  wsApi : Bool
  wsUri : String

-- The streams of market data read the settings only.
def ControllerConfig.feed (config : ControllerConfig) : GatewayConfig where
  account := {
    account := ⟨"",false,⟨"","",id⟩⟩
    settings := config.settings
    platform := config.platform
    orderEntryStreamId := 0
    dropCopyStreamId := 0 }
  market := config.market

structure WsStream where
  streamId : Nat
  session : OrderEntryWS.Session

-- What the maps hold for one account. The id of the drop copy is 0 until there is one.
structure AccountStreams (E D R : Type) where
  config : Config
  world : World E D R
  orderEntryWs : Option WsStream

structure Controller (Y : Type) (Q : Type → Type) (S B E D R : Type) where
  shared : Shared Y Q S B
  streamId : Nat
  restStreamId : Nat
  accounts : List (AccountStreams E D R)
  marketData : List (MarketData Q)

-- What one account is called with; `book` as in GatewayEvent.
inductive AccountCall (B : Type) where
  | timer (traceInfo : TraceInfo) (refresh : Bool) (canRequest : Kind → Bool) (findOrder : Nat → Nat → Option Order)
      (granted : Nat)
  | connected (traceInfo : TraceInfo)
  | disconnected (traceInfo : TraceInfo)
  | response (traceInfo : TraceInfo) (id : Nat) (response : Web.Response) (book : B)
  | action (action : OrderAction)
  | dropCopy (event : DropCopyEvent)

inductive StreamEvent (B : Type) where
  | account (index : Nat) (call : AccountCall B)
  | orderEntryWs (index : Nat) (event : OrderEntryWS.Event)
  | marketData (index : Nat) (event : MarketDataEvent B)

-- The requests of the clients.
inductive OrderRequest where
  | createOrder (messageInfo : MessageInfo) (createOrder : CreateOrder) (refData : RefData) (requestId : String)
  | modifyOrder (messageInfo : MessageInfo) (account : String) (order : Order) (requestId : String)
  | cancelOrder (messageInfo : MessageInfo) (cancelOrder : CancelOrder) (order : Order) (requestId : String)
  | cancelAllOrders (messageInfo : MessageInfo) (cancelAllOrders : CancelAllOrders) (requestId : String) (symbols : List String)
  | massQuote
  | cancelQuotes

-- What such a request throws back at the server.
inductive RequestError where
  | unknownAccount (account : String)
  | action (error : ActionError)
  deriving DecidableEq, Repr

-- The answers that the streams get in the course of one Timer.
structure RestAnswers where
  refresh : Bool
  canRequest : Kind → Bool
  findOrder : Nat → Nat → Option Order
  granted : Nat

structure TimerAnswers where
  orderEntryRest : Nat → RestAnswers
  orderEntryWs : Nat → Bool
  dropCopy : Nat → Bool × List Order
  marketData : Nat → Bool × Nat

-- Timers and order actions come from the controller, everything else from the
-- connections of the streams.
def StreamEvent.isCallback : StreamEvent B → Bool
  | .account _ (.timer ..) | .account _ (.action _) | .account _ (.dropCopy (.timer ..)) => false
  | .orderEntryWs _ (.timer ..) | .orderEntryWs _ (.action _) | .marketData _ (.timer ..) => false
  | _ => true

inductive ControllerEvent (B : Type) where
  | timer (traceInfo : TraceInfo) (now : Nanoseconds) (answers : TimerAnswers)
  | request (request : OrderRequest)
  | symbolsUpdate (symbols : List String)
  | callback (event : StreamEvent B) (own : event.isCallback = true)

namespace ControllerSystem
open GuardedRuns

-- stream_id_ is a uint16_t.
def STREAM_IDS : Nat := 65536
def nextStreamId (streamId : Nat) : Nat := (streamId + 1) % STREAM_IDS

section streams
variable {E D R : Type} [Download2 E OrderEntryREST.State] [Download2 D DropCopy.State] [LimitRequest R] (config : ControllerConfig)

def createAccount (streamId : Nat) (account : Account) : AccountStreams E D R where
  config := {
    account := account
    settings := config.settings
    platform := config.platform
    orderEntryStreamId := streamId
    dropCopyStreamId := 0 }
  world := AccountSystem.initial
  orderEntryWs := none

-- Both hand back the last id that was used.
def createOrderEntryRest : Nat → List Account → List (AccountStreams E D R) × Nat
  | streamId,[] => ([],streamId)
  | streamId,account :: rest =>
      let id := nextStreamId streamId
      let (others,last) := createOrderEntryRest id rest
      (createAccount config id account :: others,last)

def createOrderEntryWs : Nat → List (AccountStreams E D R) → List (AccountStreams E D R) × Nat
  | streamId,[] => ([],streamId)
  | streamId,a :: rest =>
      let id := nextStreamId streamId
      let (others,last) := createOrderEntryWs id rest
      ({a with orderEntryWs := some ⟨id,OrderEntryWS.initial⟩} :: others,last)

-- The configuration of a websocket order stream, with its own id.
def wsConfig (a : AccountStreams E D R) (ws : WsStream) : Config := {a.config with orderEntryStreamId := ws.streamId}

end streams

variable {Y S B E D R : Type} {Q : Type → Type} [Symbols Y] [LimitQueue Q] [Sequencer S B]
  [Download2 E OrderEntryREST.State] [Download2 D DropCopy.State] [LimitRequest R] (config : ControllerConfig)

def create : Controller Y Q S B E D R :=
  let restStreamId := nextStreamId 0
  let (rest,streamId) := createOrderEntryRest config restStreamId config.accounts
  let (accounts,streamId) :=
    if config.wsApi && config.wsUri != "" then createOrderEntryWs streamId rest else (rest,streamId)
  {
    shared := {
      depthRequestQueue := LimitQueue.create
      symbols := Symbols.create config.market.wsMaxSubscriptionsPerStream
      bids := []
      asks := []
      mbpSequencer := ∅
      log := [] }
    streamId := streamId
    restStreamId := restStreamId
    accounts := accounts
    marketData := [] }

-- market_data_

def createMarketData (c : Controller Y Q S B E D R) : Controller Y Q S B E D R :=
  let index := c.marketData.length
  {c with
    shared := c.shared.emit (.start index)
    marketData := c.marketData ++ [MarketData.create (nextStreamId c.streamId) index]
    streamId := nextStreamId c.streamId}

def createStreams : Nat → Controller Y Q S B E D R → Controller Y Q S B E D R
  | 0,c => c
  | count + 1,c => createStreams count (createMarketData c)

def onSymbolsUpdate (symbols : List String) (c : Controller Y Q S B E D R) : Controller Y Q S B E D R :=
  let ((size,startFrom),listed) := Symbols.update symbols c.shared.symbols
  let ensured := createStreams (size - c.marketData.length) {c with shared.symbols := listed}
  let (streams,shared) := Controller.subscribeStreams config.feed startFrom ensured.marketData ensured.shared
  {ensured with marketData := streams, shared := shared}

def onMarketData (index : Nat) (event : MarketDataEvent B) (c : Controller Y Q S B E D R) : Option (Controller Y Q S B E D R) :=
  match c.marketData[index]? with
  | none => some c
  | some stream =>
      let received := {c.shared with log := .event (.marketData index event) :: c.shared.log}
      (MarketData.step config.feed ⟨stream,received⟩ event).map fun feed =>
        {c with marketData := c.marketData.set index feed.stream, shared := feed.shared}

-- order_entry_ws_

def onOrderEntryWs (index : Nat) (event : OrderEntryWS.Event) (c : Controller Y Q S B E D R) : Option (Controller Y Q S B E D R) :=
  match c.accounts[index]? with
  | none => some c
  | some a =>
    match a.orderEntryWs with
    | none => some c
    | some ws => (OrderEntryWS.step (wsConfig a ws) config.decoders ws.session event).map fun session =>
        {c with accounts := c.accounts.set index {a with orderEntryWs := some {ws with session := session}}}

-- order_entry_rest_ and drop_copy_

-- The event of AccountSystem that a call comes to. `symbols` are those that
-- depth_request_queue hands out.
def eventOf (symbols : List String) : AccountCall B → Event
  | .timer t refresh canRequest findOrder _ => .rest (.timer t refresh canRequest findOrder symbols)
  | .connected t => .rest (.connected t)
  | .disconnected t => .rest (.disconnected t)
  | .response t id response _ => .rest (.response t id response)
  | .action action => .rest (.action action)
  | .dropCopy event => .dropCopy event

def gatewayConfig (a : AccountStreams E D R) : GatewayConfig := ⟨a.config,config.market⟩

def handedOut (a : AccountStreams E D R) (call : AccountCall B) (queue : Q String) : List String × Q String :=
  match call with
  | .timer t refresh _ _ granted =>
      if OrderEntryREST.serving a.config refresh a.world then LimitQueue.dispatch t granted queue else ([],queue)
  | _ => ([],queue)

-- An order book goes to the sequencer of its symbol.
def passOn (a : AccountStreams E D R) (call : AccountCall B) (shared : Shared Y Q S B) : Option (Shared Y Q S B) :=
  match call with
  | .response _ id response book =>
    match MarketSystem.passedOn (gatewayConfig config a) id response a.world with
    | none => some shared
    | some ack => OrderEntryREST.onOrderBookAck (gatewayConfig config a) ack book shared
  | _ => some shared

def createsDropCopy (a : AccountStreams E D R) (world : World E D R) : Bool := a.world.dropCopy.isNone && world.dropCopy.isSome

-- A drop copy gets its id where it is created, before it publishes anything.
def adopt (index : Nat) (a : AccountStreams E D R) (world : World E D R) (c : Controller Y Q S B E D R) : Controller Y Q S B E D R :=
  if createsDropCopy a world then
    let streamId := nextStreamId c.streamId
    {c with
      streamId := streamId
      accounts := c.accounts.set index {a with config.dropCopyStreamId := streamId, world := world}}
  else {c with accounts := c.accounts.set index {a with world := world}}

def onAccount (index : Nat) (call : AccountCall B) (c : Controller Y Q S B E D R) : Option (Controller Y Q S B E D R) :=
  match c.accounts[index]? with
  | none => some c
  | some a =>
      let (symbols,queue) := handedOut a call c.shared.depthRequestQueue
      (AccountSystem.step a.config a.world (eventOf symbols call)).bind fun world =>
        (passOn config a call {c.shared with depthRequestQueue := queue}).map fun shared =>
          adopt index a world {c with shared := shared}

def visit (c : Controller Y Q S B E D R) : StreamEvent B → Option (Controller Y Q S B E D R)
  | .account index call => onAccount config index call c
  | .orderEntryWs index event => onOrderEntryWs config index event c
  | .marketData index event => onMarketData config index event c

-- dispatch_helper, without rest_, which does nothing on a Timer. No Timer creates
-- a stream, so that what is there to visit is known at its start.
def restVisits (t : TraceInfo) (answers : TimerAnswers) (c : Controller Y Q S B E D R) : List (StreamEvent B) :=
  (List.range c.accounts.length).map fun index =>
    let answer := answers.orderEntryRest index
    .account index (.timer t answer.refresh answer.canRequest answer.findOrder answer.granted)

def wsVisits (t : TraceInfo) (answers : TimerAnswers) (c : Controller Y Q S B E D R) : List (StreamEvent B) :=
  (List.range c.accounts.length).map fun index => .orderEntryWs index (.timer t (answers.orderEntryWs index))

def hasDropCopy (c : Controller Y Q S B E D R) (index : Nat) : Bool := (c.accounts[index]?).any fun a => a.world.dropCopy.isSome

def dropCopyVisits (t : TraceInfo) (now : Nanoseconds) (answers : TimerAnswers) (c : Controller Y Q S B E D R) :
    List (StreamEvent B) :=
  ((List.range c.accounts.length).filter (hasDropCopy c)).map fun index =>
    .account index (.dropCopy (.timer t now (answers.dropCopy index).1 (answers.dropCopy index).2))

def marketDataVisits (t : TraceInfo) (now : Nanoseconds) (answers : TimerAnswers) (c : Controller Y Q S B E D R) :
    List (StreamEvent B) :=
  (List.range c.marketData.length).map fun index =>
    .marketData index (.timer t now (answers.marketData index).1 (answers.marketData index).2)

def visits (t : TraceInfo) (now : Nanoseconds) (answers : TimerAnswers) (c : Controller Y Q S B E D R) : List (StreamEvent B) :=
  restVisits t answers c ++ wsVisits t answers c ++ dropCopyVisits t now answers c ++ marketDataVisits t now answers c

def onTimer (t : TraceInfo) (now : Nanoseconds) (answers : TimerAnswers) (c : Controller Y Q S B E D R) :
    Option (Controller Y Q S B E D R) := execute (visit config) c (visits t now answers c)

-- requests

def findAccount (account : String) (c : Controller Y Q S B E D R) : Option Nat :=
  c.accounts.findIdx? fun a => a.config.account.name == account

def findAccountWs (account : String) (c : Controller Y Q S B E D R) : Option Nat :=
  c.accounts.findIdx? fun a => a.orderEntryWs.isSome && a.config.account.name == account

-- The stream that a request is handed to.
inductive Destination where
  | rest (index : Nat)
  | ws (index : Nat)
  deriving DecidableEq, Repr

def getOrderEntryRest (account : String) (c : Controller Y Q S B E D R) : Except RequestError Destination :=
  match findAccount account c with
  | some index => .ok (.rest index)
  | none => .error (.unknownAccount account)

def getOrderEntryWs (account : String) (c : Controller Y Q S B E D R) : Except RequestError Destination :=
  match findAccountWs account c with
  | some index => .ok (.ws index)
  | none => .error (.unknownAccount account)

def getOrderEntry (account : String) (c : Controller Y Q S B E D R) : Except RequestError Destination :=
  if config.wsApi then getOrderEntryWs account c else getOrderEntryRest account c

-- The streams hand back their id.
def returned (outcome : Except ActionError Unit) (streamId : Nat) : Except RequestError Nat :=
  match outcome with
  | .ok _ => .ok streamId
  | .error e => .error (.action e)

def handOver (destination : Destination) (action : OrderAction) (c : Controller Y Q S B E D R) :
    Except RequestError Nat × Controller Y Q S B E D R :=
  match destination with
  | .rest index =>
    match c.accounts[index]? with
    | none => (.error (.unknownAccount ""),c)
    | some a =>
        let (outcome,world) := OrderEntryREST.act a.config (AccountSystem.receive (.rest (.action action)) a.world) action
        (returned outcome a.config.orderEntryStreamId,{c with accounts := c.accounts.set index {a with world := world}})
  | .ws index =>
    match c.accounts[index]? with
    | none => (.error (.unknownAccount ""),c)
    | some a =>
      match a.orderEntryWs with
      | none => (.error (.unknownAccount ""),c)
      | some ws =>
          let (outcome,session) := OrderEntryWS.act (wsConfig a ws) ws.session action
          (returned outcome ws.streamId,
            {c with accounts := c.accounts.set index {a with orderEntryWs := some {ws with session := session}}})

def route (found : Except RequestError Destination) (action : OrderAction) (c : Controller Y Q S B E D R) :
    Except RequestError Nat × Controller Y Q S B E D R :=
  match found with
  | .error e => (.error e,c)
  | .ok destination => handOver destination action c

-- Cancelling all orders is REST only.
def onRequest (request : OrderRequest) (c : Controller Y Q S B E D R) : Except RequestError Nat × Controller Y Q S B E D R :=
  match request with
  | .createOrder messageInfo createOrder refData requestId =>
      route (getOrderEntry config createOrder.account c) (.createOrder messageInfo createOrder refData requestId) c
  | .modifyOrder messageInfo account order requestId =>
      route (getOrderEntry config account c) (.modifyOrder messageInfo order requestId) c
  | .cancelOrder messageInfo cancelOrder order requestId =>
      route (getOrderEntry config cancelOrder.account c) (.cancelOrder messageInfo cancelOrder order requestId) c
  | .cancelAllOrders messageInfo cancelAllOrders requestId symbols =>
      route (getOrderEntryRest cancelAllOrders.account c) (.cancelAllOrders messageInfo cancelAllOrders requestId symbols) c
  | .massQuote | .cancelQuotes => (.error (.action (.notSupported "not supported")),c)

-- One event after the other. `none` is the end of the process.
def step (c : Controller Y Q S B E D R) : ControllerEvent B → Option (Controller Y Q S B E D R)
  | .timer t now answers => onTimer config t now answers c
  | .request request => some (onRequest config request c).2
  | .symbolsUpdate symbols => some (onSymbolsUpdate config symbols c)
  | .callback event _ => visit config c event

-- As the one that gets the updates of those who forward symbols.
def receiver : Receiver (Controller Y Q S B E D R) (ControllerEvent B) where
  onSymbolsUpdate symbols c := (.ok (),onSymbolsUpdate config symbols c)
  step := step config

end ControllerSystem
end KucoinPro

-- For closed runs: a master account and another one, and the websocket API, whose
-- messages are told apart by their text.
namespace KucoinPro.Smallest

def wsDecoders : Json.WSDecoders where
  message text := .ok ⟨if text = "error" then "" else "session",if text = "welcome" then 1 else 0,0,.undefinedInternal⟩
  auth _ := .ok ⟨"session"⟩
  welcome _ := .ok ⟨"session",1000⟩
  error _ := .ok ⟨0,"","",.undefinedInternal⟩
  pong _ := .error (.std "pong")
  addOrderAck _ := .error (.std "addOrderAck")
  cancelOrderAck _ := .error (.std "cancelOrderAck")

def twoAccounts (wsUri : String) : ControllerConfig where
  accounts := [⟨"A1",true,⟨"key","passphrase",id⟩⟩,⟨"A2",false,⟨"key","passphrase",id⟩⟩]
  settings := (setup true).settings
  platform := platform
  market := (market 2).market
  decoders := wsDecoders
  wsApi := wsUri != ""
  wsUri := wsUri

abbrev SmallController :=
  Controller SlicedSymbols List Replica Unit (Stepper OrderEntryREST.State) (Stepper DropCopy.State) Slot

def connects (index : Nat) : ControllerEvent Unit := .callback (.account index (.connected t)) rfl
def answers (index number : Nat) (response : Web.Response) : ControllerEvent Unit :=
  .callback (.account index (.response t number response ())) rfl
def disconnects (index : Nat) : ControllerEvent Unit := .callback (.account index (.disconnected t)) rfl
def receives (index : Nat) (text : String) : ControllerEvent Unit := .callback (.orderEntryWs index (.text t text)) rfl

def greets (index : Nat) : ControllerEvent Unit := .callback (.marketData index (.welcome t)) rfl

-- Every stream is refreshed, and every request is granted.
def turn : ControllerEvent Unit :=
  .timer t 0 ⟨fun _ => ⟨true,fun _ => true,fun _ _ => none,6⟩,fun _ => true,fun _ => (true,[]),fun _ => (true,6)⟩

def order (account : String) : ControllerEvent Unit :=
  .request (.createOrder ⟨5,t⟩ ⟨account,7,"XBTUSDTM",.buy,.market,.undefined,false,false,1,nan,nan⟩ ⟨0,0⟩ "R1")

end KucoinPro.Smallest
