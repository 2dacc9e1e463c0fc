import KucoinPro.Market

namespace KucoinPro

-- market::mbp::Sequencer with the callbacks it is given by both of its users,
-- MarketData and OrderEntryREST; `publish` is what they publish differently.
namespace Shared
variable {Y S B : Type} {Q : Type → Type} [LimitQueue Q] (config : GatewayConfig)

def setSequencer (symbol : String) (sequencer : S) (shared : Shared Y Q S B) : Shared Y Q S B :=
  {shared with mbpSequencer := shared.mbpSequencer.insert symbol sequencer}

def callback (symbol : String) (publish : SequencerCall → Option MarketByPriceUpdate) (shared : Shared Y Q S B)
    (call : SequencerCall) : Option (Shared Y Q S B) :=
  match call with
  | .requestSnapshot retries =>
      if config.market.wsMbpRequestMaxRetries ≠ 0 ∧ config.market.wsMbpRequestMaxRetries < retries then none
      else some (shared.requestDepth symbol)
  | .publishUpdate _ _ | .publishSnapshot _ _ _ _ =>
      match publish call with
      | none => some shared
      | some update => some (shared.emit (.marketByPriceUpdate update))

-- All that one of its calls can do.
inductive Called (symbol : String) (publish : SequencerCall → Option MarketByPriceUpdate) (shared : Shared Y Q S B) :
    Shared Y Q S B → Prop where
  | asked : Called symbol publish shared (shared.requestDepth symbol)
  | silent : Called symbol publish shared shared
  | published : publish call = some update → Called symbol publish shared (shared.emit (.marketByPriceUpdate update))

theorem callback_called {shared after : Shared Y Q S B} (ran : callback config symbol publish shared call = some after) :
    Called symbol publish shared after := by
  cases call with
  | requestSnapshot retries =>
      simp only [callback] at ran
      split at ran
      · cases ran
      · exact Option.some.inj ran ▸ .asked
  | publishUpdate | publishSnapshot =>
      simp only [callback] at ran
      split at ran
      · exact Option.some.inj ran ▸ .silent
      · rename_i made
        exact Option.some.inj ran ▸ .published made

-- What each of them does, all of them do.
theorem callbacks_related {related : Shared Y Q S B → Shared Y Q S B → Prop} {shared after : Shared Y Q S B}
    (refl : ∀ a, related a a) (trans : ∀ a b c, related a b → related b c → related a c)
    (each : ∀ before after, Called symbol publish before after → related before after) (calls : List SequencerCall)
    (ran : calls.foldlM (callback config symbol publish) shared = some after) : related shared after := by
  induction calls generalizing shared with
  | nil =>
      obtain rfl := Option.some.inj ran
      exact refl shared
  | cons call rest ih =>
      rw [List.foldlM_cons] at ran
      obtain ⟨middle,first,others⟩ := Option.bind_eq_some_iff.mp ran
      exact trans _ _ _ (each _ _ (callback_called config first)) (ih others)

variable [Sequencer S B]

-- BadState is caught where the sequencer is called.
def sequence (symbol : String) (operation : Operation B) (publish : SequencerCall → Option MarketByPriceUpdate)
    (shared : Shared Y Q S B) : Option (Shared Y Q S B) :=
  let sequenced := Sequencer.operate operation ((shared.mbpSequencer.lookup symbol).getD Sequencer.create)
  let operated := (shared.setSequencer symbol sequenced.sequencer).emit (.operated symbol operation)
  (sequenced.calls.foldlM (callback config symbol publish) operated).map fun shared =>
    if sequenced.badState then
      ((shared.setSequencer symbol (Sequencer.clear sequenced.sequencer)).emit (.cleared symbol)).requestDepth symbol
    else shared

end Shared

namespace MarketData
open Json

variable {Y S B : Type} {Q : Type → Type} [Symbols Y] [LimitQueue Q] [Sequencer S B] (config : GatewayConfig)

def SUPPORTS : List SupportType := [.marketStatus,.topOfBook,.marketByPrice,.tradeSummary,.statistics]

def REQUEST_ID : Nat := 1000000

def create (streamId index : Nat) : MarketData Q where
  streamId := streamId
  index := index
  requestId := streamId * REQUEST_ID
  welcome := false
  connectionStatus := .undefined
  logonTimeout := 0
  nextPing := 0
  subscribeQueue := LimitQueue.create

def streamStatus (stream : MarketData Q) (status : ConnectionStatus) : StreamStatus where
  streamId := stream.streamId
  account := ""
  supports := SUPPORTS
  protocol := .ws
  connectionStatus := status
  reason := ""

def onConnectionStatus (status : ConnectionStatus) (c : Feed Y Q S B) : Feed Y Q S B :=
  {c with stream.connectionStatus := status}.emit (.streamStatus (streamStatus c.stream status))

def isReady (stream : MarketData Q) : Bool := stream.connectionStatus == .ready

-- subscribe

def subscribeItem (topic : Topic) (c : Feed Y Q S B) (symbol : String) : Feed Y Q S B :=
  let subscription := ⟨c.stream.requestId + 1,topic,symbol⟩
  {c with
    stream.requestId := c.stream.requestId + 1
    stream.subscribeQueue := LimitQueue.emplaceBack subscription c.stream.subscribeQueue
  }.emit (.queued c.stream.index subscription)

def subscribeTopic (topic : Topic) (symbols : List String) (c : Feed Y Q S B) : Feed Y Q S B :=
  symbols.foldl (subscribeItem topic) c

def subscribeSymbols (symbols : List String) (c : Feed Y Q S B) : Feed Y Q S B :=
  if symbols = [] then c
  else
    let c :=
      if config.market.miscTopOfBookFromTicker then subscribeTopic ⟨API.ticker,none⟩ symbols c
      else subscribeTopic ⟨API.obu,some "1"⟩ symbols c
    let c := subscribeTopic ⟨API.trade,none⟩ symbols c
    if config.market.miscExperimentalEnableMbp then subscribeTopic ⟨API.obu,some "increment"⟩ symbols c else c

def subscribe (startFrom : Nat) (c : Feed Y Q S B) : Feed Y Q S B :=
  if isReady c.stream then subscribeSymbols config (Symbols.getSlice c.stream.index startFrom c.shared.symbols) c else c

-- timer

def sendPing (now : Nanoseconds) (c : Feed Y Q S B) : Feed Y Q S B :=
  {c with stream.nextPing := now + config.market.wsPingFreq / 2}.emit (.sendText c.stream.index (.ping now))

def sendSubscription (c : Feed Y Q S B) (subscription : Subscription) : Feed Y Q S B :=
  c.emit (.sendText c.stream.index (.subscribe subscription))

def checkSubscribeQueue (t : TraceInfo) (granted : Nat) (c : Feed Y Q S B) : Feed Y Q S B :=
  let (messages,queue) := LimitQueue.dispatch t granted c.stream.subscribeQueue
  messages.foldl sendSubscription {c with stream.subscribeQueue := queue}

def onTimer (t : TraceInfo) (now : Nanoseconds) (refresh : Bool) (granted : Nat) (c : Feed Y Q S B) : Feed Y Q S B :=
  if refresh then
    if isReady c.stream then
      let c := if c.stream.nextPing < t.originCreateTime then sendPing config now c else c
      checkSubscribeQueue t granted c
    else c
  else if c.stream.logonTimeout ≠ 0 ∧ c.stream.logonTimeout < t.originCreateTime then c.emit (.close c.stream.index)
  else c

-- connection

def onConnected (t : TraceInfo) (c : Feed Y Q S B) : Feed Y Q S B :=
  {c with stream.logonTimeout := t.originCreateTime + config.account.settings.wsRequestTimeout}

-- The queue stays as it is, the sequencers of all streams go.
def onDisconnected (c : Feed Y Q S B) : Feed Y Q S B :=
  let published := onConnectionStatus .disconnected c
  {published with
    stream.welcome := false
    stream.logonTimeout := 0
    stream.nextPing := 0
    shared.mbpSequencer := ∅
  }.emit (.erased published.shared.mbpSequencer.keys)

def onWelcome (c : Feed Y Q S B) : Feed Y Q S B :=
  subscribe config 0 (onConnectionStatus .ready {c with stream.welcome := true})

-- market data

def onTicker (ticker : Ticker) (c : Feed Y Q S B) : Feed Y Q S B :=
  c.emit (.topOfBook {
    streamId := c.stream.streamId
    exchange := config.account.settings.exchange
    symbol := ticker.data.symbol
    bidPrice := ticker.data.bestBidPrice
    bidQuantity := ticker.data.bestBidSize
    askPrice := ticker.data.bestAskPrice
    askQuantity := ticker.data.bestAskSize
    updateType := .snapshot
    exchangeTimeUtc := ticker.data.timestamp
    exchangeSequence := ticker.data.sequenceNumber
    sendingTimeUtc := ticker.pushTime })

def onTrade (trade : Trade) (c : Feed Y Q S B) : Feed Y Q S B :=
  c.emit (.tradeSummary {
    streamId := c.stream.streamId
    exchange := config.account.settings.exchange
    symbol := trade.data.symbol
    side := trade.data.side.map
    price := trade.data.price
    quantity := trade.data.quantity
    tradeId := trade.data.tradeId
    exchangeTimeUtc := trade.data.timestamp
    exchangeSequence := trade.data.sequenceNumber
    sendingTimeUtc := trade.pushTime })

def getPrice (items : List OBUDataItem) : Float := (items.head?.map (·.price)).getD nan
def getQuantity (items : List OBUDataItem) : Float := (items.head?.map (·.quantity)).getD nan

def dispatchTopOfBook (obu : OBU) (c : Feed Y Q S B) : Feed Y Q S B :=
  c.emit (.topOfBook {
    streamId := c.stream.streamId
    exchange := config.account.settings.exchange
    symbol := obu.data.symbol
    bidPrice := getPrice obu.data.bids
    bidQuantity := getQuantity obu.data.bids
    askPrice := getPrice obu.data.asks
    askQuantity := getQuantity obu.data.asks
    updateType := .snapshot
    exchangeTimeUtc := obu.data.timestamp
    exchangeSequence := obu.data.endSequence
    sendingTimeUtc := obu.pushTime })

def mbpUpdate (item : OBUDataItem) : MBPUpdate := ⟨item.price,item.quantity⟩

-- The sequence numbers are unsigned.
def previousSequence (startSequence : Nat) : Nat := (startSequence + (UInt64.size - 1)) % UInt64.size

def obuOperation (mbp : Shared Y Q S B) (data : OBUData) (book : B) : Operation B :=
  .update mbp.bids mbp.asks data.startSequence data.endSequence (previousSequence data.startSequence) book

def createUpdate (stream : MarketData Q) (data : OBUData) (bids asks : List MBPUpdate) (updateType : UpdateType)
    (exchangeSequence : Nat) : MarketByPriceUpdate where
  streamId := stream.streamId
  exchange := config.account.settings.exchange
  symbol := data.symbol
  bids := bids
  asks := asks
  updateType := updateType
  exchangeTimeUtc := data.timestamp
  exchangeSequence := exchangeSequence
  sendingTimeUtc := none

def publish (stream : MarketData Q) (data : OBUData) : SequencerCall → Option MarketByPriceUpdate
  | .publishUpdate bids asks => some (createUpdate config stream data bids asks .incremental data.endSequence)
  | .publishSnapshot bids asks _ lastSequence => some (createUpdate config stream data bids asks .snapshot lastSequence)
  | .requestSnapshot _ => none

def dispatchMarketByPrice (obu : OBU) (book : B) (c : Feed Y Q S B) : Option (Feed Y Q S B) :=
  let mbp := c.shared.getMbp.fillMbp (obu.data.bids.map mbpUpdate) (obu.data.asks.map mbpUpdate)
  (mbp.sequence config obu.data.symbol (obuOperation mbp obu.data book) (publish config c.stream obu.data)).map
    fun shared => {c with shared := shared}

def onOBU (obu : OBU) (book : B) (c : Feed Y Q S B) : Option (Feed Y Q S B) :=
  match obu.depth with
  | .undefinedInternal | .unknownInternal => none
  | .one => some (dispatchTopOfBook config obu c)
  | .increment => dispatchMarketByPrice config obu book c

def step (c : Feed Y Q S B) : MarketDataEvent B → Option (Feed Y Q S B)
  | .timer t now refresh granted => some (onTimer config t now refresh granted c)
  | .connected t => some (onConnected config t c)
  | .disconnected _ => some (onDisconnected c)
  | .welcome _ => some (onWelcome config c)
  | .ticker _ ticker => some (onTicker config ticker c)
  | .trade _ trade => some (onTrade config trade c)
  | .obu _ obu book => onOBU config obu book c
  | .logged => some c
  | .unexpected => none

def eventOf (t : TraceInfo) (book : B) : Parser.Call → MarketDataEvent B
  | .welcome => .welcome t
  | .error _ | .pong | .ack _ => .logged
  | .ticker ticker => .ticker t ticker
  | .trade trade => .trade t trade
  | .obu obu => .obu t obu book
  | .balance | .positionAll | .orderAll => .unexpected

-- An exception ends the process, a message that is not known is logged.
def parse (decoders : Decoders) (t : TraceInfo) (book : B) (message : String) (allowUnknownEventTypes : Bool)
    (c : Feed Y Q S B) : Option (Feed Y Q S B) :=
  match Parser.dispatch decoders message allowUnknownEventTypes with
  | .returned _ none => some c
  | .returned _ (some call) => step config c (eventOf t book call)
  | .thrown _ | .fatal _ => none

end MarketData

namespace OrderEntryREST
open Json

variable {Y S B : Type} {Q : Type → Type} [LimitQueue Q] [Sequencer S B] (config : GatewayConfig)

def mbpUpdate (item : OrderBookAckDataBidsAsksItem) : MBPUpdate := ⟨item.price,item.size⟩

def ackOperation (mbp : Shared Y Q S B) (data : OrderBookAckData) (book : B) : Operation B :=
  .snapshot mbp.bids mbp.asks data.sequence book

-- There is no callback for an update.
def publish (data : OrderBookAckData) : SequencerCall → Option MarketByPriceUpdate
  | .publishSnapshot bids asks _ lastSequence => some {
      streamId := config.account.orderEntryStreamId
      exchange := config.account.settings.exchange
      symbol := data.symbol
      bids := bids
      asks := asks
      updateType := .snapshot
      exchangeTimeUtc := data.ts.toNanoseconds.toInt
      exchangeSequence := lastSequence
      sendingTimeUtc := some data.ts.toNanoseconds.toInt }
  | .publishUpdate _ _ | .requestSnapshot _ => none

def onOrderBookAck (ack : OrderBookAck) (book : B) (shared : Shared Y Q S B) : Option (Shared Y Q S B) :=
  let mbp := shared.getMbp.fillMbp (ack.data.bids.map mbpUpdate) (ack.data.asks.map mbpUpdate)
  mbp.sequence config ack.data.symbol (ackOperation mbp ack.data book) (publish config ack.data)

-- What get_order_book_ack passes on to it.
def orderBookAck (config : Config) (response : Web.Response) : Option OrderBookAck :=
  (processResponse config response (fun _ _ _ _ passed => passed) (fun body _ =>
    match config.platform.orderBookAck body with
    | .error e => (.error e,none)
    | .ok ack => (.ok (),if ack.code = SYSTEM_CODE_SUCCESS then some ack else none)) none).join

end OrderEntryREST
end KucoinPro
