import KucoinPro.MarketData
import KucoinPro.OrderEntryRestMoves

namespace KucoinPro

namespace Controller
variable {Y S B E D R : Type} {Q : Type → Type} [Symbols Y] [LimitQueue Q] (config : GatewayConfig)

def createMarketData (g : Gateway Y Q S B E D R) : Gateway Y Q S B E D R :=
  let index := g.marketData.length
  {g with
    shared := g.shared.emit (.start index)
    marketData := g.marketData ++ [MarketData.create (g.streamId + 1) index]
    streamId := g.streamId + 1}

def createStreams : Nat → Gateway Y Q S B E D R → Gateway Y Q S B E D R
  | 0,g => g
  | count + 1,g => createStreams count (createMarketData g)

def ensureSymbolSlices (size : Nat) (g : Gateway Y Q S B E D R) : Gateway Y Q S B E D R :=
  createStreams (size - g.marketData.length) g

def subscribeStreams (startFrom : Nat) : List (MarketData Q) → Shared Y Q S B → List (MarketData Q) × Shared Y Q S B
  | [],shared => ([],shared)
  | stream :: rest,shared =>
      let c := MarketData.subscribe config startFrom ⟨stream,shared⟩
      let (others,after) := subscribeStreams startFrom rest c.shared
      (c.stream :: others,after)

-- Controller::operator()(Trace<SymbolsUpdate>)
def onSymbolsUpdate (symbols : List String) (g : Gateway Y Q S B E D R) : Gateway Y Q S B E D R :=
  let ((size,startFrom),listed) := Symbols.update symbols g.shared.symbols
  let ensured := ensureSymbolSlices size {g with shared.symbols := listed}
  let (streams,shared) := subscribeStreams config startFrom ensured.marketData ensured.shared
  {ensured with marketData := streams, shared := shared}

end Controller

-- The gateway's thread handles one event after the other. `none` is the end of
-- the process.
namespace MarketSystem
open GuardedRuns

variable {Y S B E D R : Type} {Q : Type → Type} [Symbols Y] [LimitQueue Q] [Sequencer S B]
  [Download2 E OrderEntryREST.State] [Download2 D DropCopy.State] [LimitRequest R] (config : GatewayConfig)

def initial (streamId : Nat) : Gateway Y Q S B E D R where
  shared := {
    depthRequestQueue := LimitQueue.create
    symbols := Symbols.create config.market.wsMaxSubscriptionsPerStream
    bids := []
    asks := []
    mbpSequencer := ∅
    log := [] }
  marketData := []
  streamId := streamId
  account := AccountSystem.initial

def receive (event : GatewayEvent B) (g : Gateway Y Q S B E D R) : Gateway Y Q S B E D R :=
  {g with shared.log := .event event :: g.shared.log}

def onMarketData (index : Nat) (event : MarketDataEvent B) (g : Gateway Y Q S B E D R) : Option (Gateway Y Q S B E D R) :=
  match g.marketData[index]? with
  | none => some g
  | some stream => (MarketData.step config ⟨stream,g.shared⟩ event).map fun c =>
      {g with marketData := g.marketData.set index c.stream, shared := c.shared}

-- The order-book ack that the answer of a request in flight brings.
def passedOn (id : Nat) (response : Web.Response) (w : World E D R) : Option Json.OrderBookAck :=
  match w.inFlight.find? (fun s => s.id == id) with
  | some ⟨_,_,.getOrderBookAck _,_⟩ => OrderEntryREST.orderBookAck config.account response
  | _ => none

def onAccount (event : Event) (granted : Nat) (book : B) (g : Gateway Y Q S B E D R) : Option (Gateway Y Q S B E D R) :=
  match event with
  | .rest (.timer t refresh canRequest findOrder _) =>
      -- check_request_queue hands out symbols only where it is reached
      let (symbols,queue) :=
        if OrderEntryREST.serving config.account refresh g.account then LimitQueue.dispatch t granted g.shared.depthRequestQueue
        else ([],g.shared.depthRequestQueue)
      (AccountSystem.step config.account g.account (.rest (.timer t refresh canRequest findOrder symbols))).map fun account =>
        {g with account := account, shared.depthRequestQueue := queue}
  | .rest (.response t id response) =>
      (AccountSystem.step config.account g.account (.rest (.response t id response))).bind fun account =>
        match passedOn config id response g.account with
        | none => some {g with account := account}
        | some ack => (OrderEntryREST.onOrderBookAck config ack book g.shared).map fun shared =>
            {g with account := account, shared := shared}
  | other => (AccountSystem.step config.account g.account other).map fun account => {g with account := account}

def step (g : Gateway Y Q S B E D R) (event : GatewayEvent B) : Option (Gateway Y Q S B E D R) :=
  let received := receive event g
  match event with
  | .symbolsUpdate symbols => some (Controller.onSymbolsUpdate config symbols received)
  | .marketData index event => onMarketData config index event received
  | .account event granted book => onAccount config event granted book received

-- An event of a stream reaches it, or there is none yet and it is lost.
theorem step_marketData {g after : Gateway Y Q S B E D R} (ran : step config g (.marketData index happened) = some after) :
    (g.marketData[index]? = none ∧ after = receive (.marketData index happened) g) ∨ ∃ stream c,
      g.marketData[index]? = some stream ∧
      MarketData.step config ⟨stream,(receive (.marketData index happened) g).shared⟩ happened = some c ∧
      after = {receive (.marketData index happened) g with
        marketData := g.marketData.set index c.stream, shared := c.shared} := by
  have running : onMarketData config index happened (receive (.marketData index happened) g) = some after := ran
  unfold onMarketData at running
  split at running
  · rename_i missing
    exact .inl ⟨missing,(Option.some.inj running).symm⟩
  · rename_i stream found
    obtain ⟨c,stepped,rfl⟩ := Option.map_eq_some_iff.mp running
    exact .inr ⟨stream,c,found,stepped,rfl⟩

-- The slice of a stream.
def carried (index : Nat) (g : Gateway Y Q S B E D R) : List String := Symbols.getSlice index 0 g.shared.symbols

end MarketSystem
end KucoinPro

-- The smallest gateway, for closed runs. The sequencer asks for a snapshot until
-- it has one, and takes an update that ends before it starts for a bad state.
namespace KucoinPro.Smallest

structure Replica where
  synced : Bool
  last : Nat
  deriving DecidableEq, Repr

instance : Sequencer Replica Unit where
  create := ⟨false,0⟩
  operate
    | .update bids asks startSequence endSequence _ _,replica =>
        if endSequence < startSequence then ⟨[],true,replica⟩
        else if replica.synced then ⟨[.publishUpdate bids asks],false,⟨true,endSequence⟩⟩
        else ⟨[.requestSnapshot 0],false,replica⟩
    | .snapshot bids asks sequence _,replica => ⟨[.publishSnapshot bids asks sequence replica.last],false,⟨true,sequence⟩⟩
  clear _ := ⟨false,0⟩

def market (perStream : Nat) : GatewayConfig where
  account := setup true
  market := ⟨5000000000,perStream,0,false,true⟩

abbrev SmallGateway :=
  Gateway SlicedSymbols List Replica Unit (Stepper OrderEntryREST.State) (Stepper DropCopy.State) Slot

def greet (index : Nat) : GatewayEvent Unit := .marketData index (.welcome t)
def cutOff (index : Nat) : GatewayEvent Unit := .marketData index (.disconnected t)
def connect (index : Nat) : GatewayEvent Unit := .marketData index (.connected t)
def drain (index granted : Nat) : GatewayEvent Unit := .marketData index (.timer t 0 true granted)

def increment (index : Nat) (symbol : String) (startSequence endSequence : Nat) : GatewayEvent Unit :=
  .marketData index (.obu t ⟨0,.increment,⟨[],[],startSequence,endSequence,symbol,0⟩⟩ ())

def served (event : Event) : GatewayEvent Unit := .account event 6 ()

-- The order stream connects and downloads its token.
def logon : List (GatewayEvent Unit) := [served (.rest (.connected t)),served (answer 0 (reply "ok"))]

end KucoinPro.Smallest
