import Mathlib.Data.List.AList
import KucoinPro.AccountSystem
import KucoinPro.History
import KucoinPro.Parser
import KucoinPro.Slices

namespace KucoinPro
open Slices

-- core::Symbols, core::limit::Queue and market::mbp::Sequencer are not part of
-- the repository either.

-- core::Symbols. `listed` are the symbols it was given so far, in their order,
-- `perStream` how many of them make a slice.
class Symbols (Y : Type) where
  create : Nat → Y
  update : List String → Y → (Nat × Nat) × Y
  getSlice : Nat → Nat → Y → List String
  listed : Y → List String
  perStream : Y → Nat

class LawfulSymbols (Y : Type) [Symbols Y] : Prop where
  create_listed : ∀ width, Symbols.listed (Symbols.create width : Y) = []
  create_perStream : ∀ width, Symbols.perStream (Symbols.create width : Y) = width
  update_listed : ∀ symbols (y : Y), Symbols.listed (Symbols.update symbols y).2 = Symbols.listed y ++ symbols
  update_perStream : ∀ symbols (y : Y), Symbols.perStream (Symbols.update symbols y).2 = Symbols.perStream y
  -- the number of slices and the previous total
  update_size : ∀ symbols (y : Y), (Symbols.update symbols y).1.1 =
    slices (Symbols.perStream y) (Symbols.listed y ++ symbols).length
  update_startFrom : ∀ symbols (y : Y), (Symbols.update symbols y).1.2 = (Symbols.listed y).length
  getSlice_eq : ∀ index startFrom (y : Y), Symbols.getSlice index startFrom y =
    slice (Symbols.perStream y) index startFrom (Symbols.listed y)

-- core::limit::Queue. `granted` is what the rate limiter grants for one dispatch.
class LimitQueue (Q : Type → Type) where
  create : {α : Type} → Q α
  items : {α : Type} → Q α → List α
  emplaceBack : {α : Type} → α → Q α → Q α
  dispatch : {α : Type} → TraceInfo → Nat → Q α → List α × Q α

-- First in, first out, each element once.
class LawfulLimitQueue (Q : Type → Type) [LimitQueue Q] : Prop where
  create_items : ∀ {α : Type}, LimitQueue.items (LimitQueue.create : Q α) = []
  emplaceBack_items : ∀ {α : Type} (x : α) (q : Q α), LimitQueue.items (LimitQueue.emplaceBack x q) = LimitQueue.items q ++ [x]
  dispatch_items : ∀ {α : Type} t granted (q : Q α),
    (LimitQueue.dispatch t granted q).1 ++ LimitQueue.items (LimitQueue.dispatch t granted q).2 = LimitQueue.items q
  dispatch_granted : ∀ {α : Type} t granted (q : Q α), (LimitQueue.dispatch t granted q).1.length ≤ granted

-- MBPUpdate, less the members the source leaves empty.
structure MBPUpdate where
  price : Float
  quantity : Float

-- What a sequencer is called with. `book` stands for what the dispatcher makes
-- of a snapshot, which the callback hands back to the sequencer (apply).
inductive Operation (B : Type) where
  | update (bids asks : List MBPUpdate) (startSequence endSequence previousSequence : Nat) (book : B)
  | snapshot (bids asks : List MBPUpdate) (sequence : Nat) (book : B)

-- And what it calls back with, in this order. `lastSequence` is the answer of
-- last_sequence() at that moment.
inductive SequencerCall where
  | publishUpdate (bids asks : List MBPUpdate)
  | publishSnapshot (bids asks : List MBPUpdate) (sequence lastSequence : Nat)
  | requestSnapshot (retries : Nat)

structure Sequenced (S : Type) where
  calls : List SequencerCall
  badState : Bool
  sequencer : S

class Sequencer (S : Type) (B : outParam Type) where
  create : S
  operate : Operation B → S → Sequenced S
  clear : S → S

-- The smallest implementations.
structure SlicedSymbols where
  perStream : Nat
  listed : List String
  deriving DecidableEq, Repr

instance : Symbols SlicedSymbols where
  create width := ⟨width,[]⟩
  update symbols y := ((slices y.perStream (y.listed ++ symbols).length,y.listed.length),{y with listed := y.listed ++ symbols})
  getSlice index startFrom y := slice y.perStream index startFrom y.listed
  listed := SlicedSymbols.listed
  perStream := SlicedSymbols.perStream

instance : LawfulSymbols SlicedSymbols := by
  constructor <;> intros <;> rfl

instance : LimitQueue List where
  create := []
  items := id
  emplaceBack x q := q ++ [x]
  dispatch _ granted q := (q.take granted,q.drop granted)

instance : LawfulLimitQueue List where
  create_items := rfl
  emplaceBack_items _ _ := rfl
  dispatch_items _ granted q := List.take_append_drop granted q
  dispatch_granted _ granted q := List.length_take_le granted q

structure TopOfBook where
  streamId : Nat
  exchange : String
  symbol : String
  bidPrice : Float
  bidQuantity : Float
  askPrice : Float
  askQuantity : Float
  updateType : UpdateType
  exchangeTimeUtc : Int
  exchangeSequence : Nat
  sendingTimeUtc : Int

structure TradeSummary where
  streamId : Nat
  exchange : String
  symbol : String
  side : Side
  price : Float
  quantity : Float
  tradeId : String
  exchangeTimeUtc : Int
  exchangeSequence : Nat
  sendingTimeUtc : Int

-- `sendingTimeUtc` is empty where the source leaves it so.
structure MarketByPriceUpdate where
  streamId : Nat
  exchange : String
  symbol : String
  bids : List MBPUpdate
  asks : List MBPUpdate
  updateType : UpdateType
  exchangeTimeUtc : Int
  exchangeSequence : Nat
  sendingTimeUtc : Option Int

structure Topic where
  channel : String
  depth : Option String
  deriving DecidableEq, Repr

-- A message of subscribe_queue_.
structure Subscription where
  id : Nat
  topic : Topic
  symbol : String
  deriving DecidableEq, Repr

def Subscription.text (subscription : Subscription) : String :=
  "\x7b\"id\":\"" ++ toString subscription.id ++ "\",\"action\":\"SUBSCRIBE\",\"channel\":\"" ++ subscription.topic.channel ++
    "\",\"tradeType\":\"FUTURES\",\"symbol\":\"" ++ subscription.symbol ++ "\"" ++
    (match subscription.topic.depth with
      | none => "\x7d"
      | some depth => ",\"depth\":\"" ++ depth ++ "\",\"rpiFilter\":0\x7d")

inductive Message where
  | subscribe (subscription : Subscription)
  | ping (now : Nanoseconds)
  deriving DecidableEq, Repr

def Message.text : Message → String
  | .subscribe subscription => subscription.text
  | .ping now => "\x7b\"id\":" ++ toString now ++ ",\"type\":\"ping\"\x7d"

structure MarketSettings where
  wsPingFreq : Nanoseconds
  wsMaxSubscriptionsPerStream : Nat
  wsMbpRequestMaxRetries : Nat
  miscTopOfBookFromTicker : Bool
  miscExperimentalEnableMbp : Bool

-- `account` is that of the master account.
structure GatewayConfig where
  account : Config
  market : MarketSettings

inductive MarketDataEvent (B : Type) where
  | timer (traceInfo : TraceInfo) (now : Nanoseconds) (refresh : Bool) (granted : Nat)
  | connected (traceInfo : TraceInfo)
  | disconnected (traceInfo : TraceInfo)
  | welcome (traceInfo : TraceInfo)
  | ticker (traceInfo : TraceInfo) (ticker : Json.Ticker)
  | trade (traceInfo : TraceInfo) (trade : Json.Trade)
  | obu (traceInfo : TraceInfo) (obu : Json.OBU) (book : B)
  -- Ready, Close, Latency, Error, Pong and Ack
  | logged
  -- Text, Balance, PositionAll, OrderAll and what the parser throws at
  | unexpected

-- `granted` is what the rate limiter grants depth_request_queue when a timer of
-- the order stream dispatches it.
inductive GatewayEvent (B : Type) where
  | symbolsUpdate (symbols : List String)
  | marketData (index : Nat) (event : MarketDataEvent B)
  | account (event : Event) (granted : Nat) (book : B)

inductive MarketEffect (B : Type) where
  | start (index : Nat)
  | queued (index : Nat) (subscription : Subscription)
  | sendText (index : Nat) (message : Message)
  | close (index : Nat)
  | streamStatus (streamStatus : StreamStatus)
  | topOfBook (topOfBook : TopOfBook)
  | tradeSummary (tradeSummary : TradeSummary)
  | marketByPriceUpdate (marketByPriceUpdate : MarketByPriceUpdate)
  -- what is done to the sequencer of a symbol, and what is asked for it
  | operated (symbol : String) (operation : Operation B)
  | cleared (symbol : String)
  | erased (symbols : List String)
  | requested (symbol : String)

inductive MarketEntry (B : Type) where
  | event (event : GatewayEvent B)
  | effect (effect : MarketEffect B)

-- Less all_symbols, which belongs to those who forward symbols. The log is not a
-- member: it is what has happened so far, newest first.
structure Shared (Y : Type) (Q : Type → Type) (S B : Type) where
  depthRequestQueue : Q String
  symbols : Y
  bids : List MBPUpdate
  asks : List MBPUpdate
  mbpSequencer : AList fun _ : String => S
  log : List (MarketEntry B)

structure MarketData (Q : Type → Type) where
  streamId : Nat
  index : Nat
  requestId : Nat
  welcome : Bool
  connectionStatus : ConnectionStatus
  logonTimeout : Nanoseconds
  nextPing : Nanoseconds
  subscribeQueue : Q Subscription

-- What the handlers of one stream read and write.
structure Feed (Y : Type) (Q : Type → Type) (S B : Type) where
  stream : MarketData Q
  shared : Shared Y Q S B

-- The controller: its market data streams and one account, that of the master.
structure Gateway (Y : Type) (Q : Type → Type) (S B E D R : Type) where
  shared : Shared Y Q S B
  marketData : List (MarketData Q)
  streamId : Nat
  account : World E D R

namespace Shared
variable {Y S B : Type} {Q : Type → Type}

def emit (effect : MarketEffect B) (shared : Shared Y Q S B) : Shared Y Q S B :=
  {shared with log := .effect effect :: shared.log}

-- The buffer is handed out empty.
def getMbp (shared : Shared Y Q S B) : Shared Y Q S B := {shared with bids := [], asks := []}

-- The loops over the levels of a message (emplace_back).
def fillMbp (bids asks : List MBPUpdate) (shared : Shared Y Q S B) : Shared Y Q S B :=
  {shared with bids := shared.bids ++ bids, asks := shared.asks ++ asks}

variable [LimitQueue Q]

def requestDepth (symbol : String) (shared : Shared Y Q S B) : Shared Y Q S B :=
  {shared with depthRequestQueue := LimitQueue.emplaceBack symbol shared.depthRequestQueue}.emit (.requested symbol)

end Shared

namespace Feed
variable {Y S B : Type} {Q : Type → Type}

def emit (effect : MarketEffect B) (c : Feed Y Q S B) : Feed Y Q S B := {c with shared := c.shared.emit effect}

end Feed
end KucoinPro
