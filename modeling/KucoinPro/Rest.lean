import Mathlib.Data.Finset.Insert
import KucoinPro.MarketSystem

namespace KucoinPro

-- The values its map comes to.
inductive SecurityType where
  | undefined
  | swap
  deriving DecidableEq, Repr

namespace Json

inductive TradeType where
  | undefinedInternal | unknownInternal | futures
  deriving DecidableEq, Repr

def TradeType.map : TradeType → SecurityType
  | .undefinedInternal | .unknownInternal => .undefined
  | .futures => .swap

structure InstrumentAckDataListItem where
  symbol : String
  baseCurrency : String
  quoteCurrency : String
  maxBaseOrderSize : Float
  tickSize : Float
  launchTime : Int
  expiryTime : Int
  settlementTime : Int
  lotSize : Float

structure InstrumentAckData where
  tradeType : TradeType
  list : List InstrumentAckDataListItem

-- Nothing reads the data of the currencies.
abbrev CurrenciesAck := Envelope Unit
abbrev InstrumentAck := Envelope InstrumentAckData

end Json

-- ReferenceData, less the members the source leaves empty.
structure ReferenceData where
  streamId : Nat
  exchange : String
  symbol : String
  securityType : SecurityType
  baseCurrency : String
  quoteCurrency : String
  tickSize : Float
  minTradeVol : Float
  maxTradeVol : Float
  tradeVolStepSize : Float
  issueDate : Int
  settlementDate : Int
  expiryDatetimeUtc : Int
  discard : Bool

inductive Rest.State where
  | undefined
  | currencies
  | instrument
  | done
  deriving DecidableEq, Repr

namespace Rest.State

def name : State → String
  | undefined => "UNDEFINED"
  | currencies => "CURRENCIES"
  | instrument => "INSTRUMENT"
  | done => "DONE"

def next : State → State
  | undefined => currencies
  | currencies => instrument
  | instrument | done => done

def remaining : State → Nat
  | undefined => 3
  | currencies => 2
  | instrument => 1
  | done => 0

instance : StagedWalk.Stages State where
  undefined := undefined
  first := currencies
  done := done
  next := next
  remaining := remaining
  remaining_next s working := by cases s <;> first | exact absurd rfl working | decide

end Rest.State

-- The settings and the generated decoders that the stream reads. The casts are
-- utils::safe_cast, by the member they fill.
structure RestConfig where
  streamId : Nat
  exchange : String
  currenciesAck : String → Except Exception Json.CurrenciesAck
  instrumentAck : String → Except Exception Json.InstrumentAck
  issueDate : Int → Except Exception Int
  settlementDate : Int → Except Exception Int
  expiryDatetimeUtc : Int → Except Exception Int
  formatStatus : Nat → String

inductive RestCallback where
  | getCurrenciesAck (sequence : Nat)
  | getInstrumentAck (sequence : Nat)
  deriving DecidableEq, Repr

structure RestSubmission where
  id : Nat
  request : Web.Request
  callback : RestCallback
  requestId : String
  deriving DecidableEq, Repr

-- What the dispatcher and the list of new symbols answer while an item is
-- processed: each of them may throw.
structure ItemAnswer where
  discardSymbol : Except Exception Bool
  referenceData : Except Exception Unit
  emplaceBack : Except Exception Unit

-- `answers` are those for the items of the list, by their position.
inductive RestEvent (ε : Type) where
  | connected (traceInfo : TraceInfo)
  | disconnected (traceInfo : TraceInfo)
  | response (traceInfo : TraceInfo) (id : Nat) (response : Web.Response) (answers : Nat → ItemAnswer)
  | subscribe (symbols : List String)
  | controller (event : ε)
  -- Timer and Latency
  | logged

inductive RestEffect where
  | submit (submission : RestSubmission)
  | streamStatus (streamStatus : StreamStatus)
  | currenciesAck (currenciesAck : Json.CurrenciesAck)
  | instrumentAck (instrumentAck : Json.InstrumentAck)
  | referenceData (referenceData : ReferenceData)
  | symbolsUpdate (symbols : List String)

structure Rest (F : Type) where
  connectionStatus : ConnectionStatus
  download : F

-- Those who forward symbols, and the controller that they forward them to. The
-- log is what has happened so far, newest first.
structure RestWorld (F σ : Type) where
  rest : Rest F
  allSymbols : Finset String
  controller : σ
  inFlight : List RestSubmission
  submitted : Nat
  log : List RestEffect

-- What the controller does with a SymbolsUpdate, and with everything else.
structure Receiver (σ ε : Type) where
  onSymbolsUpdate : List String → σ → Except Exception Unit × σ
  step : σ → ε → Option σ

namespace RestWorld
variable {F σ : Type}

def emit (effect : RestEffect) (w : RestWorld F σ) : RestWorld F σ := {w with log := effect :: w.log}

def submit (request : Web.Request) (callback : RestCallback) (requestId : String) (w : RestWorld F σ) : RestWorld F σ :=
  {w with
    inFlight := ⟨w.submitted,request,callback,requestId⟩ :: w.inFlight
    submitted := w.submitted + 1
    log := .submit ⟨w.submitted,request,callback,requestId⟩ :: w.log}

end RestWorld

namespace Rest
open StagedWalk Json

variable {F σ ε : Type} [Download2 F State] (config : RestConfig)

def SUPPORTS : List SupportType := [.referenceData]

def onConnectionStatus (status : ConnectionStatus) (reason : String) (w : RestWorld F σ) : RestWorld F σ :=
  {w with rest.connectionStatus := status}.emit (.streamStatus {
    streamId := config.streamId
    account := ""
    supports := SUPPORTS
    protocol := .http
    connectionStatus := status
    reason := reason })

def isDownloading (w : RestWorld F σ) : Bool := Download2.downloading w.rest.download

def withDownload (result : F × RestWorld F σ) : RestWorld F σ := {result.2 with rest.download := result.1}

-- The catch clauses know fewer exceptions than those of the order stream.
def catchException {τ : Type} (errorHandler : Origin → RequestStatus → Error → String → τ → τ) : Exception → τ → τ
  | .network status error what _ => errorHandler .gateway status error what
  | .oms _ _ _ what _ | .std what => errorHandler .exchange .error .unknown what

def finish {τ : Type} (errorHandler : Origin → RequestStatus → Error → String → τ → τ) : Except Exception Unit × τ → τ
  | (.ok _,after) => after
  | (.error e,after) => catchException errorHandler e after

def processResponse {τ : Type} (response : Web.Response)
    (errorHandler : Origin → RequestStatus → Error → String → τ → τ)
    (successHandler : String → τ → Except Exception Unit × τ) (w : τ) : Option τ :=
  match response.result with
  | .error e => some (catchException errorHandler e w)
  | .ok r =>
    match r.category with
    | .unknown | .informationalResponse => some (finish errorHandler (response.expect r,w))
    | .success | .clientError => some (finish errorHandler (successHandler r.body w))
    | .redirection => none
    | .serverError => some (errorHandler .exchange .rejected .unknown (config.formatStatus r.status) w)

-- download

def getRequest (path query : String) : Web.Request where
  method := .get
  path := path
  query := query
  accept := .applicationJson
  contentType := .undefined
  headers := ""
  body := ""
  qualityOfService := .undefined

def getCurrencies (sequence : Nat) (w : RestWorld F σ) : RestWorld F σ :=
  w.submit (getRequest API.restPublic.assetCurrencies "") (.getCurrenciesAck sequence) "currencies"

def getInstrument (sequence : Nat) (w : RestWorld F σ) : RestWorld F σ :=
  w.submit (getRequest API.restPublic.marketInstrument "?tradeType=FUTURES") (.getInstrumentAck sequence) "instrument"

def onDownload (walker : F) (state : State) (w : RestWorld F σ) : Int × RestWorld F σ :=
  match state with
  | .undefined => (0,w)
  | .currencies => (1,getCurrencies (Walker.sequence walker) (onConnectionStatus config .downloading state.name w))
  | .instrument => (1,getInstrument (Walker.sequence walker) (onConnectionStatus config .downloading state.name w))
  | .done => (0,onConnectionStatus config .ready "" w)

def retry (state : State) (w : RestWorld F σ) : RestWorld F σ :=
  withDownload (Download2.retry (onDownload config) state w.rest.download w)

def check (state : State) (w : RestWorld F σ) : RestWorld F σ :=
  withDownload (Download2.check (onDownload config) state w.rest.download w)

-- The acknowledgements of both requests: what is superseded is skipped, what
-- fails is retried, and what is handled without an exception goes on.
def getAck {α : Type} (decode : String → Except Exception (Envelope α))
    (handler : Envelope α → RestWorld F σ → Except Exception Unit × RestWorld F σ) (state : State) (sequence : Nat)
    (response : Web.Response) (w : RestWorld F σ) : Option (RestWorld F σ) :=
  processResponse config response (fun _ _ _ _ w => retry config state w) (fun body w =>
    if Download2.skip sequence state w.rest.download then (.ok (),w)
    else match decode body with
      | .error e => (.error e,w)
      | .ok ack =>
          if ack.code = SYSTEM_CODE_SUCCESS then
            match handler ack w with
            | (.error e,after) => (.error e,after)
            | (.ok _,after) => (.ok (),check config state after)
          else (.ok (),retry config state w)) w

-- currencies

def onCurrenciesAck (ack : CurrenciesAck) (w : RestWorld F σ) : Except Exception Unit × RestWorld F σ :=
  (.ok (),w.emit (.currenciesAck ack))

def getCurrenciesAck : Nat → Web.Response → RestWorld F σ → Option (RestWorld F σ) :=
  getAck config config.currenciesAck onCurrenciesAck .currencies

-- instrument

def referenceData (tradeType : TradeType) (item : InstrumentAckDataListItem) (discard : Bool) : Except Exception ReferenceData := do
  let issueDate ← config.issueDate item.launchTime
  let settlementDate ← config.settlementDate item.settlementTime
  let expiryDatetimeUtc ← config.expiryDatetimeUtc item.expiryTime
  return {
    streamId := config.streamId
    exchange := config.exchange
    symbol := item.symbol
    securityType := tradeType.map
    baseCurrency := item.baseCurrency
    quoteCurrency := item.quoteCurrency
    tickSize := item.tickSize
    minTradeVol := item.lotSize
    maxTradeVol := item.maxBaseOrderSize
    tradeVolStepSize := item.lotSize
    issueDate := issueDate
    settlementDate := settlementDate
    expiryDatetimeUtc := expiryDatetimeUtc
    discard := discard }

-- One turn of the loop: the symbol it puts into the list, if it is a new one.
def onItem (tradeType : TradeType) (answer : ItemAnswer) (item : InstrumentAckDataListItem) (w : RestWorld F σ) :
    Except Exception (Option String) × RestWorld F σ :=
  match answer.discardSymbol with
  | .error e => (.error e,w)
  | .ok discard =>
    match referenceData config tradeType item discard with
    | .error e => (.error e,w)
    | .ok referenceData =>
      let dispatched := w.emit (.referenceData referenceData)
      match answer.referenceData with
      | .error e => (.error e,dispatched)
      | .ok _ =>
        if discard then (.ok none,dispatched)
        else if item.symbol ∈ dispatched.allSymbols then (.ok none,dispatched)
        else
          let emplaced := {dispatched with allSymbols := insert item.symbol dispatched.allSymbols}
          match answer.emplaceBack with
          | .error e => (.error e,emplaced)
          | .ok _ => (.ok (some item.symbol),emplaced)

def onItems (tradeType : TradeType) (answers : Nat → ItemAnswer) :
    Nat → List InstrumentAckDataListItem → List String → RestWorld F σ → Except Exception (List String) × RestWorld F σ
  | _,[],symbols,w => (.ok symbols,w)
  | index,item :: rest,symbols,w =>
    match onItem config tradeType (answers index) item w with
    | (.error e,after) => (.error e,after)
    | (.ok added,after) => onItems tradeType answers (index + 1) rest (symbols ++ added.toList) after

-- An exception of the controller passes through.
def dispatchSymbolsUpdate (receiver : Receiver σ ε) (symbols : List String) (w : RestWorld F σ) :
    Except Exception Unit × RestWorld F σ :=
  let (outcome,controller) := receiver.onSymbolsUpdate symbols w.controller
  (outcome,{w with controller := controller}.emit (.symbolsUpdate symbols))

def onInstrumentAck (receiver : Receiver σ ε) (answers : Nat → ItemAnswer) (ack : InstrumentAck) (w : RestWorld F σ) :
    Except Exception Unit × RestWorld F σ :=
  match onItems config ack.data.tradeType answers 0 ack.data.list [] (w.emit (.instrumentAck ack)) with
  | (.error e,after) => (.error e,after)
  | (.ok symbols,after) => if symbols = [] then (.ok (),after) else dispatchSymbolsUpdate receiver symbols after

def getInstrumentAck (receiver : Receiver σ ε) (answers : Nat → ItemAnswer) :
    Nat → Web.Response → RestWorld F σ → Option (RestWorld F σ) :=
  getAck config config.instrumentAck (onInstrumentAck config receiver answers) .instrument

-- connection

def onConnected (w : RestWorld F σ) : RestWorld F σ :=
  if isDownloading w then withDownload (Download2.bump (onDownload config) w.rest.download w)
  else withDownload (Download2.begin (onDownload config) w.rest.download w)

def onDisconnected (w : RestWorld F σ) : RestWorld F σ :=
  let published := onConnectionStatus config .disconnected "" w
  if isDownloading published then published else {published with rest.download := Download2.reset published.rest.download}

def onResponse (receiver : Receiver σ ε) (id : Nat) (response : Web.Response) (answers : Nat → ItemAnswer)
    (w : RestWorld F σ) : Option (RestWorld F σ) :=
  match w.inFlight.find? (fun s => s.id == id) with
  | none => some w
  | some submission =>
      let answered := {w with inFlight := w.inFlight.eraseP fun s => s.id == id}
      match submission.callback with
      | .getCurrenciesAck sequence => getCurrenciesAck config sequence response answered
      | .getInstrumentAck sequence => getInstrumentAck config receiver answers sequence response answered

end Rest

namespace Controller
variable {F σ ε : Type}

def emplace (c : List String × Finset String) (symbol : String) : List String × Finset String :=
  if symbol ∈ c.2 then c else (c.1 ++ [symbol],insert symbol c.2)

-- Controller::operator()(Event<Subscribe>)
def onSubscribe (receiver : Receiver σ ε) (symbols : List String) (w : RestWorld F σ) : Except Exception Unit × RestWorld F σ :=
  let (added,allSymbols) := symbols.foldl emplace ([],w.allSymbols)
  Rest.dispatchSymbolsUpdate receiver added {w with allSymbols := allSymbols}

end Controller

-- The gateway's thread as those who forward symbols see it. `none` is the end of
-- the process, also where an exception leaves the handler of a Subscribe.
namespace RestSystem
variable {F σ ε : Type} [Download2 F Rest.State] (config : RestConfig) (receiver : Receiver σ ε)

def initial (controller : σ) : RestWorld F σ where
  rest := ⟨.undefined,Download2.create⟩
  allSymbols := ∅
  controller := controller
  inFlight := []
  submitted := 0
  log := []

def step (w : RestWorld F σ) : RestEvent ε → Option (RestWorld F σ)
  | .connected _ => some (Rest.onConnected config w)
  | .disconnected _ => some (Rest.onDisconnected config w)
  | .response _ id response answers => Rest.onResponse config receiver id response answers w
  | .subscribe symbols =>
      match Controller.onSubscribe receiver symbols w with
      | (.ok _,after) => some after
      | (.error _,_) => none
  | .controller event => (receiver.step w.controller event).map fun controller => {w with controller := controller}
  | .logged => some w

end RestSystem

namespace MarketSystem
variable {Y S B E D R : Type} {Q : Type → Type} [Symbols Y] [LimitQueue Q] [Sequencer S B]
  [Download2 E OrderEntryREST.State] [Download2 D DropCopy.State] [LimitRequest R] (config : GatewayConfig)

-- The gateway as the one that gets the updates. Nothing that is modelled of it
-- throws.
def receiver : Receiver (Gateway Y Q S B E D R) (GatewayEvent B) where
  onSymbolsUpdate symbols g := (.ok (),Controller.onSymbolsUpdate config symbols (receive (.symbolsUpdate symbols) g))
  step := step config

end MarketSystem
end KucoinPro

-- For closed runs: one list of instruments, and answers that throw at the first
-- item, at the second or not at all.
namespace KucoinPro.Smallest

def instrument (symbol : String) : Json.InstrumentAckDataListItem := ⟨symbol,"XBT","USDT",1,1,0,0,0,1⟩

def reference : RestConfig where
  streamId := 1
  exchange := "kucoin"
  currenciesAck := decode ()
  instrumentAck := decode ⟨.futures,[instrument "A",instrument "B",instrument "A"]⟩
  issueDate := .ok
  settlementDate := .ok
  expiryDatetimeUtc := .ok
  formatStatus status := toString status

def throwing (position : Nat) (index : Nat) : ItemAnswer :=
  ⟨.ok false,if index = position then .error (.std "reference data") else .ok (),.ok ()⟩

abbrev SmallRest := RestWorld (Stepper Rest.State) SmallGateway

def attach : RestEvent (GatewayEvent Unit) := .connected t

-- `position` is that of the item that throws, 3 is behind the last.
def listed (number position : Nat) : RestEvent (GatewayEvent Unit) := .response t number (reply "ok") (throwing position)

end KucoinPro.Smallest
