import Mathlib.Data.List.Basic

namespace KucoinPro

-- std::chrono::nanoseconds, for clock values and periods (never negative).
abbrev Nanoseconds := Nat

-- std::chrono::milliseconds of a message, and what the conversion to nanoseconds
-- leaves of it in 64 bits.
structure Milliseconds where
  count : Int64
  deriving DecidableEq, Repr

def Milliseconds.toNanoseconds (duration : Milliseconds) : Int64 := duration.count * 1000000

structure TraceInfo where
  originCreateTime : Nanoseconds
  originCreateTimeUtc : Nanoseconds
  deriving DecidableEq, Repr

-- MessageInfo converts to the trace info that the handlers pass on.
structure MessageInfo where
  source : Nat
  traceInfo : TraceInfo
  deriving DecidableEq, Repr

inductive ConnectionStatus where
  | undefined
  | disconnected
  | loginSent
  | downloading
  | ready
  deriving DecidableEq, Repr

inductive Origin where
  | undefined
  | gateway
  | exchange
  | other (value : Nat)
  deriving DecidableEq, Repr

-- `other` are the enumerators of roq::RequestStatus the gateway never names
-- (timeouts and the like, which only an exception brings in).
inductive RequestStatus where
  | undefined
  | forwarded
  | accepted
  | rejected
  | error
  | other (value : Nat)
  deriving DecidableEq, Repr

def RequestStatus.isFailure : RequestStatus → Bool
  | .rejected | .error | .other _ => true
  | .undefined | .forwarded | .accepted => false

inductive Error where
  | undefined
  | unknown
  | unknownOrderId
  | other (value : Nat)
  deriving DecidableEq, Repr

inductive RequestType where
  | createOrder
  | modifyOrder
  | cancelOrder
  deriving DecidableEq, Repr

inductive Side where
  | undefined
  | buy
  | sell
  deriving DecidableEq, Repr

inductive OrderType where
  | undefined
  | market
  | limit
  deriving DecidableEq, Repr

inductive TimeInForce where
  | undefined | gfd | gtc | opg | ioc | fok | gtx | gtd
  | atTheClose | goodThroughCrossing | atCrossing | goodForTime | gfa | gfm
  deriving DecidableEq, Repr

inductive OrderStatus where
  | undefined
  | suspended
  | accepted
  | working
  | completed
  | canceled
  deriving DecidableEq, Repr

inductive UpdateType where
  | snapshot
  | incremental
  deriving DecidableEq, Repr

inductive SupportType where
  | funds
  | position
  | createOrder
  | cancelOrder
  | orderAck
  | order
  | trade
  | referenceData
  | marketStatus
  | topOfBook
  | marketByPrice
  | tradeSummary
  | statistics
  deriving DecidableEq, Repr

inductive Protocol where
  | http
  | ws
  deriving DecidableEq, Repr

def nan : Float := 0.0 / 0.0

-- What the two order streams and the drop copy publish about themselves; the
-- transport (TCP), encoding (JSON) and priority (PRIMARY) are the same for all.
structure StreamStatus where
  streamId : Nat
  account : String
  supports : List SupportType
  protocol : Protocol
  connectionStatus : ConnectionStatus
  reason : String
  deriving DecidableEq, Repr

-- roq::CreateOrder, the members the encoders and the order streams read.
structure CreateOrder where
  account : String
  orderId : Nat
  symbol : String
  side : Side
  orderType : OrderType
  timeInForce : TimeInForce
  participateDoNotInitiate : Bool
  doNotIncrease : Bool
  quantity : Float
  price : Float
  stopPrice : Float

structure CancelOrder where
  account : String
  orderId : Nat
  version : Nat
  deriving DecidableEq, Repr

structure CancelAllOrders where
  account : String
  orderId : Nat
  exchange : String
  symbol : String
  side : Side
  strategyId : Nat
  deriving DecidableEq, Repr

-- server::oms::Order
structure Order where
  userId : Nat
  orderId : Nat
  symbol : String
  clientOrderId : String
  externalOrderId : String
  deriving DecidableEq, Repr

-- server::oms::RefData, the two precisions
structure RefData where
  quantityPrecision : Nat
  pricePrecision : Nat
  deriving DecidableEq, Repr

-- server::oms::Response
structure Response where
  requestType : RequestType
  origin : Origin
  requestStatus : RequestStatus
  error : Error
  text : String
  version : Nat
  requestId : String
  externalOrderId : String
  clientOrderId : String
  quantity : Float
  price : Float

structure CancelAllOrdersAck where
  streamId : Nat
  account : String
  orderId : Nat
  exchange : String
  symbol : String
  side : Side
  origin : Origin
  requestStatus : RequestStatus
  error : Error
  text : String
  requestId : String
  strategyId : Nat
  deriving DecidableEq, Repr

structure FundsUpdate where
  streamId : Nat
  account : String
  currency : String
  balance : Float
  hold : Float
  borrowed : Float
  unrealizedPnl : Float
  updateType : UpdateType

-- server::oms::OrderUpdate, less the members the source leaves empty.
structure OrderUpdate where
  account : String
  exchange : String
  symbol : String
  side : Side
  maxShowQuantity : Float
  orderType : OrderType
  timeInForce : TimeInForce
  createTimeUtc : Int
  updateTimeUtc : Int
  externalOrderId : String
  clientOrderId : String
  orderStatus : OrderStatus
  quantity : Float
  price : Float
  stopPrice : Float
  leverage : Float
  remainingQuantity : Float
  tradedQuantity : Float
  averageTradedPrice : Float
  lastTradedQuantity : Float
  lastTradedPrice : Float
  updateType : UpdateType

structure PrivateToken where
  account : String
  query : String
  deriving DecidableEq, Repr

-- server::oms::Exception, NetworkError and every other std::exception, with
-- what the catch clauses of process_response read. An exception never stands
-- for an accepted or a pending request.
inductive Exception where
  | oms (origin : Origin) (status : RequestStatus) (error : Error) (what : String) (failed : status.isFailure = true)
  | network (status : RequestStatus) (error : Error) (what : String) (failed : status.isFailure = true)
  | std (what : String)
  deriving Repr

-- The calls of server::OrderActionStream. The symbols of a cancel-all are those
-- get_all_order_symbols calls back with.
inductive OrderAction where
  | createOrder (messageInfo : MessageInfo) (createOrder : CreateOrder) (refData : RefData) (requestId : String)
  | modifyOrder (messageInfo : MessageInfo) (order : Order) (requestId : String)
  | cancelOrder (messageInfo : MessageInfo) (cancelOrder : CancelOrder) (order : Order) (requestId : String)
  | cancelAllOrders (messageInfo : MessageInfo) (cancelAllOrders : CancelAllOrders) (requestId : String) (symbols : List String)

-- What such a call throws back at the server.
inductive ActionError where
  | notReady (what : String)
  | notSupported (what : String)
  deriving DecidableEq, Repr

-- FNV::compute, for what is run on fixed texts.
def fnv (text : String) : Nat :=
  text.toList.foldl (fun hash c => (hash ^^^ c.toNat) * 1099511628211 % UInt64.size) 14695981039346656037

end KucoinPro
