import KucoinPro.Types

namespace KucoinPro.Json

def SYSTEM_CODE_SUCCESS : Int := 200000

inductive Side where
  | undefinedInternal | unknownInternal | buyLc | sellLc | buy | sell
  deriving DecidableEq, Repr

inductive OrderType where
  | undefinedInternal | unknownInternal | market | limit
  deriving DecidableEq, Repr

inductive TimeInForce where
  | undefinedInternal | unknownInternal | gtc | ioc | fok | gtt | rti
  deriving DecidableEq, Repr

def Side.map : Side → KucoinPro.Side
  | .undefinedInternal | .unknownInternal => .undefined
  | .buyLc | .buy => .buy
  | .sellLc | .sell => .sell

def OrderType.map : OrderType → KucoinPro.OrderType
  | .undefinedInternal | .unknownInternal => .undefined
  | .market => .market
  | .limit => .limit

def TimeInForce.map : TimeInForce → KucoinPro.TimeInForce
  | .undefinedInternal | .unknownInternal => .undefined
  | .gtc => .gtc
  | .ioc => .ioc
  | .fok => .fok
  | .gtt | .rti => .undefined

-- int32_t => roq::OrderStatus; the only map that is not total.
def mapOrderStatus : Int → Option OrderStatus
  | 0 => some .suspended
  | 1 => some .accepted
  | 2 => some .working
  | 3 => some .completed
  | 4 => some .working
  | 5 => some .canceled
  | 6 => some .canceled
  | _ => none

def guessError (_code : Int) : Error := .unknown

def isAuthError (code : Int) : Bool :=
  code == 400001 || code == 400002 || code == 400003 || code == 400004 || code == 400005 || code == 400006

-- The acknowledgements of the private REST end-points share one outer shape.
structure Envelope (α : Type) where
  code : Int
  msg : String
  data : α
  deriving DecidableEq, Repr

structure TokenData where
  token : String
  deriving DecidableEq, Repr

structure AccountAckDataAccountsItemCurrenciesItem where
  currency : String
  hold : Float
  balance : Float

structure AccountAckDataAccountsItem where
  currencies : List AccountAckDataAccountsItemCurrenciesItem

structure AccountAckData where
  accounts : List AccountAckDataAccountsItem

structure PositionAckDataItem where
  symbol : String
  size : Float

structure OrdersAckDataItemsItem where
  orderId : String
  symbol : String
  orderType : OrderType
  side : Side
  size : Float
  price : Float
  timeInForce : TimeInForce
  orderTime : Int
  filledSize : Float
  avgPrice : Float
  updatedTime : Milliseconds
  clientOid : String
  status : Int

structure OrdersAckData where
  pageNumber : Int
  pageSize : Int
  totalNum : Int
  totalPage : Int
  items : List OrdersAckDataItemsItem

structure ExecutionAckDataItemsItem where
  symbol : String
  orderId : String
  tradeId : String
  size : Float
  price : Float

structure ExecutionAckData where
  items : List ExecutionAckDataItemsItem

structure AddOrderAckData where
  orderId : String
  clientOid : String
  deriving DecidableEq, Repr

structure CancelOrderAckData where
  cancelledOrderIds : List String
  deriving DecidableEq, Repr

structure CancelAllOrdersAckData where
  cancelledOrderIds : List String
  deriving DecidableEq, Repr

structure OrderBookAckDataBidsAsksItem where
  price : Float
  size : Float

structure OrderBookAckData where
  sequence : Nat
  symbol : String
  bids : List OrderBookAckDataBidsAsksItem
  asks : List OrderBookAckDataBidsAsksItem
  ts : Milliseconds

structure OrderBookAck where
  code : Int
  data : OrderBookAckData

abbrev Token := Envelope TokenData
abbrev AccountAck := Envelope AccountAckData
abbrev PositionAck := Envelope (List PositionAckDataItem)
abbrev OrdersAck := Envelope OrdersAckData
abbrev ExecutionAck := Envelope ExecutionAckData
abbrev AddOrderAck := Envelope AddOrderAckData
abbrev CancelOrderAck := Envelope CancelOrderAckData
abbrev CancelAllOrdersAck := Envelope CancelAllOrdersAckData

-- The messages of the private websocket that the drop copy acts upon.
structure Ack where
  id : String
  result : Bool
  deriving DecidableEq, Repr

structure ErrorMessage where
  code : Int
  data : String
  id : String
  deriving DecidableEq, Repr

-- The messages of the websocket API for orders. Intervals are milliseconds.
inductive WSOp where
  | undefinedInternal | unknownInternal | pong | addOrderAck | cancelOrderAck
  deriving DecidableEq, Repr

structure WSMessage where
  sessionId : String
  pingInterval : Nat
  code : Int
  op : WSOp
  deriving DecidableEq, Repr

structure WSAuth where
  sessionId : String
  deriving DecidableEq, Repr

structure WSWelcome where
  sessionId : String
  pingInterval : Nat
  deriving DecidableEq, Repr

structure WSError where
  code : Int
  msg : String
  id : String
  op : WSOp
  deriving DecidableEq, Repr

structure WSPong where
  id : String
  deriving DecidableEq, Repr

structure WSAddOrderAckData where
  orderId : String
  clientOid : String
  deriving DecidableEq, Repr

structure WSAddOrderAck where
  id : String
  data : WSAddOrderAckData
  deriving DecidableEq, Repr

structure WSCancelOrderAckData where
  orderId : String
  clientOid : String
  deriving DecidableEq, Repr

structure WSCancelOrderAck where
  id : String
  data : WSCancelOrderAckData
  deriving DecidableEq, Repr

-- The generated decoders that WSParser calls.
structure WSDecoders where
  message : String → Except Exception WSMessage
  auth : String → Except Exception WSAuth
  welcome : String → Except Exception WSWelcome
  error : String → Except Exception WSError
  pong : String → Except Exception WSPong
  addOrderAck : String → Except Exception WSAddOrderAck
  cancelOrderAck : String → Except Exception WSCancelOrderAck

namespace WSParser

def CODE_SUCCESS : Int := 200000

-- The calls of WSParser::Handler.
inductive Call where
  | auth (auth : WSAuth) (message : String)
  | welcome (welcome : WSWelcome)
  | error (error : WSError)
  | pong (pong : WSPong)
  | addOrderAck (addOrderAck : WSAddOrderAck)
  | cancelOrderAck (cancelOrderAck : WSCancelOrderAck)
  deriving DecidableEq, Repr

-- `none` is what ends the process: log::fatal, and an exception of a decoder.
def dispatch (decoders : WSDecoders) (message : String) : Option Call :=
  let error := (decoders.error message).toOption.map Call.error
  (decoders.message message).toOption.bind fun outer =>
    if outer.sessionId = "" then
      match outer.op with
      | .undefinedInternal => error
      | .unknownInternal => none
      | .pong => (decoders.pong message).toOption.map .pong
      | .addOrderAck =>
          if outer.code ≠ CODE_SUCCESS then error else (decoders.addOrderAck message).toOption.map .addOrderAck
      | .cancelOrderAck =>
          if outer.code ≠ CODE_SUCCESS then error else (decoders.cancelOrderAck message).toOption.map .cancelOrderAck
    else if outer.pingInterval ≠ 0 then (decoders.welcome message).toOption.map .welcome
    else (decoders.auth message).toOption.map fun auth => .auth auth message

end WSParser
end KucoinPro.Json

namespace KucoinPro

def Side.map : Side → Json.Side
  | .undefined => .undefinedInternal
  | .buy => .buy
  | .sell => .sell

def OrderType.map : OrderType → Json.OrderType
  | .undefined => .undefinedInternal
  | .market => .market
  | .limit => .limit

def TimeInForce.map : TimeInForce → Json.TimeInForce
  | .gtc => .gtc
  | .ioc => .ioc
  | .fok => .fok
  | .undefined | .gfd | .opg | .gtx | .gtd | .atTheClose | .goodThroughCrossing | .atCrossing | .goodForTime | .gfa | .gfm =>
    .undefinedInternal

-- The functions the gateway calls that are not in the repository: the generated
-- decoders, Decimal, as_raw_text of the two internal enumerators, the format of
-- web::http::Status, utils::is_equal and what Map::get makes of a missing value.
structure Platform where
  token : String → Except Exception Json.Token
  accountAck : String → Except Exception Json.AccountAck
  positionAck : String → Except Exception Json.PositionAck
  ordersAck : String → Except Exception Json.OrdersAck
  executionAck : String → Except Exception Json.ExecutionAck
  addOrderAck : String → Except Exception Json.AddOrderAck
  cancelOrderAck : String → Except Exception Json.CancelOrderAck
  cancelAllOrdersAck : String → Except Exception Json.CancelAllOrdersAck
  orderBookAck : String → Except Exception Json.OrderBookAck
  decimal : Float → Nat → String
  undefinedRawText : String
  unknownRawText : String
  formatStatus : Nat → String
  enumNameError : Error → String
  isEqual : Float → Float → Bool
  getOrderStatus : Option OrderStatus → Except Exception OrderStatus
  getOrderStatus_some : ∀ status, getOrderStatus (some status) = .ok status

def Json.Side.asRawText (platform : Platform) : Json.Side → String
  | .undefinedInternal => platform.undefinedRawText
  | .unknownInternal => platform.unknownRawText
  | .buyLc => "buy"
  | .sellLc => "sell"
  | .buy => "BUY"
  | .sell => "SELL"

def Json.OrderType.asRawText (platform : Platform) : Json.OrderType → String
  | .undefinedInternal => platform.undefinedRawText
  | .unknownInternal => platform.unknownRawText
  | .market => "MARKET"
  | .limit => "LIMIT"

def Json.TimeInForce.asRawText (platform : Platform) : Json.TimeInForce → String
  | .undefinedInternal => platform.undefinedRawText
  | .unknownInternal => platform.unknownRawText
  | .gtc => "GTC"
  | .ioc => "IOC"
  | .fok => "FOK"
  | .gtt => "GTT"
  | .rti => "RTI"

namespace Encoder

def addOrder (platform : Platform) (createOrder : CreateOrder) (refData : RefData) (requestId : String) : String :=
  let head := "\x7b\"tradeType\":\"FUTURES\",\"clientOid\":\"" ++ requestId ++ "\",\"symbol\":\"" ++ createOrder.symbol ++
    "\",\"side\":\"" ++ createOrder.side.map.asRawText platform ++
    "\",\"orderType\":\"" ++ createOrder.orderType.map.asRawText platform ++ "\""
  let postOnly := if createOrder.participateDoNotInitiate then ",\"postOnly\":true" else ""
  let reduceOnly := if createOrder.doNotIncrease then "true" else "false"
  let quantity := platform.decimal createOrder.quantity refData.quantityPrecision
  let tail := match createOrder.orderType with
    | .undefined => ""
    | .market => ",\"reduceOnly\":" ++ reduceOnly ++ ",\"size\":\"" ++ quantity ++ "\",\"sizeUnit\":\"UNIT\""
    | .limit => ",\"timeInForce\":\"" ++ createOrder.timeInForce.map.asRawText platform ++
        "\",\"reduceOnly\":" ++ reduceOnly ++ ",\"size\":\"" ++ quantity ++
        "\",\"price\":\"" ++ platform.decimal createOrder.price refData.pricePrecision ++ "\",\"sizeUnit\":\"UNIT\""
  head ++ postOnly ++ tail ++ "\x7d"

def cancelOrder (order : Order) : String :=
  if order.externalOrderId = "" then
    "\x7b\"tradeType\":\"FUTURES\",\"clientOid\":\"" ++ order.clientOrderId ++ "\",\"symbol\":\"" ++ order.symbol ++ "\"\x7d"
  else
    "\x7b\"tradeType\":\"FUTURES\",\"orderId\":\"" ++ order.externalOrderId ++ "\",\"symbol\":\"" ++ order.symbol ++ "\"\x7d"

def cancelAllOrders (symbol : String) : String :=
  "\x7b\"tradeType\":\"FUTURES\",\"symbol\":\"" ++ symbol ++ "\"\x7d"

def wsAddOrder (platform : Platform) (createOrder : CreateOrder) (refData : RefData) (requestId : String) : String :=
  "\x7b\"id\":\"" ++ requestId ++ "\",\"op\":\"uta.order\",\"args\":" ++
    addOrder platform createOrder refData requestId ++ "\x7d"

def wsCancelOrder (order : Order) (requestId : String) : String :=
  "\x7b\"id\":\"" ++ requestId ++ "\",\"op\":\"uta.cancel\",\"args\":" ++ cancelOrder order ++ "\x7d"

end Encoder
end KucoinPro
