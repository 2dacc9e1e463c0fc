import KucoinPro.Json
import KucoinPro.JsonText

namespace KucoinPro.Json

-- The raw names of the schemas, read back.
def Side.ofText (text : String) : Side :=
  if text = "" then .undefinedInternal
  else if text = "buy" then .buyLc
  else if text = "sell" then .sellLc
  else if text = "BUY" then .buy
  else if text = "SELL" then .sell
  else .unknownInternal

def OrderType.ofText (text : String) : OrderType :=
  if text = "" then .undefinedInternal
  else if text = "MARKET" then .market
  else if text = "LIMIT" then .limit
  else .unknownInternal

def TimeInForce.ofText (text : String) : TimeInForce :=
  if text = "" then .undefinedInternal
  else if text = "GTC" then .gtc
  else if text = "IOC" then .ioc
  else if text = "FOK" then .fok
  else if text = "GTT" then .gtt
  else if text = "RTI" then .rti
  else .unknownInternal

end KucoinPro.Json

-- The encoder once more, with the buffer that it writes to and returns views of.
namespace KucoinPro.EncodeBuffer

variable (platform : Platform)

-- std::string_view, of the buffer as it is when it is read.
structure View where
  start : Nat
  length : Nat
  deriving DecidableEq, Repr

def View.read (view : View) (buffer : String) : String := String.ofList ((buffer.toList.drop view.start).take view.length)

def whole (buffer : String) : View := ⟨0,buffer.length⟩

def clear (_buffer : String) : String := ""

-- fmt::format_to(std::back_inserter(buffer), ...)
def formatTo (text buffer : String) : String := buffer ++ text

def reduceOnlyText (reduceOnly : Bool) : String := if reduceOnly then "true" else "false"

def addOrder (createOrder : CreateOrder) (refData : RefData) (requestId buffer : String) : View × String :=
  let buffer := clear buffer
  let side := createOrder.side.map
  let orderType := createOrder.orderType.map
  let reduceOnly := createOrder.doNotIncrease
  let buffer := formatTo ("\x7b\"tradeType\":\"FUTURES\",\"clientOid\":\"" ++ requestId ++ "\",\"symbol\":\"" ++
    createOrder.symbol ++ "\",\"side\":\"" ++ side.asRawText platform ++ "\",\"orderType\":\"" ++
    orderType.asRawText platform ++ "\"") buffer
  let buffer := if createOrder.participateDoNotInitiate then formatTo ",\"postOnly\":true" buffer else buffer
  let buffer := match createOrder.orderType with
    | .undefined => buffer
    | .market => formatTo (",\"reduceOnly\":" ++ reduceOnlyText reduceOnly ++ ",\"size\":\"" ++
        platform.decimal createOrder.quantity refData.quantityPrecision ++ "\",\"sizeUnit\":\"UNIT\"") buffer
    | .limit =>
        let timeInForce := createOrder.timeInForce.map
        formatTo (",\"timeInForce\":\"" ++ timeInForce.asRawText platform ++ "\",\"reduceOnly\":" ++
          reduceOnlyText reduceOnly ++ ",\"size\":\"" ++ platform.decimal createOrder.quantity refData.quantityPrecision ++
          "\",\"price\":\"" ++ platform.decimal createOrder.price refData.pricePrecision ++ "\",\"sizeUnit\":\"UNIT\"") buffer
  let buffer := formatTo "\x7d" buffer
  (whole buffer,buffer)

def cancelOrder (order : Order) (buffer : String) : View × String :=
  let buffer := clear buffer
  let buffer :=
    if order.externalOrderId = "" then formatTo ("\x7b\"tradeType\":\"FUTURES\",\"clientOid\":\"" ++ order.clientOrderId ++
      "\",\"symbol\":\"" ++ order.symbol ++ "\"\x7d") buffer
    else formatTo ("\x7b\"tradeType\":\"FUTURES\",\"orderId\":\"" ++ order.externalOrderId ++ "\",\"symbol\":\"" ++
      order.symbol ++ "\"\x7d") buffer
  (whole buffer,buffer)

-- The new text is complete before it takes the place of the one that args is a view of.
def overwrite (requestId op : String) (args : View) (buffer : String) : View × String :=
  let buffer := "\x7b\"id\":\"" ++ requestId ++ "\",\"op\":\"" ++ op ++ "\",\"args\":" ++ args.read buffer ++ "\x7d"
  (whole buffer,buffer)

def wsAddOrder (createOrder : CreateOrder) (refData : RefData) (requestId buffer : String) : View × String :=
  let (args,buffer) := addOrder platform createOrder refData requestId buffer
  overwrite requestId "uta.order" args buffer

def wsCancelOrder (order : Order) (requestId buffer : String) : View × String :=
  let buffer := clear buffer
  let (args,buffer) := cancelOrder order buffer
  overwrite requestId "uta.cancel" args buffer

-- What a call leaves to its caller.
def written (result : View × String) : String := result.1.read result.2

@[simp] theorem whole_read (buffer : String) : (whole buffer).read buffer = buffer := by
  simp [View.read,whole,List.take_of_length_le,String.length_toList]

-- Whatever the buffer held before, it holds the message.

theorem addOrder_eq (createOrder : CreateOrder) (refData : RefData) (requestId buffer : String) :
    addOrder platform createOrder refData requestId buffer =
      (whole (Encoder.addOrder platform createOrder refData requestId),Encoder.addOrder platform createOrder refData requestId) := by
  have same : (addOrder platform createOrder refData requestId buffer).2 =
      Encoder.addOrder platform createOrder refData requestId := by
    unfold addOrder Encoder.addOrder
    cases createOrder.orderType <;> cases createOrder.participateDoNotInitiate <;>
      simp [formatTo,clear,reduceOnlyText,String.append_assoc]
  rw [← same]
  rfl

theorem cancelOrder_eq (order : Order) (buffer : String) :
    cancelOrder order buffer = (whole (Encoder.cancelOrder order),Encoder.cancelOrder order) := by
  unfold cancelOrder Encoder.cancelOrder
  split <;> simp [formatTo,clear]

theorem wsAddOrder_eq (createOrder : CreateOrder) (refData : RefData) (requestId buffer : String) :
    wsAddOrder platform createOrder refData requestId buffer =
      (whole (Encoder.wsAddOrder platform createOrder refData requestId),
        Encoder.wsAddOrder platform createOrder refData requestId) := by
  simp [wsAddOrder,addOrder_eq,overwrite,Encoder.wsAddOrder,String.append_assoc]

theorem wsCancelOrder_eq (order : Order) (requestId buffer : String) :
    wsCancelOrder order requestId buffer =
      (whole (Encoder.wsCancelOrder order requestId),Encoder.wsCancelOrder order requestId) := by
  simp [wsCancelOrder,cancelOrder_eq,overwrite,Encoder.wsCancelOrder,String.append_assoc]

end KucoinPro.EncodeBuffer

-- The messages as JSON: the members that the pieces make up.
namespace KucoinPro.Encoder
open JsonText

def addOrderMembers (platform : Platform) (createOrder : CreateOrder) (refData : RefData) (requestId : String) :
    List (String × Value) :=
  let quantity := platform.decimal createOrder.quantity refData.quantityPrecision
  [("tradeType",.string "FUTURES"),("clientOid",.string requestId),("symbol",.string createOrder.symbol),
    ("side",.string (createOrder.side.map.asRawText platform)),
    ("orderType",.string (createOrder.orderType.map.asRawText platform))] ++
  (if createOrder.participateDoNotInitiate then [("postOnly",.boolean true)] else []) ++
  match createOrder.orderType with
  | .undefined => []
  | .market => [("reduceOnly",.boolean createOrder.doNotIncrease),("size",.string quantity),("sizeUnit",.string "UNIT")]
  | .limit => [("timeInForce",.string (createOrder.timeInForce.map.asRawText platform)),
      ("reduceOnly",.boolean createOrder.doNotIncrease),("size",.string quantity),
      ("price",.string (platform.decimal createOrder.price refData.pricePrecision)),("sizeUnit",.string "UNIT")]

def cancelOrderMembers (order : Order) : List (String × Value) :=
  [("tradeType",.string "FUTURES"),
    if order.externalOrderId = "" then ("clientOid",.string order.clientOrderId) else ("orderId",.string order.externalOrderId),
    ("symbol",.string order.symbol)]

def cancelAllOrdersMembers (symbol : String) : List (String × Value) :=
  [("tradeType",.string "FUTURES"),("symbol",.string symbol)]

def wsMembers (requestId op : String) (args : List (String × Value)) : List (String × Value) :=
  [("id",.string requestId),("op",.string op),("args",.object args)]

set_option maxRecDepth 4000 in
theorem addOrder_text (platform : Platform) (createOrder : CreateOrder) (refData : RefData) (requestId : String) :
    addOrder platform createOrder refData requestId =
      (Value.object (addOrderMembers platform createOrder refData requestId)).text := by
  apply String.toList_injective
  unfold addOrder addOrderMembers
  cases createOrder.orderType <;> cases createOrder.participateDoNotInitiate <;> cases createOrder.doNotIncrease <;>
    simp [Value.text,render,renderMembers,quote]

theorem cancelOrder_text (order : Order) : cancelOrder order = (Value.object (cancelOrderMembers order)).text := by
  apply String.toList_injective
  unfold cancelOrder cancelOrderMembers
  split <;> simp [Value.text,render,renderMembers,quote]

theorem cancelAllOrders_text (symbol : String) : cancelAllOrders symbol = (Value.object (cancelAllOrdersMembers symbol)).text := by
  apply String.toList_injective
  unfold cancelAllOrders cancelAllOrdersMembers
  simp [Value.text,render,renderMembers,quote]

theorem wsAddOrder_text (platform : Platform) (createOrder : CreateOrder) (refData : RefData) (requestId : String) :
    wsAddOrder platform createOrder refData requestId =
      (Value.object (wsMembers requestId "uta.order" (addOrderMembers platform createOrder refData requestId))).text := by
  apply String.toList_injective
  simp [wsAddOrder,addOrder_text,wsMembers,Value.text,render,renderMembers,quote]

theorem wsCancelOrder_text (order : Order) (requestId : String) :
    wsCancelOrder order requestId = (Value.object (wsMembers requestId "uta.cancel" (cancelOrderMembers order))).text := by
  apply String.toList_injective
  simp [wsCancelOrder,cancelOrder_text,wsMembers,Value.text,render,renderMembers,quote]

-- What the members say, read back.

def textOf (key : String) (members : List (String × Value)) : Option String :=
  match members.lookup key with
  | some (.string raw) => some raw
  | _ => none

section members
variable (platform : Platform) (createOrder : CreateOrder) (refData : RefData) (requestId : String)

theorem textOf_side : textOf "side" (addOrderMembers platform createOrder refData requestId) =
    some (createOrder.side.map.asRawText platform) := rfl

theorem textOf_orderType : textOf "orderType" (addOrderMembers platform createOrder refData requestId) =
    some (createOrder.orderType.map.asRawText platform) := rfl

theorem textOf_timeInForce (limit : createOrder.orderType = .limit) :
    textOf "timeInForce" (addOrderMembers platform createOrder refData requestId) =
      some (createOrder.timeInForce.map.asRawText platform) := by
  unfold addOrderMembers
  rw [limit]
  cases createOrder.participateDoNotInitiate <;> rfl

end members

-- The raw names that the encoder can write.
def names : List String := ["buy","sell","BUY","SELL","MARKET","LIMIT","GTC","IOC","FOK","GTT","RTI"]

theorem names_plain : ∀ name ∈ names, PlainText name := by decide

end KucoinPro.Encoder
