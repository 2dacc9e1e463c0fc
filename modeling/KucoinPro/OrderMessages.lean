import KucoinPro.OrderEncoding
import KucoinPro.AccountSystem

namespace KucoinPro.OrderMessages
open JsonText Encoder

-- An order that the exchange has words for, in characters that JSON takes as they
-- are; Decimal makes plain numerals of its quantity and price.
structure Sendable (platform : Platform) (createOrder : CreateOrder) (refData : RefData) (requestId : String) : Prop where
  side : createOrder.side ∈ [.buy,.sell]
  orderType : createOrder.orderType ∈ [.market,.limit]
  timeInForce : createOrder.orderType = .limit → createOrder.timeInForce ∈ [.gtc,.ioc,.fok]
  quantity : isDecimal (platform.decimal createOrder.quantity refData.quantityPrecision) = true
  price : createOrder.orderType = .limit → isDecimal (platform.decimal createOrder.price refData.pricePrecision) = true
  symbol : PlainText createOrder.symbol
  requestId : PlainText requestId

-- What the exchange reads in the message.
structure Asks (platform : Platform) (createOrder : CreateOrder) (refData : RefData) (requestId : String)
    (members : List (String × Value)) : Prop where
  distinct : (members.map Prod.fst).Nodup
  clientOid : members.lookup "clientOid" = some (.string requestId)
  symbol : members.lookup "symbol" = some (.string createOrder.symbol)
  side : (textOf "side" members).map (fun raw => (Json.Side.ofText raw).map) = some createOrder.side
  orderType : (textOf "orderType" members).map (fun raw => (Json.OrderType.ofText raw).map) = some createOrder.orderType
  postOnly : members.lookup "postOnly" = if createOrder.participateDoNotInitiate then some (.boolean true) else none
  reduceOnly : members.lookup "reduceOnly" = some (.boolean createOrder.doNotIncrease)
  size : members.lookup "size" = some (.string (platform.decimal createOrder.quantity refData.quantityPrecision))
  timeInForce : createOrder.orderType = .limit →
    (textOf "timeInForce" members).map (fun raw => (Json.TimeInForce.ofText raw).map) = some createOrder.timeInForce
  price : createOrder.orderType = .limit →
    members.lookup "price" = some (.string (platform.decimal createOrder.price refData.pricePrecision))
  market : createOrder.orderType ≠ .limit → members.lookup "timeInForce" = none ∧ members.lookup "price" = none

structure AsksCancel (order : Order) (members : List (String × Value)) : Prop where
  distinct : (members.map Prod.fst).Nodup
  symbol : members.lookup "symbol" = some (.string order.symbol)
  orderId : members.lookup "orderId" = if order.externalOrderId = "" then none else some (.string order.externalOrderId)
  clientOid : members.lookup "clientOid" = if order.externalOrderId = "" then some (.string order.clientOrderId) else none

variable {platform : Platform} {createOrder : CreateOrder} {refData : RefData} {requestId : String}

-- The keys and the fixed texts of the messages.
def literals : List String := ["FUTURES","UNIT","uta.order","uta.cancel","id","op","args","tradeType","clientOid","orderId",
  "symbol","side","orderType","postOnly","timeInForce","reduceOnly","size","price","sizeUnit"]

theorem literal_plain : ∀ text ∈ literals, PlainText text := by decide

theorem side_named (sendable : Sendable platform createOrder refData requestId) :
    createOrder.side.map.asRawText platform ∈ names ∧
    (Json.Side.ofText (createOrder.side.map.asRawText platform)).map = createOrder.side := by
  have known := sendable.side
  generalize createOrder.side = side at known
  cases side with
  | undefined => simp at known
  | buy | sell => exact ⟨by simp [names,Side.map,Json.Side.asRawText],rfl⟩

theorem orderType_named (sendable : Sendable platform createOrder refData requestId) :
    createOrder.orderType.map.asRawText platform ∈ names ∧
    (Json.OrderType.ofText (createOrder.orderType.map.asRawText platform)).map = createOrder.orderType := by
  have known := sendable.orderType
  generalize createOrder.orderType = orderType at known
  cases orderType with
  | undefined => simp at known
  | market | limit => exact ⟨by simp [names,OrderType.map,Json.OrderType.asRawText],rfl⟩

theorem timeInForce_named (sendable : Sendable platform createOrder refData requestId) (limit : createOrder.orderType = .limit) :
    createOrder.timeInForce.map.asRawText platform ∈ names ∧
    (Json.TimeInForce.ofText (createOrder.timeInForce.map.asRawText platform)).map = createOrder.timeInForce := by
  have known := sendable.timeInForce limit
  generalize createOrder.timeInForce = timeInForce at known
  cases timeInForce with
  | gtc | ioc | fok => exact ⟨by simp [names,TimeInForce.map,Json.TimeInForce.asRawText],rfl⟩
  | _ => simp at known

def PlainMember (member : String × Value) : Prop := PlainText member.1 ∧ Plain member.2

theorem object_plain (plain : ∀ member ∈ members, PlainMember member) : Plain (.object members) :=
  .object (fun member listed => (plain member listed).1) fun member listed => (plain member listed).2

theorem string_member (literal : key ∈ literals) (plain : PlainText raw) : PlainMember (key,.string raw) :=
  ⟨literal_plain key literal,.string plain⟩

theorem reduceOnly_member (reduceOnly : Bool) : PlainMember ("reduceOnly",.boolean reduceOnly) :=
  ⟨literal_plain "reduceOnly" (by decide),.boolean reduceOnly⟩

theorem sized_plain (sendable : Sendable platform createOrder refData requestId) :
    PlainMember ("size",.string (platform.decimal createOrder.quantity refData.quantityPrecision)) ∧
    PlainMember ("sizeUnit",.string "UNIT") :=
  ⟨string_member (by decide) (decimal_plain sendable.quantity),string_member (by decide) (literal_plain _ (by decide))⟩

theorem addOrder_plain (sendable : Sendable platform createOrder refData requestId) :
    ∀ member ∈ addOrderMembers platform createOrder refData requestId, PlainMember member := by
  obtain ⟨size,sizeUnit⟩ := sized_plain sendable
  have reduceOnly := reduceOnly_member createOrder.doNotIncrease
  have side := names_plain _ (side_named sendable).1
  have orderType := names_plain _ (orderType_named sendable).1
  intro member listed
  rw [addOrderMembers,List.mem_append,List.mem_append] at listed
  rcases listed with (head | postOnly) | tail
  · simp only [List.mem_cons,List.not_mem_nil,or_false] at head
    rcases head with rfl | rfl | rfl | rfl | rfl
    · exact string_member (by decide) (literal_plain _ (by decide))
    · exact string_member (by decide) sendable.requestId
    · exact string_member (by decide) sendable.symbol
    · exact string_member (by decide) side
    · exact string_member (by decide) orderType
  · split at postOnly
    · rw [List.mem_singleton] at postOnly
      exact postOnly ▸ ⟨literal_plain _ (by decide),.boolean true⟩
    · simp at postOnly
  · split at tail
    · simp at tail
    · simp only [List.mem_cons,List.not_mem_nil,or_false] at tail
      rcases tail with rfl | rfl | rfl
      · exact reduceOnly
      · exact size
      · exact sizeUnit
    · rename_i limit
      simp only [List.mem_cons,List.not_mem_nil,or_false] at tail
      rcases tail with rfl | rfl | rfl | rfl | rfl
      · exact string_member (by decide) (names_plain _ (timeInForce_named sendable limit).1)
      · exact reduceOnly
      · exact size
      · exact string_member (by decide) (decimal_plain (sendable.price limit))
      · exact sizeUnit

theorem addOrder_asks (sendable : Sendable platform createOrder refData requestId) :
    Asks platform createOrder refData requestId (addOrderMembers platform createOrder refData requestId) := by
  have side := (side_named sendable).2
  have orderType := (orderType_named sendable).2
  have timeInForce := timeInForce_named sendable
  constructor
  case side => rw [textOf_side,Option.map_some,side]
  case orderType => rw [textOf_orderType,Option.map_some,orderType]
  case timeInForce =>
    intro limit
    rw [textOf_timeInForce platform createOrder refData requestId limit,Option.map_some,(timeInForce limit).2]
  all_goals
    unfold addOrderMembers
    cases kind : createOrder.orderType with
    | undefined => exact absurd sendable.orderType (by simp [kind])
    | market | limit => cases createOrder.participateDoNotInitiate <;> simp [List.lookup_cons]

structure PlainOrder (order : Order) : Prop where
  symbol : PlainText order.symbol
  clientOrderId : PlainText order.clientOrderId
  externalOrderId : PlainText order.externalOrderId

theorem cancelOrder_plain (plain : PlainOrder order) : ∀ member ∈ cancelOrderMembers order, PlainMember member := by
  intro member listed
  simp only [cancelOrderMembers,List.mem_cons,List.not_mem_nil,or_false] at listed
  rcases listed with rfl | rfl | rfl
  · exact string_member (by decide) (literal_plain _ (by decide))
  · split
    · exact string_member (by decide) plain.clientOrderId
    · exact string_member (by decide) plain.externalOrderId
  · exact string_member (by decide) plain.symbol

theorem cancelOrder_asks (order : Order) : AsksCancel order (cancelOrderMembers order) := by
  constructor
  all_goals
    unfold cancelOrderMembers
    by_cases unknown : order.externalOrderId = "" <;> simp [List.lookup_cons,unknown]

theorem wsMembers_plain (plain : PlainText requestId) (known : op ∈ literals) (args : ∀ member ∈ members, PlainMember member) :
    ∀ member ∈ wsMembers requestId op members, PlainMember member := by
  intro member listed
  simp only [wsMembers,List.mem_cons,List.not_mem_nil,or_false] at listed
  rcases listed with rfl | rfl | rfl
  · exact string_member (by decide) plain
  · exact string_member (by decide) (literal_plain _ known)
  · exact ⟨literal_plain "args" (by decide),object_plain args⟩

theorem whole_parsed (plain : ∀ member ∈ members, PlainMember member) :
    parse (EncodeBuffer.written (EncodeBuffer.whole (Value.object members).text,(Value.object members).text)) =
      some (.object members) := by
  rw [EncodeBuffer.written,EncodeBuffer.whole_read]
  exact parse_text (object_plain plain)

-- The object over REST is the args object over the websocket, for whatever the
-- buffers held before.
theorem order_messages_decode (platform : Platform) :
    (∀ createOrder refData requestId, Sendable platform createOrder refData requestId →
      ∃ members, Asks platform createOrder refData requestId members ∧ ∀ buffer,
        parse (EncodeBuffer.written (EncodeBuffer.addOrder platform createOrder refData requestId buffer)) =
          some (.object members) ∧
        parse (EncodeBuffer.written (EncodeBuffer.wsAddOrder platform createOrder refData requestId buffer)) =
          some (.object [("id",.string requestId),("op",.string "uta.order"),("args",.object members)])) ∧
    ∀ order requestId, PlainOrder order → PlainText requestId →
      ∃ members, AsksCancel order members ∧ ∀ buffer,
        parse (EncodeBuffer.written (EncodeBuffer.cancelOrder order buffer)) = some (.object members) ∧
        parse (EncodeBuffer.written (EncodeBuffer.wsCancelOrder order requestId buffer)) =
          some (.object [("id",.string requestId),("op",.string "uta.cancel"),("args",.object members)]) := by
  constructor
  · intro createOrder refData requestId sendable
    have plain := addOrder_plain sendable
    refine ⟨_,addOrder_asks sendable,?_⟩
    intro buffer
    rw [EncodeBuffer.addOrder_eq,EncodeBuffer.wsAddOrder_eq,addOrder_text,wsAddOrder_text]
    exact ⟨whole_parsed plain,whole_parsed (wsMembers_plain sendable.requestId (by decide) plain)⟩
  · intro order requestId plainOrder plainId
    have plain := cancelOrder_plain plainOrder
    refine ⟨_,cancelOrder_asks order,?_⟩
    intro buffer
    rw [EncodeBuffer.cancelOrder_eq,EncodeBuffer.wsCancelOrder_eq,cancelOrder_text,wsCancelOrder_text]
    exact ⟨whole_parsed plain,whole_parsed (wsMembers_plain plainId (by decide) plain)⟩

-- A reduce-only LIMIT order, and the cancellation of an order that the exchange
-- has not told its id of.
theorem limit_order_decodes :
    (∃ members, Asks Smallest.platform ⟨"A1",1,"XBTUSDTM",.buy,.limit,.ioc,false,true,0.0,0.0,nan⟩ ⟨0,0⟩ "1" members ∧
      parse (EncodeBuffer.written (EncodeBuffer.wsAddOrder Smallest.platform
        ⟨"A1",1,"XBTUSDTM",.buy,.limit,.ioc,false,true,0.0,0.0,nan⟩ ⟨0,0⟩ "1" "before")) =
          some (.object [("id",.string "1"),("op",.string "uta.order"),("args",.object members)])) ∧
    ∃ members, AsksCancel ⟨1,1,"XBTUSDTM","1",""⟩ members ∧
      parse (EncodeBuffer.written (EncodeBuffer.cancelOrder ⟨1,1,"XBTUSDTM","1",""⟩ "before")) = some (.object members) := by
  obtain ⟨orders,cancels⟩ := order_messages_decode Smallest.platform
  have one : PlainText "1" := by decide
  have symbol : PlainText "XBTUSDTM" := by decide
  have zero : isDecimal "0" = true := by decide
  obtain ⟨members,asks,sent⟩ := orders ⟨"A1",1,"XBTUSDTM",.buy,.limit,.ioc,false,true,0.0,0.0,nan⟩ ⟨0,0⟩ "1"
    ⟨by decide,by decide,fun _ => by decide,zero,fun _ => zero,symbol,one⟩
  obtain ⟨others,asked,cancelled⟩ := cancels ⟨1,1,"XBTUSDTM","1",""⟩ "1" ⟨symbol,one,by decide⟩ one
  exact ⟨⟨members,asks,(sent "before").2⟩,others,asked,(cancelled "before").1⟩

end KucoinPro.OrderMessages
