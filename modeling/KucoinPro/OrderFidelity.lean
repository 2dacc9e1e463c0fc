import KucoinPro.OrderEncoding
import KucoinPro.AccountSystem

namespace KucoinPro.OrderFidelity
open JsonText Encoder

-- What Decimal and as_raw_text make of their arguments: no quotes, and for an
-- enumerator without a name a text that is none of the names.
structure Renders (platform : Platform) : Prop where
  decimal : ∀ x precision, PlainText (platform.decimal x precision)
  plain : PlainText platform.undefinedRawText
  apart : platform.undefinedRawText ∉ names

def stop (createOrder : CreateOrder) : Option Float :=
  if createOrder.stopPrice.isNaN then none else some createOrder.stopPrice

-- The members under which the exchange has what an order waits for.
def triggers : List String := ["triggerPrice","tpTriggerPrice","slTriggerPrice"]

-- A message without any of them is one of an order that does not wait.
def Plain (members : List (String × Value)) : Prop := ∀ name ∈ triggers, members.lookup name = none

-- The message says what was asked for. A time in force is one that the exchange
-- has a name for, and an order with a stop price is not sent as a plain one.
structure Faithful (createOrder : CreateOrder) (members : List (String × Value)) : Prop where
  side : ∃ raw, textOf "side" members = some raw ∧ (Json.Side.ofText raw).map = createOrder.side
  orderType : ∃ raw, textOf "orderType" members = some raw ∧ (Json.OrderType.ofText raw).map = createOrder.orderType
  timeInForce : createOrder.orderType = .limit → ∃ raw, textOf "timeInForce" members = some raw ∧
    Json.TimeInForce.ofText raw ∉ [.undefinedInternal,.unknownInternal] ∧
    (Json.TimeInForce.ofText raw).map = createOrder.timeInForce
  stop : createOrder.orderType ∈ [.market,.limit] → stop createOrder ≠ none → ¬ Plain members

structure Supported (createOrder : CreateOrder) : Prop where
  timeInForce : createOrder.orderType = .limit → createOrder.timeInForce ∈ [.gtc,.ioc,.fok]
  stop : createOrder.orderType ∈ [.market,.limit] → stop createOrder = none

-- Two orders that the exchange must be able to tell apart.
def Differ (createOrder other : CreateOrder) : Prop :=
  createOrder.side ≠ other.side ∨ createOrder.timeInForce ≠ other.timeInForce ∨ stop createOrder ≠ stop other

variable {platform : Platform}

-- The text of an enumerator without a name stays without one.
theorem undefined_side (renders : Renders platform) : (Json.Side.ofText platform.undefinedRawText).map = .undefined := by
  have apart := renders.apart
  simp only [names,List.mem_cons,not_or] at apart
  simp only [Json.Side.ofText,apart,if_false]
  split <;> rfl

theorem undefined_orderType (renders : Renders platform) :
    (Json.OrderType.ofText platform.undefinedRawText).map = .undefined := by
  have apart := renders.apart
  simp only [names,List.mem_cons,not_or] at apart
  simp only [Json.OrderType.ofText,apart,if_false]
  split <;> rfl

theorem undefined_timeInForce (renders : Renders platform) :
    Json.TimeInForce.ofText platform.undefinedRawText ∈ [Json.TimeInForce.undefinedInternal,.unknownInternal] := by
  have apart := renders.apart
  simp only [names,List.mem_cons,not_or] at apart
  simp only [Json.TimeInForce.ofText,apart,if_false]
  split <;> simp

theorem side_back (renders : Renders platform) (side : Side) :
    (Json.Side.ofText (side.map.asRawText platform)).map = side := by
  cases side with
  | undefined => exact undefined_side renders
  | buy | sell => rfl

theorem orderType_back (renders : Renders platform) (orderType : OrderType) :
    (Json.OrderType.ofText (orderType.map.asRawText platform)).map = orderType := by
  cases orderType with
  | undefined => exact undefined_orderType renders
  | market | limit => rfl

theorem timeInForce_back (renders : Renders platform) (timeInForce : TimeInForce) :
    (Json.TimeInForce.ofText (timeInForce.map.asRawText platform) ∉ [Json.TimeInForce.undefinedInternal,.unknownInternal] ∧
      (Json.TimeInForce.ofText (timeInForce.map.asRawText platform)).map = timeInForce) ↔ timeInForce ∈ [.gtc,.ioc,.fok] := by
  have blank := undefined_timeInForce renders
  cases timeInForce with
  | gtc | ioc | fok => simp [TimeInForce.map,Json.TimeInForce.asRawText,Json.TimeInForce.ofText,Json.TimeInForce.map]
  | _ =>
      constructor
      · intro known
        exact absurd blank known.1
      · intro known
        simp at known

-- No message of add_order has a trigger price, whatever the stop price.
theorem addOrder_plain (createOrder : CreateOrder) (refData : RefData) (requestId : String) :
    Plain (addOrderMembers platform createOrder refData requestId) := by
  intro name listed
  simp only [triggers,List.mem_cons,List.not_mem_nil,or_false] at listed
  unfold addOrderMembers
  rcases listed with rfl | rfl | rfl <;>
    cases createOrder.participateDoNotInitiate <;> cases createOrder.orderType <;> rfl

theorem faithful_iff (renders : Renders platform) (createOrder : CreateOrder) (refData : RefData) (requestId : String) :
    Faithful createOrder (addOrderMembers platform createOrder refData requestId) ↔ Supported createOrder := by
  constructor
  · intro faithful
    have plain : Plain (addOrderMembers platform createOrder refData requestId) := addOrder_plain createOrder refData requestId
    refine ⟨?_,fun known => Classical.not_not.mp fun stopped => faithful.stop known stopped plain⟩
    intro limit
    obtain ⟨raw,text,named,back⟩ := faithful.timeInForce limit
    obtain rfl := Option.some.inj ((textOf_timeInForce platform createOrder refData requestId limit).symm.trans text)
    exact (timeInForce_back renders createOrder.timeInForce).mp ⟨named,back⟩
  · intro supported
    refine ⟨⟨_,textOf_side platform createOrder refData requestId,side_back renders _⟩,
      ⟨_,textOf_orderType platform createOrder refData requestId,orderType_back renders _⟩,?_,
      fun known stopped => absurd (supported.stop known) stopped⟩
    intro limit
    exact ⟨_,textOf_timeInForce platform createOrder refData requestId limit,
      (timeInForce_back renders createOrder.timeInForce).mpr (supported.timeInForce limit)⟩

-- Two messages are taken apart from the right: none of the values that come
-- last has a quote in it, whatever the ids and the symbol in front are.

theorem last_split {a : α} {xs ys p q : List α} (same : xs ++ a :: p = ys ++ a :: q) (left : a ∉ p) (right : a ∉ q) :
    xs = ys ∧ p = q := by
  obtain ⟨rest,split,ends⟩ | ⟨rest,split,ends⟩ := List.append_eq_append_iff.mp same
  · cases rest with
    | nil =>
        rw [List.nil_append,List.cons.injEq] at ends
        exact ⟨by rw [split,List.append_nil],ends.2⟩
    | cons c rest =>
        rw [List.cons_append,List.cons.injEq] at ends
        exact absurd (by simp [ends.2]) left
  · cases rest with
    | nil =>
        rw [List.nil_append,List.cons.injEq] at ends
        exact ⟨by rw [split,List.append_nil],ends.2.symm⟩
    | cons c rest =>
        rw [List.cons_append,List.cons.injEq] at ends
        exact absurd (by simp [ends.2]) right

theorem cut {front other last final : String} (same : front ++ "\"" ++ last = other ++ "\"" ++ final)
    (plain : PlainText last) (plain' : PlainText final) : front = other ∧ last = final := by
  have unquoted : ∀ text : String, PlainText text → '"' ∉ text.toList := fun text plain quote =>
    (plain_differs (plain _ quote)).1 rfl
  have lists : front.toList ++ '"' :: last.toList = other.toList ++ '"' :: final.toList := by
    simpa using congrArg String.toList same
  obtain ⟨fronts,lasts⟩ := last_split lists (unquoted last plain) (unquoted final plain')
  exact ⟨String.toList_injective fronts,String.toList_injective lasts⟩

section limit
variable (platform : Platform) (createOrder : CreateOrder) (refData : RefData) (requestId : String)

def opening : String :=
  "\x7b\"tradeType\":\"FUTURES\",\"clientOid\":\"" ++ requestId ++ "\",\"symbol\":\"" ++ createOrder.symbol ++ "\",\"side\":"

def untilTimeInForce : String :=
  opening createOrder requestId ++ "\"" ++ createOrder.side.map.asRawText platform ++ "\",\"orderType\":\"LIMIT\"" ++
    (if createOrder.participateDoNotInitiate then ",\"postOnly\":true" else "") ++ ",\"timeInForce\":"

def untilSize : String :=
  untilTimeInForce platform createOrder requestId ++ "\"" ++ createOrder.timeInForce.map.asRawText platform ++
    "\",\"reduceOnly\":" ++ (if createOrder.doNotIncrease then "true" else "false") ++ ",\"size\":"

set_option maxRecDepth 4000 in
theorem limit_pieces (limit : createOrder.orderType = .limit) :
    Encoder.addOrder platform createOrder refData requestId =
      untilSize platform createOrder requestId ++ "\"" ++ platform.decimal createOrder.quantity refData.quantityPrecision ++
        "\",\"price\":" ++ "\"" ++ platform.decimal createOrder.price refData.pricePrecision ++ "\",\"sizeUnit\":\"UNIT\"\x7d" := by
  apply String.toList_injective
  unfold Encoder.addOrder untilSize untilTimeInForce opening
  rw [limit]
  cases createOrder.participateDoNotInitiate <;> cases createOrder.doNotIncrease <;>
    simp [Json.OrderType.asRawText,OrderType.map]

end limit

variable {createOrder other : CreateOrder} {refData refData' : RefData} {requestId requestId' : String}

theorem limit_inj (renders : Renders platform) (limit : createOrder.orderType = .limit) (limit' : other.orderType = .limit)
    (same : Encoder.addOrder platform createOrder refData requestId = Encoder.addOrder platform other refData' requestId') :
    untilSize platform createOrder requestId = untilSize platform other requestId' := by
  rw [limit_pieces platform createOrder refData requestId limit,limit_pieces platform other refData' requestId' limit',
    String.append_left_inj] at same
  have prices := cut same (renders.decimal _ _) (renders.decimal _ _)
  have sizes := prices.1
  rw [String.append_left_inj] at sizes
  exact (cut sizes (renders.decimal _ _) (renders.decimal _ _)).1

theorem untilSize_inj (timed : PlainText (createOrder.timeInForce.map.asRawText platform))
    (timed' : PlainText (other.timeInForce.map.asRawText platform))
    (same : untilSize platform createOrder requestId = untilSize platform other requestId') :
    untilTimeInForce platform createOrder requestId = untilTimeInForce platform other requestId' ∧
    createOrder.timeInForce.map.asRawText platform = other.timeInForce.map.asRawText platform := by
  unfold untilSize at same
  rw [String.append_left_inj] at same
  have reduced : createOrder.doNotIncrease = other.doNotIncrease := by
    have ends := congrArg (fun text => text.toList.reverse) same
    cases first : createOrder.doNotIncrease <;> cases second : other.doNotIncrease <;> simp [first,second] at ends ⊢
  rw [reduced,String.append_left_inj,String.append_left_inj] at same
  exact cut same timed timed'

theorem untilTimeInForce_inj (sided : PlainText (createOrder.side.map.asRawText platform))
    (sided' : PlainText (other.side.map.asRawText platform))
    (same : untilTimeInForce platform createOrder requestId = untilTimeInForce platform other requestId') :
    createOrder.side.map.asRawText platform = other.side.map.asRawText platform := by
  unfold untilTimeInForce at same
  rw [String.append_left_inj] at same
  have posted : createOrder.participateDoNotInitiate = other.participateDoNotInitiate := by
    have ends := congrArg (fun text => text.toList.reverse) same
    cases first : createOrder.participateDoNotInitiate <;> cases second : other.participateDoNotInitiate <;>
      simp [first,second] at ends ⊢
  rw [posted,String.append_left_inj,String.append_left_inj] at same
  exact (cut same sided sided').2

theorem side_plain (renders : Renders platform) (side : Side) : PlainText (side.map.asRawText platform) := by
  cases side with
  | undefined => exact renders.plain
  | buy | sell => exact names_plain _ (by simp [names,Side.map,Json.Side.asRawText])

theorem timeInForce_plain (renders : Renders platform) (timeInForce : TimeInForce) :
    PlainText (timeInForce.map.asRawText platform) := by
  cases timeInForce with
  | gtc | ioc | fok => exact names_plain _ (by simp [names,TimeInForce.map,Json.TimeInForce.asRawText])
  | _ => exact renders.plain

-- Supported orders of one encoding agree in all that the exchange must tell apart.
theorem same_encoding (renders : Renders platform) (limit : createOrder.orderType = .limit) (limit' : other.orderType = .limit)
    (supported : Supported createOrder) (supported' : Supported other)
    (same : Encoder.addOrder platform createOrder refData requestId = Encoder.addOrder platform other refData' requestId') :
    ¬ Differ createOrder other := by
  obtain ⟨untils,times⟩ := untilSize_inj (timeInForce_plain renders _) (timeInForce_plain renders _)
    (limit_inj renders limit limit' same)
  have sides := untilTimeInForce_inj (side_plain renders _) (side_plain renders _) untils
  have side : createOrder.side = other.side := by
    rw [← side_back renders createOrder.side,sides,side_back renders]
  have timeInForce : createOrder.timeInForce = other.timeInForce := by
    rw [← ((timeInForce_back renders createOrder.timeInForce).mpr (supported.timeInForce limit)).2,times,
      ((timeInForce_back renders other.timeInForce).mpr (supported'.timeInForce limit')).2]
  have stops : stop createOrder = stop other := by
    rw [supported.stop (by simp [limit]),supported'.stop (by simp [limit'])]
  rintro (apart | apart | apart)
  · exact apart side
  · exact apart timeInForce
  · exact apart stops

-- No order is refused. It is encoded as it was asked for exactly when the
-- exchange can be told so, and then apart from every other such order.
theorem order_encodes_faithfully_exactly (renders : Renders platform) :
    (∀ createOrder refData requestId buffer,
      EncodeBuffer.written (EncodeBuffer.addOrder platform createOrder refData requestId buffer) =
        (Value.object (addOrderMembers platform createOrder refData requestId)).text ∧
      (Faithful createOrder (addOrderMembers platform createOrder refData requestId) ↔ Supported createOrder)) ∧
    ∀ createOrder other refData refData' requestId requestId' buffer buffer',
      createOrder.orderType = .limit → other.orderType = .limit → Supported createOrder → Supported other →
      Differ createOrder other →
      EncodeBuffer.written (EncodeBuffer.addOrder platform createOrder refData requestId buffer) ≠
        EncodeBuffer.written (EncodeBuffer.addOrder platform other refData' requestId' buffer') := by
  constructor
  · intro createOrder refData requestId buffer
    rw [EncodeBuffer.addOrder_eq,EncodeBuffer.written,EncodeBuffer.whole_read,Encoder.addOrder_text]
    exact ⟨rfl,faithful_iff renders createOrder refData requestId⟩
  · intro createOrder other refData refData' requestId requestId' buffer buffer' limit limit' supported supported' differ same
    rw [EncodeBuffer.addOrder_eq,EncodeBuffer.addOrder_eq,EncodeBuffer.written,EncodeBuffer.written,
      EncodeBuffer.whole_read,EncodeBuffer.whole_read] at same
    exact same_encoding renders limit limit' supported supported' same differ

-- LIMIT orders of the smallest account.
def timed (timeInForce : TimeInForce) (stopPrice : Float) : CreateOrder :=
  ⟨"A1",1,"XBTUSDTM",.buy,.limit,timeInForce,false,false,0.0,0.0,stopPrice⟩

theorem smallest_renders : Renders Smallest.platform where
  decimal := by
    intro x precision
    exact decimal_plain (by decide : isDecimal "0" = true)
  plain := by decide
  apart := by decide

theorem supported_timed (listed : timeInForce ∈ [.gtc,.ioc,.fok]) : Supported (timed timeInForce nan) :=
  ⟨fun _ => listed,fun _ => if_pos (by decide : nan.isNaN = true)⟩

theorem gtc_and_ioc_are_told_apart :
    Faithful (timed .gtc nan) (addOrderMembers Smallest.platform (timed .gtc nan) ⟨0,0⟩ "1") ∧
    EncodeBuffer.written (EncodeBuffer.addOrder Smallest.platform (timed .gtc nan) ⟨0,0⟩ "1" "") ≠
      EncodeBuffer.written (EncodeBuffer.addOrder Smallest.platform (timed .ioc nan) ⟨0,0⟩ "1" "") := by
  obtain ⟨each,pairs⟩ := order_encodes_faithfully_exactly smallest_renders
  have gtc : Supported (timed .gtc nan) := supported_timed (by decide)
  have ioc : Supported (timed .ioc nan) := supported_timed (by decide)
  exact ⟨(each (timed .gtc nan) ⟨0,0⟩ "1" "").2.mpr gtc,
    pairs _ _ _ _ _ _ _ _ rfl rfl gtc ioc (.inr (.inl (by decide)))⟩

-- Orders that the exchange has no words for are sent all the same: good for the
-- day with a blank time in force, one with a stop price as a plain order.
theorem unsupported_orders_are_sent :
    EncodeBuffer.written (EncodeBuffer.addOrder Smallest.platform (timed .gfd nan) ⟨0,0⟩ "1" "") =
      "\x7b\"tradeType\":\"FUTURES\",\"clientOid\":\"1\",\"symbol\":\"XBTUSDTM\",\"side\":\"BUY\",\"orderType\":\"LIMIT\",\"timeInForce\":\"\",\"reduceOnly\":false,\"size\":\"0\",\"price\":\"0\",\"sizeUnit\":\"UNIT\"\x7d" ∧
    ¬ Faithful (timed .gfd nan) (addOrderMembers Smallest.platform (timed .gfd nan) ⟨0,0⟩ "1") ∧
    ¬ Faithful (timed .gtc 1.5) (addOrderMembers Smallest.platform (timed .gtc 1.5) ⟨0,0⟩ "1") ∧
    Differ (timed .gfd nan) (timed .gtd nan) ∧ Differ (timed .gtc 1.5) (timed .gtc nan) ∧
    EncodeBuffer.written (EncodeBuffer.addOrder Smallest.platform (timed .gfd nan) ⟨0,0⟩ "1" "") =
      EncodeBuffer.written (EncodeBuffer.addOrder Smallest.platform (timed .gtd nan) ⟨0,0⟩ "1" "") ∧
    EncodeBuffer.written (EncodeBuffer.addOrder Smallest.platform (timed .gtc 1.5) ⟨0,0⟩ "1" "") =
      EncodeBuffer.written (EncodeBuffer.addOrder Smallest.platform (timed .gtc nan) ⟨0,0⟩ "1" "") := by
  have day : ¬ Supported (timed .gfd nan) := fun supported => absurd (supported.timeInForce rfl) (by decide)
  have stopped : ¬ Supported (timed .gtc 1.5) := fun supported => absurd (supported.stop (by decide)) (by decide)
  refine ⟨?_,?_,?_,.inr (.inl (by decide)),.inr (.inr (by decide)),rfl,rfl⟩
  · rw [EncodeBuffer.addOrder_eq,EncodeBuffer.written,EncodeBuffer.whole_read]
    decide +kernel
  · rwa [faithful_iff smallest_renders]
  · rwa [faithful_iff smallest_renders]

end KucoinPro.OrderFidelity
