import KucoinPro.DropCopy

namespace KucoinPro.Json

-- core::json::Value, as far as the dispatcher tells its alternatives apart.
inductive Value where
  | null
  | boolean (value : Bool)
  | number (text : String)
  | string (text : String)
  | object (text : String)
  | array (text : String)
  deriving DecidableEq, Repr

inductive Channel where
  | undefinedInternal | unknownInternal | tickerFutures | tradeFutures | obuFutures
  | balanceUnified | positionAllUnified | orderAllUnified
  deriving DecidableEq, Repr

def Channel.ofText (text : String) : Channel :=
  if text = "" then .undefinedInternal
  else if text = "ticker.FUTURES" then .tickerFutures
  else if text = "trade.FUTURES" then .tradeFutures
  else if text = "obu.FUTURES" then .obuFutures
  else if text = "balance.UNIFIED" then .balanceUnified
  else if text = "positionAll.UNIFIED" then .positionAllUnified
  else if text = "orderAll.UNIFIED" then .orderAllUnified
  else .unknownInternal

def WSOp.ofText (text : String) : WSOp :=
  if text = "" then .undefinedInternal
  else if text = "pong" then .pong
  else if text = "uta.order" then .addOrderAck
  else if text = "uta.cancel" then .cancelOrderAck
  else .unknownInternal

inductive Depth where
  | undefinedInternal | unknownInternal | one | increment
  deriving DecidableEq, Repr

structure TickerData where
  symbol : String
  sequenceNumber : Nat
  bestBidPrice : Float
  bestBidSize : Float
  bestAskPrice : Float
  bestAskSize : Float
  timestamp : Int

structure Ticker where
  pushTime : Int
  data : TickerData

structure TradeData where
  symbol : String
  sequenceNumber : Nat
  tradeId : String
  price : Float
  side : Side
  quantity : Float
  timestamp : Int

structure Trade where
  pushTime : Int
  data : TradeData

structure OBUDataItem where
  price : Float
  quantity : Float

structure OBUData where
  asks : List OBUDataItem
  bids : List OBUDataItem
  startSequence : Nat
  endSequence : Nat
  symbol : String
  timestamp : Int

structure OBU where
  pushTime : Int
  depth : Depth
  data : OBUData

-- What a dispatcher comes to: it returns, after one call of the handler or none,
-- an exception leaves it, or the process ends.
inductive Dispatched (Call : Type) where
  | returned (result : Bool) (call : Option Call)
  | thrown (e : Exception)
  | fatal (what : String)
  deriving Repr

def Dispatched.toOption : Dispatched Call → Option Call
  | .returned _ call => call
  | .thrown _ | .fatal _ => none

def dispatchHelper (decode : String → Except Exception α) (call : α → Call) (message : String) : Dispatched Call :=
  match decode message with
  | .error e => .thrown e
  | .ok obj => .returned true (some (call obj))

def unexpected (message : String) : String := "Unexpected: message=\"" ++ message ++ "\""

namespace Parser

def KEY_MESSAGE : String := "message"
def KEY_TYPE : String := "type"
def KEY_RESULT : String := "result"
def KEY_T : String := "T"

def VALUE_WELCOME : String := "welcome"
def VALUE_PONG : String := "pong"

def KEYS : List String := [KEY_MESSAGE,KEY_TYPE,KEY_RESULT,KEY_T]

-- The calls of Parser::Handler. Of Welcome, Pong and the private channels no
-- handler reads a member.
inductive Call where
  | welcome
  | error (error : ErrorMessage)
  | pong
  | ack (ack : Ack)
  | ticker (ticker : Ticker)
  | trade (trade : Trade)
  | obu (obu : OBU)
  | balance
  | positionAll
  | orderAll

-- std::get<std::string_view>
def badVariantAccess : Exception := .std "std::get: wrong index for variant"

end Parser

-- What Parser::dispatch calls that is not in the repository: FNV, whose values of
-- the four keys differ or the switch would not compile; core::json::Parser, which
-- hands out the members of an object in their order and may find the text at
-- fault behind them; and the generated decoders that dispatch_helper is used with.
structure Decoders where
  compute : String → Nat
  distinct : (Parser.KEYS.map compute).Nodup
  members : String → List (String × Value) × Except Exception Unit
  channel : Value → Except Exception Channel
  channel_null : channel .null = .ok .undefinedInternal
  channel_text : ∀ text, channel (.string text) = .ok (Channel.ofText text)
  welcome : String → Except Exception Unit
  pong : String → Except Exception Unit
  ack : String → Except Exception Ack
  ticker : String → Except Exception Ticker
  trade : String → Except Exception Trade
  obu : String → Except Exception OBU
  balance : String → Except Exception Unit
  positionAll : String → Except Exception Unit
  orderAll : String → Except Exception Unit

namespace Parser
variable (decoders : Decoders)

def dispatchChannel (message : String) : Channel → Dispatched Call
  | .undefinedInternal => .fatal "Unexpected"
  | .unknownInternal => .returned false none
  | .tickerFutures => dispatchHelper decoders.ticker .ticker message
  | .tradeFutures => dispatchHelper decoders.trade .trade message
  | .obuFutures => dispatchHelper decoders.obu .obu message
  | .balanceUnified => dispatchHelper decoders.balance (fun _ => .balance) message
  | .positionAllUnified => dispatchHelper decoders.positionAll (fun _ => .positionAll) message
  | .orderAllUnified => dispatchHelper decoders.orderAll (fun _ => .orderAll) message

-- The lambda that core::json::Parser runs on each member: `none` goes on to the
-- next one.
def helper (message key : String) (value : Value) : Option (Dispatched Call) :=
  let key2 := decoders.compute key
  if key2 = decoders.compute KEY_MESSAGE then
    match value with
    | .string text =>
        if text = VALUE_WELCOME then some (dispatchHelper decoders.welcome (fun _ => .welcome) message) else none
    | _ => some (.thrown badVariantAccess)
  else if key2 = decoders.compute KEY_TYPE then
    match value with
    | .string text => if text = VALUE_PONG then some (dispatchHelper decoders.pong (fun _ => .pong) message) else none
    | _ => some (.thrown badVariantAccess)
  else if key2 = decoders.compute KEY_RESULT then some (dispatchHelper decoders.ack .ack message)
  else if key2 = decoders.compute KEY_T then
    match decoders.channel value with
    | .error e => some (.thrown e)
    | .ok channel => some (dispatchChannel decoders message channel)
  else none

def visit (message : String) (ending : Except Exception Unit) : List (String × Value) → Dispatched Call
  | [] =>
      match ending with
      | .error e => .thrown e
      | .ok () => .returned false none
  | (key,value) :: rest => (helper decoders message key value).getD (visit message ending rest)

def dispatch (message : String) (allowUnknownEventTypes : Bool) : Dispatched Call :=
  let (members,ending) := decoders.members message
  match visit decoders message ending members with
  | .returned result call =>
      if result || allowUnknownEventTypes then .returned result call else .fatal (unexpected message)
  | other => other

theorem keys_differ : decoders.compute KEY_TYPE ≠ decoders.compute KEY_MESSAGE ∧
    decoders.compute KEY_RESULT ≠ decoders.compute KEY_MESSAGE ∧ decoders.compute KEY_T ≠ decoders.compute KEY_MESSAGE ∧
    decoders.compute KEY_RESULT ≠ decoders.compute KEY_TYPE ∧ decoders.compute KEY_T ≠ decoders.compute KEY_TYPE ∧
    decoders.compute KEY_T ≠ decoders.compute KEY_RESULT := by
  have known := decoders.distinct
  simp only [KEYS,List.map_cons,List.map_nil,List.nodup_cons,List.mem_cons,List.not_mem_nil,or_false,not_or] at known
  obtain ⟨⟨one,two,three⟩,⟨four,five⟩,six,_⟩ := known
  exact ⟨Ne.symm one,Ne.symm two,Ne.symm three,Ne.symm four,Ne.symm five,Ne.symm six⟩

theorem helper_type (message text : String) : helper decoders message KEY_TYPE (.string text) =
    if text = VALUE_PONG then some (dispatchHelper decoders.pong (fun _ => .pong) message) else none := by
  simp only [helper,if_neg (keys_differ decoders).1,if_true]

theorem helper_T (message : String) (value : Value) : helper decoders message KEY_T value =
    match decoders.channel value with
    | .error e => some (.thrown e)
    | .ok channel => some (dispatchChannel decoders message channel) := by
  obtain ⟨_,_,one,_,two,three⟩ := keys_differ decoders
  simp only [helper,if_neg one,if_neg two,if_neg three,if_true]

theorem helper_other (message : String) (value : Value) (apart : ∀ known ∈ KEYS, decoders.compute key ≠ decoders.compute known) :
    helper decoders message key value = none := by
  simp only [KEYS,List.forall_mem_cons] at apart
  obtain ⟨one,two,three,four,_⟩ := apart
  simp only [helper,if_neg one,if_neg two,if_neg three,if_neg four]

-- The handler is called when the result is true and only then, and not with an error.
def Proper : Dispatched Call → Prop
  | .returned true call => ∃ made, call = some made ∧ ∀ message, made ≠ .error message
  | .returned false call => call = none
  | .thrown _ | .fatal _ => True

theorem dispatchHelper_proper {call : α → Call} (other : ∀ obj message, call obj ≠ .error message)
    (decode : String → Except Exception α) (message : String) : Proper (dispatchHelper decode call message) := by
  unfold dispatchHelper
  cases decode message with
  | error e => trivial
  | ok obj => exact ⟨call obj,rfl,other obj⟩

theorem dispatchChannel_proper (message : String) (channel : Channel) : Proper (dispatchChannel decoders message channel) := by
  cases channel with
  | undefinedInternal => trivial
  | unknownInternal => rfl
  | tickerFutures | tradeFutures | obuFutures | balanceUnified | positionAllUnified | orderAllUnified =>
      apply dispatchHelper_proper
      nofun

theorem helper_proper (message key : String) (value : Value) (made : helper decoders message key value = some dispatched) :
    Proper dispatched := by
  unfold helper at made
  dsimp only at made
  split at made
  · split at made
    · split at made
      · obtain rfl := Option.some.inj made
        exact dispatchHelper_proper nofun _ _
      · cases made
    · obtain rfl := Option.some.inj made
      trivial
  · split at made
    · split at made
      · split at made
        · obtain rfl := Option.some.inj made
          exact dispatchHelper_proper nofun _ _
        · cases made
      · obtain rfl := Option.some.inj made
        trivial
    · split at made
      · obtain rfl := Option.some.inj made
        exact dispatchHelper_proper nofun _ _
      · split at made
        · split at made
          · obtain rfl := Option.some.inj made
            trivial
          · obtain rfl := Option.some.inj made
            exact dispatchChannel_proper decoders _ _
        · cases made

theorem visit_proper (message : String) (ending : Except Exception Unit) (members : List (String × Value)) :
    Proper (visit decoders message ending members) := by
  induction members with
  | nil =>
      cases ending with
      | error e => trivial
      | ok => rfl
  | cons member rest ih =>
      obtain ⟨key,value⟩ := member
      unfold visit
      cases made : helper decoders message key value with
      | none => exact ih
      | some dispatched => exact helper_proper decoders message key value made

theorem dispatch_proper (message : String) (allow : Bool) : Proper (dispatch decoders message allow) := by
  have proper := visit_proper decoders message (decoders.members message).2 (decoders.members message).1
  unfold dispatch
  dsimp only
  split
  · rename_i visited
    rw [visited] at proper
    split
    · exact proper
    · trivial
  · exact proper

theorem visit_skips (message : String) (ending : Except Exception Unit) (rest : List (String × Value))
    (skipped : helper decoders message key value = none) :
    visit decoders message ending ((key,value) :: rest) = visit decoders message ending rest := by
  simp only [visit,skipped,Option.getD_none]

theorem visit_stops (message : String) (ending : Except Exception Unit) (rest : List (String × Value))
    (stopped : helper decoders message key value = some dispatched) :
    visit decoders message ending ((key,value) :: rest) = dispatched := by
  simp only [visit,stopped,Option.getD_some]

end Parser

-- WSParser::dispatch once more, with the ways in which it ends the process told
-- apart. The flag is not looked at.
def WSParser.dispatchFully (decoders : WSDecoders) (message : String) (_allowUnknownEventTypes : Bool) : Dispatched Call :=
  let error := dispatchHelper decoders.error Call.error message
  match decoders.message message with
  | .error e => .thrown e
  | .ok outer =>
      if outer.sessionId = "" then
        match outer.op with
        | .undefinedInternal => error
        | .unknownInternal => .fatal (unexpected message)
        | .pong => dispatchHelper decoders.pong .pong message
        | .addOrderAck => if outer.code ≠ CODE_SUCCESS then error else dispatchHelper decoders.addOrderAck .addOrderAck message
        | .cancelOrderAck =>
            if outer.code ≠ CODE_SUCCESS then error else dispatchHelper decoders.cancelOrderAck .cancelOrderAck message
      else if outer.pingInterval ≠ 0 then dispatchHelper decoders.welcome .welcome message
      else dispatchHelper decoders.auth (fun auth => .auth auth message) message

theorem dispatchHelper_toOption (decode : String → Except Exception α) (call : α → Call) (message : String) :
    (dispatchHelper decode call message).toOption = (decode message).toOption.map call := by
  unfold dispatchHelper
  cases decode message <;> rfl

theorem WSParser.dispatchFully_toOption (decoders : WSDecoders) (message : String) (allow : Bool) :
    (dispatchFully decoders message allow).toOption = dispatch decoders message := by
  unfold dispatchFully dispatch
  cases decoders.message message with
  | error e => rfl
  | ok outer =>
      simp only [Except.toOption,Option.bind_some]
      split
      · cases outer.op with
        | undefinedInternal | pong => exact dispatchHelper_toOption _ _ _
        | unknownInternal => rfl
        | addOrderAck | cancelOrderAck => dsimp only; split <;> exact dispatchHelper_toOption _ _ _
      · split <;> exact dispatchHelper_toOption _ _ _

end KucoinPro.Json

namespace KucoinPro.DropCopy
open Json

variable {D R : Type} [Download2 D State] [LimitRequest R] (config : Config)

def eventOf (t : TraceInfo) : Parser.Call → DropCopyEvent
  | .welcome => .welcome t
  | .error error => .error t error
  | .ack ack => .ack t ack
  | .pong | .balance | .positionAll | .orderAll => .logged
  | .ticker _ | .trade _ | .obu _ => .unexpected

-- An exception ends the process, a message that is not known is logged.
def parse (decoders : Decoders) (t : TraceInfo) (payload : String) (allowUnknownEventTypes : Bool) (c : Session D R) :
    Option (Session D R) :=
  match Parser.dispatch decoders payload allowUnknownEventTypes with
  | .returned _ none => some c
  | .returned _ (some call) => step config c (eventOf t call)
  | .thrown _ | .fatal _ => none

end KucoinPro.DropCopy
