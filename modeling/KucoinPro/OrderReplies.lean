import KucoinPro.OrderEntryWs
import KucoinPro.Parser
import KucoinPro.AccountSystem

namespace KucoinPro.OrderReplies
open Json OrderEntryWS

abbrev Members := List (String × Value)

-- A member of a schema that is a text, and one that is an integer; both may be
-- left out.
def textOf (key : String) (members : Members) : String :=
  match members.lookup key with
  | some (.string text) => text
  | _ => ""

def int32Of (int32 : Value → Int) (key : String) (members : Members) : Int := ((members.lookup key).map int32).getD 0

-- The generated decoders take their members by name, each its own ones: `int32`
-- is what they make of an integer. The data of an acknowledgement is not looked into.
structure ByName (decoders : WSDecoders) (int32 : Value → Int) (payload : String) (members : Members) : Prop where
  message : ∀ outer, decoders.message payload = .ok outer → outer.sessionId = textOf "sessionId" members ∧
    outer.code = int32Of int32 "code" members ∧ outer.op = WSOp.ofText (textOf "op" members)
  error : ∀ error, decoders.error payload = .ok error → error.code = int32Of int32 "code" members ∧
    error.msg = textOf "msg" members ∧ error.id = textOf "id" members ∧ error.op = WSOp.ofText (textOf "op" members)
  addOrderAck : ∀ ack, decoders.addOrderAck payload = .ok ack → ack.id = textOf "id" members
  cancelOrderAck : ∀ ack, decoders.cancelOrderAck payload = .ok ack → ack.id = textOf "id" members

inductive OrderOp where
  | order
  | cancel
  deriving DecidableEq, Repr

def OrderOp.text : OrderOp → String
  | .order => "uta.order"
  | .cancel => "uta.cancel"

def OrderOp.requestType : OrderOp → RequestType
  | .order => .createOrder
  | .cancel => .cancelOrder

-- The order ids of an acknowledgement, as far as a response takes them.
def OrderOp.ids (decoders : WSDecoders) (payload : String) : OrderOp → Option (String × String)
  | .order => (decoders.addOrderAck payload).toOption.map fun ack => (ack.data.orderId,ack.data.clientOid)
  | .cancel => (decoders.cancelOrderAck payload).toOption.map fun ack => ("",ack.data.clientOid)

-- A message without a sessionId and with this op, that parses as what its code
-- says it is.
structure Reply (decoders : WSDecoders) (int32 : Value → Int) (payload : String) (members : Members) (op : OrderOp) : Prop where
  byName : ByName decoders int32 payload members
  sessionId : textOf "sessionId" members = ""
  named : textOf "op" members = op.text
  message : (decoders.message payload).toOption.isSome = true
  success : int32Of int32 "code" members = SYSTEM_CODE_SUCCESS → (op.ids decoders payload).isSome = true
  failure : int32Of int32 "code" members ≠ SYSTEM_CODE_SUCCESS → (decoders.error payload).toOption.isSome = true

structure Answers (decoders : WSDecoders) (int32 : Value → Int) (payload : String) (members : Members) (op : OrderOp)
    (response : Response) : Prop where
  requestType : response.requestType = op.requestType
  requestId : response.requestId = textOf "id" members
  accepted : int32Of int32 "code" members = SYSTEM_CODE_SUCCESS → response.requestStatus = .accepted ∧
    op.ids decoders payload = some (response.externalOrderId,response.clientOrderId)
  rejected : int32Of int32 "code" members ≠ SYSTEM_CODE_SUCCESS → response.requestStatus = .rejected ∧
    response.externalOrderId = "" ∧ response.clientOrderId = ""

variable {decoders : WSDecoders} {int32 : Value → Int} {payload : String} {members : Members} {op : OrderOp}

-- The first decoding classifies the message.
theorem reply_dispatch (reply : Reply decoders int32 payload members op) : WSParser.dispatch decoders payload =
    if int32Of int32 "code" members ≠ SYSTEM_CODE_SUCCESS then (decoders.error payload).toOption.map WSParser.Call.error
    else match op with
      | .order => (decoders.addOrderAck payload).toOption.map .addOrderAck
      | .cancel => (decoders.cancelOrderAck payload).toOption.map .cancelOrderAck := by
  obtain ⟨outer,decoded⟩ := Option.isSome_iff_exists.mp reply.message
  have parsed : decoders.message payload = .ok outer := by
    cases known : decoders.message payload with
    | error e => simp [known,Except.toOption] at decoded
    | ok other => simpa [known,Except.toOption] using decoded
  obtain ⟨sessionId,code,named⟩ := reply.byName.message outer parsed
  rw [reply.sessionId] at sessionId
  rw [reply.named] at named
  unfold WSParser.dispatch
  simp only [parsed,Except.toOption,Option.bind_some,sessionId,if_true,code,named]
  cases op <;> rfl

theorem toOption_some {read : Except Exception α} (parsed : read.toOption.isSome = true) : ∃ value, read = .ok value := by
  cases read with
  | error e => cases parsed
  | ok value => exact ⟨value,rfl⟩

theorem ids_read {ids : String × String} (known : op.ids decoders payload = some ids) : match op with
    | .order => ∃ ack, decoders.addOrderAck payload = .ok ack ∧ ids = (ack.data.orderId,ack.data.clientOid)
    | .cancel => ∃ ack, decoders.cancelOrderAck payload = .ok ack ∧ ids = ("",ack.data.clientOid) := by
  cases op with
  | order | cancel =>
      obtain ⟨ack,read,rfl⟩ := Option.map_eq_some_iff.mp known
      obtain ⟨other,parsed⟩ := toOption_some (Option.isSome_of_eq_some read)
      rw [parsed] at read
      exact ⟨other,parsed,by rw [Option.some.inj read]⟩

variable {config : Config}

theorem failure_answers (reply : Reply decoders int32 payload members op)
    (failed : int32Of int32 "code" members ≠ SYSTEM_CODE_SUCCESS) (s : OrderEntryWS.Session) : ∃ response,
      parse config decoders payload s = some (s.emit (.response response config.orderEntryStreamId)) ∧
      Answers decoders int32 payload members op response := by
  obtain ⟨error,decoded⟩ := toOption_some (reply.failure failed)
  obtain ⟨code,msg,requestId,named⟩ := reply.byName.error error decoded
  rw [reply.named] at named
  unfold parse
  rw [reply_dispatch reply,if_pos failed,decoded]
  cases op with
  | order | cancel =>
      refine ⟨_,by simp only [Except.toOption,Option.map_some,Option.bind_some,onError,named]; rfl,rfl,requestId,?_,?_⟩
      · intro success
        exact absurd success failed
      · intro _
        exact ⟨rfl,rfl,rfl⟩

theorem success_answers (reply : Reply decoders int32 payload members op)
    (succeeded : int32Of int32 "code" members = SYSTEM_CODE_SUCCESS) (s : OrderEntryWS.Session) : ∃ response,
      parse config decoders payload s = some (s.emit (.response response config.orderEntryStreamId)) ∧
      Answers decoders int32 payload members op response := by
  obtain ⟨ids,known⟩ := Option.isSome_iff_exists.mp (reply.success succeeded)
  have read := ids_read known
  unfold parse
  rw [reply_dispatch reply,if_neg (not_not.mpr succeeded)]
  cases op with
  | order =>
      obtain ⟨ack,decoded,rfl⟩ := read
      refine ⟨_,by rw [decoded]; rfl,rfl,reply.byName.addOrderAck ack decoded,?_,?_⟩
      · intro _
        exact ⟨rfl,known⟩
      · intro failed
        exact absurd succeeded failed
  | cancel =>
      obtain ⟨ack,decoded,rfl⟩ := read
      refine ⟨_,by rw [decoded]; rfl,rfl,reply.byName.cancelOrderAck ack decoded,?_,?_⟩
      · intro _
        exact ⟨rfl,known⟩
      · intro failed
        exact absurd succeeded failed

-- The stream lives on, is not touched, and has answered once.
theorem order_reply_is_answered_once (config : Config) (decoders : WSDecoders) (int32 : Value → Int) (t : TraceInfo)
    (payload : String) (members : Members) (op : OrderOp) (s : OrderEntryWS.Session) (reply : Reply decoders int32 payload members op) :
    ∃ after response, step config decoders s (.text t payload) = some after ∧ after.stream = s.stream ∧
      after.log = .response response config.orderEntryStreamId :: s.log ∧
      Answers decoders int32 payload members op response := by
  by_cases code : int32Of int32 "code" members = SYSTEM_CODE_SUCCESS
  · obtain ⟨response,parsed,answers⟩ := success_answers reply code s
    exact ⟨_,response,parsed,rfl,rfl,answers⟩
  · obtain ⟨response,parsed,answers⟩ := failure_answers reply code s
    exact ⟨_,response,parsed,rfl,rfl,answers⟩

section closed
open Smallest

-- Without a sign, as the codes are.
def number : Value → Int
  | .number text | .string text => text.toList.foldl (fun n c => 10 * n + (c.toNat - '0'.toNat)) 0
  | _ => 0

-- Decoders of a text that is an object with these members.
def readersOf (members : Members) : WSDecoders where
  message _ := .ok ⟨textOf "sessionId" members,0,int32Of number "code" members,WSOp.ofText (textOf "op" members)⟩
  auth _ := .error (.std "auth")
  welcome _ := .error (.std "welcome")
  error _ := .ok ⟨int32Of number "code" members,textOf "msg" members,textOf "id" members,WSOp.ofText (textOf "op" members)⟩
  pong _ := .error (.std "pong")
  addOrderAck _ := .ok ⟨textOf "id" members,⟨"414899660931538944","UgACRG2H61MAAQAAAAAA"⟩⟩
  cancelOrderAck _ := .ok ⟨textOf "id" members,⟨"414899660931538944","UgACRG2H61MAAQAAAAAA"⟩⟩

theorem readersOf_byName (payload : String) (members : Members) : ByName (readersOf members) number payload members where
  message := by
    rintro _ ⟨⟩
    exact ⟨rfl,rfl,rfl⟩
  error := by
    rintro _ ⟨⟩
    exact ⟨rfl,rfl,rfl,rfl⟩
  addOrderAck := by
    rintro _ ⟨⟩
    rfl
  cancelOrderAck := by
    rintro _ ⟨⟩
    rfl

-- The replies of the tests: a cancellation that succeeds and one that does not.
def cancelled (code : String) : Members :=
  [("id",.string "UQACRG2H61MAAgAAAAAA"),("op",.string "uta.cancel"),("code",.string code)]

theorem cancelled_reply (code : String) : Reply (readersOf (cancelled code)) number "" (cancelled code) .cancel where
  byName := readersOf_byName "" (cancelled code)
  sessionId := rfl
  named := rfl
  message := rfl
  success _ := rfl
  failure _ := rfl

theorem cancellation_is_answered :
    (∃ after response, step (setup true) (readersOf (cancelled "200000")) initial (.text t "") = some after ∧
      after.log = [.response response 2] ∧ response.requestStatus = .accepted) ∧
    ∃ after response, step (setup true) (readersOf (cancelled "100004")) initial (.text t "") = some after ∧
      after.log = [.response response 2] ∧ response.requestStatus = .rejected := by
  have answered := fun code => order_reply_is_answered_once (setup true) (readersOf (cancelled code)) number t "" (cancelled code)
    .cancel initial (cancelled_reply code)
  constructor
  · obtain ⟨after,response,stepped,_,log,answers⟩ := answered "200000"
    exact ⟨after,response,stepped,log,(answers.accepted (by decide +kernel)).1⟩
  · obtain ⟨after,response,stepped,_,log,answers⟩ := answered "100004"
    exact ⟨after,response,stepped,log,(answers.rejected (by decide +kernel)).1⟩

end closed
end KucoinPro.OrderReplies
