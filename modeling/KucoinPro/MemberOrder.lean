import KucoinPro.ErrorMessages

-- Parser::dispatch once more, as the lambda runs: it captures the result and the
-- handler, and the walk over the members ends when it returns true.
namespace KucoinPro.Json.Parser

structure Captured where
  result : Bool
  calls : List Call

inductive Ended where
  | returned (result : Bool)
  | thrown (e : Exception)
  | fatal (what : String)

def callHandler (decode : String → Except Exception α) (make : α → Call) (message : String) (s : Captured) :
    Except Ended Bool × Captured :=
  match decode message with
  | .error e => (.error (.thrown e),s)
  | .ok obj => (.ok true,⟨true,s.calls ++ [make obj]⟩)

variable (decoders : Decoders)

def callChannel (message : String) (s : Captured) : Channel → Except Ended Bool × Captured
  | .undefinedInternal => (.error (.fatal "Unexpected"),s)
  | .unknownInternal => (.ok true,s)
  | .tickerFutures => callHandler decoders.ticker .ticker message s
  | .tradeFutures => callHandler decoders.trade .trade message s
  | .obuFutures => callHandler decoders.obu .obu message s
  | .balanceUnified => callHandler decoders.balance (fun _ => .balance) message s
  | .positionAllUnified => callHandler decoders.positionAll (fun _ => .positionAll) message s
  | .orderAllUnified => callHandler decoders.orderAll (fun _ => .orderAll) message s

def lambda (message key : String) (value : Value) (s : Captured) : Except Ended Bool × Captured :=
  let key2 := decoders.compute key
  if key2 = decoders.compute KEY_MESSAGE then
    match value with
    | .string text =>
        if text = VALUE_WELCOME then callHandler decoders.welcome (fun _ => .welcome) message s else (.ok s.result,s)
    | _ => (.error (.thrown badVariantAccess),s)
  else if key2 = decoders.compute KEY_TYPE then
    match value with
    | .string text => if text = VALUE_PONG then callHandler decoders.pong (fun _ => .pong) message s else (.ok s.result,s)
    | _ => (.error (.thrown badVariantAccess),s)
  else if key2 = decoders.compute KEY_RESULT then callHandler decoders.ack .ack message s
  else if key2 = decoders.compute KEY_T then
    match decoders.channel value with
    | .error e => (.error (.thrown e),s)
    | .ok channel => callChannel decoders message s channel
  else (.ok s.result,s)

-- core::json::Parser::dispatch
def walk (message : String) (ending : Except Exception Unit) : List (String × Value) → Captured → Except Ended Unit × Captured
  | [],s =>
      match ending with
      | .error e => (.error (.thrown e),s)
      | .ok () => (.ok (),s)
  | (key,value) :: rest,s =>
      match lambda decoders message key value s with
      | (.error ended,s) => (.error ended,s)
      | (.ok true,s) => (.ok (),s)
      | (.ok false,s) => walk message ending rest s

-- How it ends, and what the handler has been called with.
def dispatchCalls (message : String) (allowUnknownEventTypes : Bool) : Ended × List Call :=
  let (members,ending) := decoders.members message
  match walk decoders message ending members ⟨false,[]⟩ with
  | (.error ended,s) => (ended,s.calls)
  | (.ok (),s) =>
      (if s.result || allowUnknownEventTypes then .returned s.result else .fatal (unexpected message),s.calls)

-- What a dispatcher comes to, in these terms.
def ended : Dispatched Call → Ended × List Call
  | .returned result call => (.returned result,call.toList)
  | .thrown e => (.thrown e,[])
  | .fatal what => (.fatal what,[])

-- A member that is passed over leaves everything as it was captured; one that is
-- not leaves what the helper says.
def Answers (answer : Except Ended Bool × Captured) : Option (Dispatched Call) → Prop
  | none => answer = (.ok false,⟨false,[]⟩)
  | some (.returned result call) => answer = (.ok true,⟨result,call.toList⟩)
  | some (.thrown e) => answer = (.error (.thrown e),⟨false,[]⟩)
  | some (.fatal what) => answer = (.error (.fatal what),⟨false,[]⟩)

theorem callHandler_answers (decode : String → Except Exception α) (make : α → Call) (message : String) :
    Answers (callHandler decode make message ⟨false,[]⟩) (some (dispatchHelper decode make message)) := by
  unfold callHandler dispatchHelper
  cases decode message <;> rfl

theorem callChannel_answers (message : String) (channel : Channel) :
    Answers (callChannel decoders message ⟨false,[]⟩ channel) (some (dispatchChannel decoders message channel)) := by
  cases channel with
  | undefinedInternal | unknownInternal => rfl
  | tickerFutures | tradeFutures | obuFutures | balanceUnified | positionAllUnified | orderAllUnified =>
      exact callHandler_answers _ _ message

theorem lambda_answers (message key : String) (value : Value) :
    Answers (lambda decoders message key value ⟨false,[]⟩) (helper decoders message key value) := by
  unfold lambda helper
  dsimp only
  split
  · cases value with
    | string text =>
        dsimp only
        split
        · exact callHandler_answers _ _ message
        · rfl
    | null | boolean | number | object | array => rfl
  · split
    · cases value with
      | string text =>
          dsimp only
          split
          · exact callHandler_answers _ _ message
          · rfl
      | null | boolean | number | object | array => rfl
    · split
      · exact callHandler_answers _ _ message
      · split
        · cases decoders.channel value with
          | error e => rfl
          | ok channel => exact callChannel_answers decoders message channel
        · rfl

-- The walk comes to what the dispatcher comes to.
theorem walk_visits (message : String) (ending : Except Exception Unit) (members : List (String × Value)) :
    match visit decoders message ending members with
    | .returned result call => walk decoders message ending members ⟨false,[]⟩ = (.ok (),⟨result,call.toList⟩)
    | .thrown e => walk decoders message ending members ⟨false,[]⟩ = (.error (.thrown e),⟨false,[]⟩)
    | .fatal what => walk decoders message ending members ⟨false,[]⟩ = (.error (.fatal what),⟨false,[]⟩) := by
  induction members with
  | nil => cases ending <;> rfl
  | cons member rest ih =>
      obtain ⟨key,value⟩ := member
      have answer := lambda_answers decoders message key value
      unfold visit walk
      cases made : helper decoders message key value with
      | none =>
          rw [made] at answer
          rw [show lambda decoders message key value ⟨false,[]⟩ = _ from answer]
          exact ih
      | some dispatched =>
          rw [made] at answer
          cases dispatched with
          | returned | thrown | fatal =>
              rw [show lambda decoders message key value ⟨false,[]⟩ = _ from answer]
              rfl

theorem dispatchCalls_eq (message : String) (allow : Bool) :
    dispatchCalls decoders message allow = ended (dispatch decoders message allow) := by
  have walked := walk_visits decoders message (decoders.members message).2 (decoders.members message).1
  have proper := visit_proper decoders message (decoders.members message).2 (decoders.members message).1
  unfold dispatchCalls dispatch
  dsimp only
  cases visited : visit decoders message (decoders.members message).2 (decoders.members message).1 with
  | returned result call =>
      rw [visited] at walked proper
      dsimp only at walked
      rw [walked]
      cases result with
      | true => rfl
      | false =>
          obtain rfl : call = none := proper
          cases allow <;> rfl
  | thrown | fatal =>
      rw [visited] at walked
      dsimp only at walked
      rw [walked]
      rfl

end KucoinPro.Json.Parser

namespace KucoinPro.MemberOrder
open Json Json.Parser

inductive MessageType where
  | welcome | pong | ack | ticker | trade | obu | balance | positionAll | orderAll
  deriving DecidableEq, Repr

def MessageType.isOf : MessageType → Call → Bool
  | .welcome,.welcome | .pong,.pong | .ack,.ack _ | .ticker,.ticker _ | .trade,.trade _ | .obu,.obu _ | .balance,.balance
  | .positionAll,.positionAll | .orderAll,.orderAll => true
  | _,_ => false

-- What the generated decoder of the type makes of the message: the one call that
-- there can be, or an exception.
def MessageType.decode (decoders : Decoders) (message : String) : MessageType → Except Exception Call
  | .welcome => (decoders.welcome message).map fun _ => .welcome
  | .pong => (decoders.pong message).map fun _ => .pong
  | .ack => (decoders.ack message).map .ack
  | .ticker => (decoders.ticker message).map .ticker
  | .trade => (decoders.trade message).map .trade
  | .obu => (decoders.obu message).map .obu
  | .balance => (decoders.balance message).map fun _ => .balance
  | .positionAll => (decoders.positionAll message).map fun _ => .positionAll
  | .orderAll => (decoders.orderAll message).map fun _ => .orderAll

def channelType : Channel → Option MessageType
  | .undefinedInternal | .unknownInternal => none
  | .tickerFutures => some .ticker
  | .tradeFutures => some .trade
  | .obuFutures => some .obu
  | .balanceUnified => some .balance
  | .positionAllUnified => some .positionAll
  | .orderAllUnified => some .orderAll

-- A member that tells what the object is, and what it tells.
def isDiscriminator (member : String × Value) : Bool :=
  member = (KEY_MESSAGE,.string VALUE_WELCOME) || member = (KEY_TYPE,.string VALUE_PONG) || member.1 = KEY_RESULT || member.1 = KEY_T

def typeOf (member : String × Value) : Option MessageType :=
  if member.1 = KEY_MESSAGE then some .welcome
  else if member.1 = KEY_TYPE then some .pong
  else if member.1 = KEY_RESULT then some .ack
  else match member.2 with
    | .string text => channelType (Channel.ofText text)
    | _ => none

structure Discriminated (decoders : Decoders) (members : List (String × Value)) : Prop where
  distinct : (members.map Prod.fst).Nodup
  apart : ∀ member ∈ members, ∀ known ∈ KEYS, decoders.compute member.1 = decoders.compute known → member.1 = known
  message : ∀ value, (KEY_MESSAGE,value) ∈ members → ∃ text, value = .string text
  type : ∀ value, (KEY_TYPE,value) ∈ members → ∃ text, value = .string text
  one : ∀ member ∈ members, ∀ other ∈ members, isDiscriminator member = true → isDiscriminator other = true → member = other

-- The text of the object, with its members in some order.
def Spells (decoders : Decoders) (message : String) (members : List (String × Value)) : Prop :=
  ∃ order, decoders.members message = (order,.ok ()) ∧ order.Perm members

variable {decoders : Decoders} {members : List (String × Value)}

theorem helper_passes (known : Discriminated decoders members) (listed : member ∈ members)
    (other : isDiscriminator member = false) (message : String) : helper decoders message member.1 member.2 = none := by
  obtain ⟨key,value⟩ := member
  have apart := known.apart (key,value) listed
  simp only [isDiscriminator,Bool.or_eq_false_iff,decide_eq_false_iff_not] at other
  obtain ⟨⟨⟨notWelcome,notPong⟩,notResult⟩,notT⟩ := other
  by_cases isMessage : key = KEY_MESSAGE
  · subst isMessage
    obtain ⟨text,rfl⟩ := known.message value listed
    have differs : text ≠ VALUE_WELCOME := fun same => notWelcome (by rw [same])
    simp only [helper,if_true,if_neg differs]
  · by_cases isType : key = KEY_TYPE
    · subst isType
      obtain ⟨text,rfl⟩ := known.type value listed
      have differs : text ≠ VALUE_PONG := fun same => notPong (by rw [same])
      rw [helper_type,if_neg differs]
    · apply helper_other
      intro named member same
      have key_eq := apart named member same
      simp only [KEYS,List.mem_cons,List.not_mem_nil,or_false] at member
      rcases member with rfl | rfl | rfl | rfl
      · exact isMessage key_eq
      · exact isType key_eq
      · exact notResult key_eq
      · exact notT key_eq

-- What the dispatcher comes to once the type is known.
def decoded : Except Exception Call → Dispatched Call
  | .ok call => .returned true (some call)
  | .error e => .thrown e

theorem dispatchHelper_decodes (decode : String → Except Exception α) (call : α → Call) (message : String) :
    dispatchHelper decode call message = decoded ((decode message).map call) := by
  unfold dispatchHelper
  cases decode message with
  | error e => rfl
  | ok obj => rfl

theorem map_isOf {made : Except Exception α} {make : α → Call} {call : Call} (type : MessageType)
    (of : ∀ obj, type.isOf (make obj) = true) (mapped : made.map make = .ok call) : type.isOf call = true := by
  cases made with
  | error e => cases mapped
  | ok obj =>
      cases mapped
      exact of obj

theorem decode_isOf {type : MessageType} {call : Call} (decodes : type.decode decoders message = .ok call) :
    type.isOf call = true := by
  cases type with
  | welcome => exact map_isOf .welcome (fun _ => rfl) decodes
  | pong => exact map_isOf .pong (fun _ => rfl) decodes
  | ack => exact map_isOf .ack (fun _ => rfl) decodes
  | ticker => exact map_isOf .ticker (fun _ => rfl) decodes
  | trade => exact map_isOf .trade (fun _ => rfl) decodes
  | obu => exact map_isOf .obu (fun _ => rfl) decodes
  | balance => exact map_isOf .balance (fun _ => rfl) decodes
  | positionAll => exact map_isOf .positionAll (fun _ => rfl) decodes
  | orderAll => exact map_isOf .orderAll (fun _ => rfl) decodes

theorem dispatchChannel_decodes (channel : Channel) (named : channelType channel = some type) :
    dispatchChannel decoders message channel = decoded (type.decode decoders message) := by
  cases channel with
  | undefinedInternal | unknownInternal => cases named
  | tickerFutures | tradeFutures | obuFutures | balanceUnified | positionAllUnified | orderAllUnified =>
      cases named
      exact dispatchHelper_decodes _ _ message

theorem helper_decodes (discriminates : isDiscriminator member = true) (typed : typeOf member = some type) (message : String) :
    helper decoders message member.1 member.2 = some (decoded (type.decode decoders message)) := by
  obtain ⟨key,value⟩ := member
  obtain ⟨one,two,three,four,five,six⟩ := keys_differ decoders
  simp only [isDiscriminator,Bool.or_eq_true,decide_eq_true_eq] at discriminates
  rcases discriminates with ((same | same) | rfl) | rfl
  · cases same
    obtain rfl := Option.some.inj typed
    simp only [helper,if_true,dispatchHelper_decodes,MessageType.decode]
  · cases same
    obtain rfl := Option.some.inj typed
    rw [helper_type,if_pos rfl,dispatchHelper_decodes]
    rfl
  · obtain rfl := Option.some.inj typed
    simp only [helper,if_neg two,if_neg four,if_true,dispatchHelper_decodes,MessageType.decode]
  · cases value with
    | string text =>
        rw [helper_T,decoders.channel_text]
        exact congrArg some (dispatchChannel_decodes (Channel.ofText text) typed)
    | null | boolean | number | object | array => cases typed

-- Wherever it stands, the one member that stops the walk is all that counts.
theorem visit_one (ending : Except Exception Unit) (order : List (String × Value)) (listed : member ∈ order)
    (stops : helper decoders message member.1 member.2 = some dispatched)
    (others : ∀ other ∈ order, other ≠ member → helper decoders message other.1 other.2 = none) :
    visit decoders message ending order = dispatched := by
  induction order with
  | nil => cases listed
  | cons first rest ih =>
      by_cases same : first = member
      · subst same
        exact visit_stops decoders message ending rest stops
      · have later : member ∈ rest := (List.mem_cons.mp listed).resolve_left fun now => same now.symm
        rw [visit_skips decoders message ending rest (others first List.mem_cons_self same)]
        exact ih later fun other behind => others other (List.mem_cons_of_mem first behind)

theorem visit_none (order : List (String × Value)) (passed : ∀ member ∈ order, helper decoders message member.1 member.2 = none) :
    visit decoders message (.ok ()) order = .returned false none := by
  induction order with
  | nil => rfl
  | cons first rest ih =>
      rw [visit_skips decoders message _ rest (passed first List.mem_cons_self)]
      exact ih fun member behind => passed member (List.mem_cons_of_mem first behind)

theorem visit_discriminator (known : Discriminated decoders members) (spelled : order.Perm members) (listed : member ∈ members)
    (discriminates : isDiscriminator member = true) (stops : helper decoders message member.1 member.2 = some dispatched) :
    visit decoders message (.ok ()) order = dispatched := by
  refine visit_one _ order (spelled.symm.subset listed) stops ?_
  intro other behind differs
  have there := spelled.subset behind
  refine helper_passes known there ?_ message
  by_contra same
  exact differs (known.one other there member listed (Bool.not_eq_false _ ▸ same) discriminates)

theorem dispatchChannel_silent (channel : Channel) (unnamed : channelType channel = none) :
    dispatchChannel decoders message channel = .returned false none ∨ ∃ what, dispatchChannel decoders message channel = .fatal what := by
  cases channel with
  | undefinedInternal => exact .inr ⟨_,rfl⟩
  | unknownInternal => exact .inl rfl
  | tickerFutures | tradeFutures | obuFutures | balanceUnified | positionAllUnified | orderAllUnified => cases unnamed

theorem dispatchCalls_silent (allow : Bool) (read : decoders.members message = (order,.ok ()))
    (silent : visit decoders message (.ok ()) order = .returned false none ∨
      ∃ what, visit decoders message (.ok ()) order = .fatal what) : (dispatchCalls decoders message allow).2 = [] := by
  rw [dispatchCalls_eq,dispatch,read]
  dsimp only
  rcases silent with returned | ⟨what,ended⟩
  · rw [returned]
    cases allow <;> rfl
  · rw [ended]
    rfl

-- How it ends, with the calls of the handler, once the type is known.
def heard : Except Exception Call → Ended × List Call
  | .ok call => (.returned true,[call])
  | .error e => (.thrown e,[])

theorem dispatchCalls_heard (allow : Bool) (read : decoders.members message = (order,.ok ()))
    (visited : visit decoders message (.ok ()) order = decoded made) : dispatchCalls decoders message allow = heard made := by
  rw [dispatchCalls_eq,dispatch,read]
  dsimp only
  rw [visited]
  cases made with
  | error e => rfl
  | ok call => rfl

theorem discriminator_is_heard (allow : Bool) (known : Discriminated decoders members) (spells : Spells decoders message members)
    (listed : member ∈ members) (discriminates : isDiscriminator member = true) (typed : typeOf member = some type) :
    dispatchCalls decoders message allow = heard (type.decode decoders message) := by
  obtain ⟨order,read,spelled⟩ := spells
  exact dispatchCalls_heard allow read
    (visit_discriminator known spelled listed discriminates (helper_decodes discriminates typed message))

theorem unknown_is_unheard (allow : Bool) (known : Discriminated decoders members) (spells : Spells decoders message members)
    (unknown : ∀ member ∈ members, isDiscriminator member = true → member.1 = KEY_T ∧
      ∃ text, member.2 = .string text ∧ channelType (Channel.ofText text) = none) :
    (dispatchCalls decoders message allow).2 = [] := by
  obtain ⟨order,read,spelled⟩ := spells
  apply dispatchCalls_silent allow read
  by_cases discriminated : ∃ member ∈ members, isDiscriminator member = true
  · obtain ⟨⟨key,value⟩,listed,discriminates⟩ := discriminated
    obtain ⟨rfl,text,rfl,unnamed⟩ := unknown _ listed discriminates
    have stops := (helper_T decoders message (.string text)).trans (by rw [decoders.channel_text])
    rw [visit_discriminator known spelled listed discriminates stops]
    exact dispatchChannel_silent _ unnamed
  · refine .inl (visit_none order ?_)
    intro member behind
    have there := spelled.subset behind
    refine helper_passes known there ?_ message
    by_contra same
    exact discriminated ⟨member,there,Bool.not_eq_false _ ▸ same⟩

-- The discriminator is heard once, as its decoder reads the message, and not at all
-- where the decoder refuses it; nor is a T that names no channel. It is the same
-- wherever the members stand.
theorem member_order_does_not_matter (decoders : Decoders) (members : List (String × Value)) (message : String) (allow : Bool)
    (known : Discriminated decoders members) (spells : Spells decoders message members) :
    (∀ member ∈ members, isDiscriminator member = true → ∀ type, typeOf member = some type →
      (∀ call, type.decode decoders message = .ok call →
        type.isOf call = true ∧ dispatchCalls decoders message allow = (.returned true,[call])) ∧
      (∀ e, type.decode decoders message = .error e → dispatchCalls decoders message allow = (.thrown e,[])) ∧
      ∀ permuted, Spells decoders permuted members → type.decode decoders permuted = type.decode decoders message →
        dispatchCalls decoders permuted allow = dispatchCalls decoders message allow) ∧
    ((∀ member ∈ members, isDiscriminator member = true → member.1 = KEY_T ∧
      ∃ text, member.2 = .string text ∧ channelType (Channel.ofText text) = none) →
      (dispatchCalls decoders message allow).2 = []) := by
  refine ⟨?_,unknown_is_unheard allow known spells⟩
  intro member listed discriminates type typed
  have answer := discriminator_is_heard allow known spells listed discriminates typed
  refine ⟨?_,?_,?_⟩
  · intro call decodes
    rw [answer,decodes]
    exact ⟨decode_isOf decodes,rfl⟩
  · intro e refused
    rw [answer,refused]
    rfl
  · intro permuted other same
    rw [discriminator_is_heard allow known other listed discriminates typed,same,answer]

section closed
open ErrorMessages

-- A push message whose channel comes first, and the same one with it last.
def push : List (String × Value) := [("T",.string "balance.UNIFIED"),("P",.number "1"),("d",.object "\x7b\x7d")]

def first : String := "\x7b\"T\":\"balance.UNIFIED\",\"P\":1,\"d\":\x7b\x7d\x7d"
def last : String := "\x7b\"P\":1,\"d\":\x7b\x7d,\"T\":\"balance.UNIFIED\"\x7d"

def pushed : Decoders := {decodersOf push with members := fun text => (if text = last then push.rotate 1 else push,.ok ())}

theorem push_discriminated : Discriminated pushed push where
  distinct := by decide
  apart := by
    intro member listed known key
    revert known
    revert member
    decide +kernel
  message := by
    intro value listed
    simp [push,KEY_MESSAGE] at listed
  type := by
    intro value listed
    simp [push,KEY_TYPE] at listed
  one := by decide

theorem balance_is_heard_first_or_last :
    dispatchCalls pushed first false = (.returned true,[.balance]) ∧ dispatchCalls pushed last false = (.returned true,[.balance]) := by
  have heard : ∀ text, Spells pushed text push → dispatchCalls pushed text false = (.returned true,[.balance]) := by
    intro text spells
    have known := (member_order_does_not_matter pushed push text false push_discriminated spells).1
      ("T",.string "balance.UNIFIED") (by decide) (by decide) .balance (by decide)
    exact (known.1 .balance rfl).2
  constructor
  · exact heard first ⟨push,rfl,.refl push⟩
  · exact heard last ⟨push.rotate 1,rfl,by decide⟩

-- An Ack has a boolean for its result. One with a text for it is refused by the
-- decoder, whose exception leaves the dispatcher: the handler is not called.
def texted : List (String × Value) := [("result",.string "x")]

def textedText : String := "\x7b\"result\":\"x\"\x7d"

theorem texted_discriminated : Discriminated (decodersOf texted) texted where
  distinct := by decide
  apart := by
    intro member listed known key
    revert known
    revert member
    decide +kernel
  message := by
    intro value listed
    simp [texted,KEY_MESSAGE] at listed
  type := by
    intro value listed
    simp [texted,KEY_TYPE] at listed
  one := by decide

theorem refused_result_is_unheard : ¬ ∀ (decoders : Decoders) (members : List (String × Value)) (message : String) (allow : Bool),
    Discriminated decoders members → Spells decoders message members →
    ∀ member ∈ members, isDiscriminator member = true → ∀ type, typeOf member = some type →
      ∃ call, type.isOf call = true ∧ dispatchCalls decoders message allow = (.returned true,[call]) := by
  intro all
  obtain ⟨call,_,called⟩ := all (decodersOf texted) texted textedText false texted_discriminated ⟨texted,rfl,.refl texted⟩
    ("result",.string "x") (by decide) (by decide) .ack (by decide)
  have silent : (dispatchCalls (decodersOf texted) textedText false).2.length = 0 := by decide +kernel
  rw [called] at silent
  cases silent

end closed
end KucoinPro.MemberOrder
