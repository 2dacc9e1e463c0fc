import KucoinPro.ErrorMessages
import KucoinPro.MarketData

namespace KucoinPro.UnknownEvents
open Json

-- An object that is none of the messages, by the names of its members.
structure Unrecognised (decoders : Decoders) (payload : String) (members : List (String × Value)) : Prop where
  reads : decoders.members payload = (members,.ok ())
  message : ∀ value, (Parser.KEY_MESSAGE,value) ∈ members → value ≠ .string Parser.VALUE_WELCOME
  type : ∀ value, (Parser.KEY_TYPE,value) ∈ members → value ≠ .string Parser.VALUE_PONG
  result : ∀ value, (Parser.KEY_RESULT,value) ∉ members
  channel : ∀ value, (Parser.KEY_T,value) ∈ members →
    value = .null ∨ ∃ text, value = .string text ∧ (Channel.ofText text = .undefinedInternal ∨ Channel.ofText text = .unknownInternal)

-- What the generated decoder of WSMessage takes from the members of an object: a
-- session and a known op are spelled out by a member.
structure Reads (decoders : WSDecoders) (payload : String) (members : List (String × Value)) : Prop where
  sessionId : ∀ outer, decoders.message payload = .ok outer → outer.sessionId ≠ "" →
    ("sessionId",.string outer.sessionId) ∈ members
  op : ∀ outer, decoders.message payload = .ok outer → outer.op ≠ .undefinedInternal → outer.op ≠ .unknownInternal →
    ∃ text, ("op",.string text) ∈ members ∧ outer.op = WSOp.ofText text

structure WSUnrecognised (decoders : WSDecoders) (payload : String) (members : List (String × Value)) : Prop where
  reads : Reads decoders payload members
  sessionId : ∀ value, ("sessionId",value) ∉ members
  op : ∀ text, ("op",.string text) ∈ members → WSOp.ofText text = .undefinedInternal ∨ WSOp.ofText text = .unknownInternal

-- With the flag the dispatcher returns false and calls nothing, without it the process ends.
def Obeys (allow : Bool) (dispatched : Dispatched Call) : Prop :=
  match allow with
  | true => dispatched = .returned false none
  | false => ∃ what, dispatched = .fatal what

def hashesAs (decoders : Decoders) (known : String) (member : String × Value) : Bool :=
  decoders.compute member.1 == decoders.compute known

-- The members ahead of the first T.
def ahead (decoders : Decoders) (members : List (String × Value)) : List (String × Value) :=
  members.takeWhile fun member => !hashesAs decoders Parser.KEY_T member

-- A text where a text is compared, and no key that is mistaken for another.
structure Passed (decoders : Decoders) (member : String × Value) : Prop where
  message : hashesAs decoders Parser.KEY_MESSAGE member = true →
    ∃ text, member.2 = .string text ∧ text ≠ Parser.VALUE_WELCOME
  type : hashesAs decoders Parser.KEY_TYPE member = true → ∃ text, member.2 = .string text ∧ text ≠ Parser.VALUE_PONG
  result : hashesAs decoders Parser.KEY_RESULT member = false

-- The first T names a channel that is unknown. None at all is fatal.
def Ignored (decoders : Decoders) (allow : Bool) (member : String × Value) : Prop :=
  decoders.channel member.2 = .ok .unknownInternal ∨ allow = false ∧ decoders.channel member.2 = .ok .undefinedInternal

structure Harmless (decoders : Decoders) (allow : Bool) (members : List (String × Value)) : Prop where
  ahead : ∀ member ∈ ahead decoders members, Passed decoders member
  channel : ∀ member, members.find? (hashesAs decoders Parser.KEY_T) = some member → Ignored decoders allow member

-- What becomes of the message is settled by the flag alone.
def Quiet (allow : Bool) : Dispatched Call → Prop
  | .returned result _ => result = false
  | .thrown _ => False
  | .fatal _ => allow = false

theorem dispatchHelper_loud (decode : String → Except Exception α) (call : α → Call) (payload : String) :
    ¬ Quiet allow (dispatchHelper decode call payload) := by
  unfold dispatchHelper
  cases decode payload with
  | error e => exact id
  | ok obj =>
      intro quiet
      cases quiet

theorem dispatchChannel_quiet (decoders : Decoders) (channel : Channel) :
    Quiet allow (Parser.dispatchChannel decoders payload channel) ↔
      channel = .unknownInternal ∨ allow = false ∧ channel = .undefinedInternal := by
  cases channel with
  | undefinedInternal => simp [Parser.dispatchChannel,Quiet]
  | unknownInternal => simp [Parser.dispatchChannel,Quiet]
  | tickerFutures | tradeFutures | obuFutures | balanceUnified | positionAllUnified | orderAllUnified =>
      simp [Parser.dispatchChannel,dispatchHelper_loud]

-- The switch decides at the first T, one way or the other.
theorem visit_channel (decoders : Decoders) (rest : List (String × Value)) (known : hashesAs decoders Parser.KEY_T member = true) :
    Quiet allow (Parser.visit decoders payload (.ok ()) (member :: rest)) ↔ Ignored decoders allow member := by
  obtain ⟨key,value⟩ := member
  have hashed : decoders.compute key = decoders.compute Parser.KEY_T := beq_iff_eq.mp known
  obtain ⟨_,_,one,_,two,three⟩ := Parser.keys_differ decoders
  have made : Parser.helper decoders payload key value = Parser.helper decoders payload Parser.KEY_T value := by
    simp only [Parser.helper,hashed]
  unfold Ignored
  dsimp only
  cases channel : decoders.channel value with
  | error e =>
      have thrown : Parser.helper decoders payload key value = some (.thrown e) := by
        rw [made,Parser.helper_T,channel]
      rw [Parser.visit_stops decoders payload _ rest thrown]
      simp [Quiet]
  | ok channel' =>
      have stopped : Parser.helper decoders payload key value = some (Parser.dispatchChannel decoders payload channel') := by
        rw [made,Parser.helper_T,channel]
      rw [Parser.visit_stops decoders payload _ rest stopped,dispatchChannel_quiet]
      simp

theorem passed_helper (decoders : Decoders) (passed : Passed decoders member) (other : hashesAs decoders Parser.KEY_T member = false) :
    Parser.helper decoders payload member.1 member.2 = none := by
  have noT : decoders.compute member.1 ≠ decoders.compute Parser.KEY_T := by simpa [hashesAs] using other
  have noResult : decoders.compute member.1 ≠ decoders.compute Parser.KEY_RESULT := by simpa [hashesAs] using passed.result
  by_cases message : decoders.compute member.1 = decoders.compute Parser.KEY_MESSAGE
  · obtain ⟨text,same,differs⟩ := passed.message (beq_iff_eq.mpr message)
    simp only [Parser.helper,same,if_pos message,if_neg differs]
  · by_cases type : decoders.compute member.1 = decoders.compute Parser.KEY_TYPE
    · obtain ⟨text,same,differs⟩ := passed.type (beq_iff_eq.mpr type)
      simp only [Parser.helper,same,if_neg message,if_pos type,if_neg differs]
    · simp only [Parser.helper,if_neg message,if_neg type,if_neg noResult,if_neg noT]

-- Where it does stop, it throws or calls the handler.
theorem helper_loud (decoders : Decoders) (payload : String) (allow : Bool)
    (other : hashesAs decoders Parser.KEY_T member = false) :
    (∃ dispatched, Parser.helper decoders payload member.1 member.2 = some dispatched ∧ ¬ Quiet allow dispatched) ∨
      Passed decoders member := by
  obtain ⟨key,value⟩ := member
  obtain ⟨one,two,_,three,_,_⟩ := Parser.keys_differ decoders
  have noT : decoders.compute key ≠ decoders.compute Parser.KEY_T := by simpa [hashesAs] using other
  by_cases message : decoders.compute key = decoders.compute Parser.KEY_MESSAGE
  · cases value with
    | string text =>
        by_cases welcome : text = Parser.VALUE_WELCOME
        · refine .inl ⟨_,?_,dispatchHelper_loud decoders.welcome (fun _ => .welcome) payload⟩
          simp only [Parser.helper,if_pos message,if_pos welcome]
        · refine .inr ⟨fun _ => ⟨text,rfl,welcome⟩,?_,?_⟩
          · intro type
            exact absurd ((beq_iff_eq.mp type).symm.trans message) one
          · exact beq_eq_false_iff_ne.mpr fun result => two (result.symm.trans message)
    | null | boolean | number | object | array =>
        refine .inl ⟨.thrown Parser.badVariantAccess,?_,id⟩
        simp only [Parser.helper,if_pos message]
  · by_cases type : decoders.compute key = decoders.compute Parser.KEY_TYPE
    · cases value with
      | string text =>
          by_cases pong : text = Parser.VALUE_PONG
          · refine .inl ⟨_,?_,dispatchHelper_loud decoders.pong (fun _ => .pong) payload⟩
            simp only [Parser.helper,if_neg message,if_pos type,if_pos pong]
          · refine .inr ⟨?_,fun _ => ⟨text,rfl,pong⟩,?_⟩
            · intro known
              exact absurd (beq_iff_eq.mp known) message
            · exact beq_eq_false_iff_ne.mpr fun result => three (result.symm.trans type)
      | null | boolean | number | object | array =>
          refine .inl ⟨.thrown Parser.badVariantAccess,?_,id⟩
          simp only [Parser.helper,if_neg message,if_pos type]
    · by_cases result : decoders.compute key = decoders.compute Parser.KEY_RESULT
      · refine .inl ⟨_,?_,dispatchHelper_loud decoders.ack .ack payload⟩
        simp only [Parser.helper,if_neg message,if_neg type,if_pos result]
      · refine .inr ⟨?_,?_,beq_eq_false_iff_ne.mpr result⟩
        · intro known
          exact absurd (beq_iff_eq.mp known) message
        · intro known
          exact absurd (beq_iff_eq.mp known) type

theorem harmless_channel (decoders : Decoders) (rest : List (String × Value)) (known : hashesAs decoders Parser.KEY_T member = true) :
    Harmless decoders allow (member :: rest) ↔ Ignored decoders allow member := by
  constructor
  · intro harmless
    exact harmless.channel member (List.find?_cons_of_pos known)
  · intro ignored
    constructor
    · simp [UnknownEvents.ahead,known]
    · intro found first
      rw [List.find?_cons_of_pos known] at first
      exact Option.some.inj first ▸ ignored

theorem harmless_other (decoders : Decoders) (rest : List (String × Value)) (other : hashesAs decoders Parser.KEY_T member = false) :
    Harmless decoders allow (member :: rest) ↔ Passed decoders member ∧ Harmless decoders allow rest := by
  have split : UnknownEvents.ahead decoders (member :: rest) = member :: UnknownEvents.ahead decoders rest := by
    simp [UnknownEvents.ahead,other]
  have later : (member :: rest).find? (hashesAs decoders Parser.KEY_T) = rest.find? (hashesAs decoders Parser.KEY_T) :=
    List.find?_cons_of_neg (by simp [other])
  constructor
  · intro ⟨ahead,channel⟩
    rw [split] at ahead
    rw [later] at channel
    exact ⟨ahead member List.mem_cons_self,fun x inside => ahead x (List.mem_cons_of_mem _ inside),channel⟩
  · intro ⟨passed,ahead,channel⟩
    constructor
    · rw [split]
      exact List.forall_mem_cons.mpr ⟨passed,ahead⟩
    · rwa [later]

theorem visit_quiet (decoders : Decoders) (members : List (String × Value)) :
    Quiet allow (Parser.visit decoders payload (.ok ()) members) ↔ Harmless decoders allow members := by
  induction members with
  | nil =>
      constructor
      · intro _
        exact ⟨nofun,nofun⟩
      · intro _
        rfl
  | cons member rest ih =>
      cases known : hashesAs decoders Parser.KEY_T member with
      | true => rw [visit_channel decoders rest known,harmless_channel decoders rest known]
      | false =>
          rw [harmless_other decoders rest known]
          rcases helper_loud decoders payload allow known with ⟨dispatched,stopped,loud⟩ | passed
          · rw [Parser.visit_stops decoders payload _ rest stopped]
            constructor
            · intro quiet
              exact absurd quiet loud
            · intro ⟨passed,_⟩
              cases stopped.symm.trans (passed_helper decoders passed known)
          · rw [Parser.visit_skips decoders payload _ rest (passed_helper decoders passed known),ih]
            constructor
            · intro harmless
              exact ⟨passed,harmless⟩
            · intro ⟨_,harmless⟩
              exact harmless

-- No key is mistaken for one of the switch.
def Told (decoders : Decoders) (members : List (String × Value)) : Prop :=
  ∀ member ∈ members, ∀ known ∈ Parser.KEYS, hashesAs decoders known member = true → member.1 = known

theorem passed_iff {decoders : Decoders} (unrecognised : Unrecognised decoders payload members) (told : Told decoders members)
    (inside : member ∈ members) : Passed decoders member ↔
      (member.1 = Parser.KEY_MESSAGE ∨ member.1 = Parser.KEY_TYPE → ∃ text, member.2 = .string text) := by
  obtain ⟨key,value⟩ := member
  constructor
  · rintro passed (rfl | rfl)
    · obtain ⟨text,same,_⟩ := passed.message (beq_self_eq_true _)
      exact ⟨text,same⟩
    · obtain ⟨text,same,_⟩ := passed.type (beq_self_eq_true _)
      exact ⟨text,same⟩
  · intro texts
    refine ⟨?_,?_,?_⟩
    · intro hashed
      obtain rfl : key = Parser.KEY_MESSAGE := told _ inside _ (by decide) hashed
      obtain ⟨text,rfl⟩ := texts (.inl rfl)
      exact ⟨text,rfl,fun welcome => unrecognised.message _ inside (congrArg Value.string welcome)⟩
    · intro hashed
      obtain rfl : key = Parser.KEY_TYPE := told _ inside _ (by decide) hashed
      obtain ⟨text,rfl⟩ := texts (.inr rfl)
      exact ⟨text,rfl,fun pong => unrecognised.type _ inside (congrArg Value.string pong)⟩
    · cases hashed : hashesAs decoders Parser.KEY_RESULT (key,value) with
      | false => rfl
      | true =>
          obtain rfl : key = Parser.KEY_RESULT := told _ inside _ (by decide) hashed
          exact absurd inside (unrecognised.result value)

theorem ignored_iff {decoders : Decoders} (unrecognised : Unrecognised decoders payload members) (told : Told decoders members)
    (first : members.find? (hashesAs decoders Parser.KEY_T) = some member) : Ignored decoders allow member ↔
      allow = false ∨ ∃ text, member.2 = .string text ∧ Channel.ofText text = .unknownInternal := by
  obtain ⟨key,value⟩ := member
  have inside := List.mem_of_find?_eq_some first
  obtain rfl : key = Parser.KEY_T := told _ inside _ (by decide) (List.find?_some first)
  rcases unrecognised.channel value inside with rfl | ⟨text,rfl,missing | unknown⟩
  · simp [Ignored,decoders.channel_null]
  · simp [Ignored,decoders.channel_text,missing]
  · simp [Ignored,decoders.channel_text,unknown]

-- In the words of the message, where no key is mistaken for another.
theorem harmless_iff {decoders : Decoders} (unrecognised : Unrecognised decoders payload members) (told : Told decoders members) :
    Harmless decoders allow members ↔
      (∀ member ∈ ahead decoders members, member.1 = Parser.KEY_MESSAGE ∨ member.1 = Parser.KEY_TYPE →
        ∃ text, member.2 = .string text) ∧
      ∀ member, members.find? (hashesAs decoders Parser.KEY_T) = some member →
        allow = false ∨ ∃ text, member.2 = .string text ∧ Channel.ofText text = .unknownInternal := by
  have present : ∀ member ∈ ahead decoders members, member ∈ members :=
    fun _ inside => (List.takeWhile_sublist _).mem inside
  constructor
  · intro harmless
    refine ⟨?_,?_⟩
    · intro member inside
      exact (passed_iff unrecognised told (present member inside)).mp (harmless.ahead member inside)
    · intro member first
      exact (ignored_iff unrecognised told first).mp (harmless.channel member first)
  · intro ⟨texts,channel⟩
    refine ⟨?_,?_⟩
    · intro member inside
      exact (passed_iff unrecognised told (present member inside)).mpr (texts member inside)
    · intro member first
      exact (ignored_iff unrecognised told first).mpr (channel member first)

theorem dispatch_obeys {decoders : Decoders} (reads : decoders.members payload = (members,.ok ())) :
    Obeys allow (Parser.dispatch decoders payload allow) ↔ Quiet allow (Parser.visit decoders payload (.ok ()) members) := by
  have proper := Parser.visit_proper decoders payload (.ok ()) members
  simp only [Parser.dispatch,reads]
  cases visited : Parser.visit decoders payload (.ok ()) members with
  | returned result call =>
      rw [visited] at proper
      cases result with
      | true => cases allow <;> simp [Obeys,Quiet]
      | false =>
          obtain rfl : call = none := proper
          cases allow <;> simp [Obeys,Quiet]
  | thrown e => cases allow <;> simp [Obeys,Quiet]
  | fatal what => cases allow <;> simp [Obeys,Quiet]

-- The streams stay as they are where the dispatcher obeys, or end with it.
theorem streams_obey {Y S B D R : Type} {Q : Type → Type} [Symbols Y] [LimitQueue Q] [Sequencer S B]
    [Download2 D DropCopy.State] [LimitRequest R] {decoders : Decoders}
    (obeys : Obeys allow (Parser.dispatch decoders payload allow)) (config : GatewayConfig) (t : TraceInfo) (book : B)
    (c : Feed Y Q S B) (c' : Session D R) :
    MarketData.parse config decoders t book payload allow c = (if allow then some c else none) ∧
      DropCopy.parse config.account decoders t payload allow c' = (if allow then some c' else none) := by
  unfold MarketData.parse DropCopy.parse
  cases allow with
  | true =>
      have silent : Parser.dispatch decoders payload true = .returned false none := obeys
      rw [silent]
      exact ⟨rfl,rfl⟩
  | false =>
      obtain ⟨what,ended⟩ : ∃ what, Parser.dispatch decoders payload false = .fatal what := obeys
      rw [ended]
      exact ⟨rfl,rfl⟩

-- The other parser.

theorem ws_op {decoders : WSDecoders} (unrecognised : WSUnrecognised decoders payload members)
    (decoded : decoders.message payload = .ok outer) : outer.op = .undefinedInternal ∨ outer.op = .unknownInternal := by
  by_contra known
  rw [not_or] at known
  obtain ⟨text,inside,same⟩ := unrecognised.reads.op outer decoded known.1 known.2
  rw [same] at known
  exact not_or.mpr known (unrecognised.op text inside)

theorem ws_sessionId {decoders : WSDecoders} (unrecognised : WSUnrecognised decoders payload members)
    (decoded : decoders.message payload = .ok outer) : outer.sessionId = "" := by
  by_contra given
  exact unrecognised.sessionId _ (unrecognised.reads.sessionId outer decoded given)

theorem dispatchHelper_disobeys (decode : String → Except Exception α) (call : α → Call) (payload : String) (allow : Bool) :
    ¬ Obeys allow (dispatchHelper decode call payload) := by
  unfold dispatchHelper
  cases decode payload with
  | error e => cases allow <;> simp [Obeys]
  | ok obj => cases allow <;> simp [Obeys]

-- It never asks for the flag: a message without an op is an error, another one is fatal.
theorem ws_dispatch_obeys {decoders : WSDecoders} (unrecognised : WSUnrecognised decoders payload members) (allow : Bool) :
    Obeys allow (WSParser.dispatchFully decoders payload allow) ↔
      allow = false ∧ ∃ outer, decoders.message payload = .ok outer ∧ outer.op = .unknownInternal := by
  unfold WSParser.dispatchFully
  cases decoded : decoders.message payload with
  | error e => cases allow <;> simp [Obeys]
  | ok outer =>
      have anonymous := ws_sessionId unrecognised decoded
      rcases ws_op unrecognised decoded with missing | unknown
      · simp only [anonymous,missing,if_true]
        constructor
        · intro obeys
          exact absurd obeys (dispatchHelper_disobeys _ _ _ _)
        · rintro ⟨_,other,same,op⟩
          obtain rfl := Except.ok.inj same
          cases missing.symm.trans op
      · simp only [anonymous,unknown,if_true]
        cases allow with
        | true => simp [Obeys]
        | false =>
            constructor
            · intro _
              exact ⟨rfl,outer,rfl,unknown⟩
            · intro _
              exact ⟨_,rfl⟩

-- A message that is not known leaves the process to the flag if and only if nothing that is
-- not a text is compared with one, no channel is missing while the flag is set and, on the
-- other parser, the flag is not set and there is an op.
theorem unknown_events_are_survived (decoders : Decoders) (wsDecoders : WSDecoders) (payload : String)
    (members : List (String × Value)) (allow : Bool) :
    (Unrecognised decoders payload members →
      (Obeys allow (Parser.dispatch decoders payload allow) ↔ Harmless decoders allow members)) ∧
    (WSUnrecognised wsDecoders payload members →
      (Obeys allow (WSParser.dispatchFully wsDecoders payload allow) ↔
        allow = false ∧ ∃ outer, wsDecoders.message payload = .ok outer ∧ outer.op = .unknownInternal)) := by
  constructor
  · intro unrecognised
    exact (dispatch_obeys unrecognised.reads).trans (visit_quiet decoders members)
  · intro unrecognised
    exact ws_dispatch_obeys unrecognised allow

section closed
open ErrorMessages

-- A channel that was added at the other end.
def newChannelText : String := "\x7b\"T\":\"markPrice.FUTURES\",\"P\":1\x7d"

def newChannel : List (String × Value) := [("T",.string "markPrice.FUTURES"),("P",.number "1")]

-- A type that is a number now.
def newTypeText : String := "\x7b\"id\":\"1\",\"type\":5\x7d"

def newType : List (String × Value) := [("id",.string "1"),("type",.number "5")]

def newOpText : String := "\x7b\"id\":\"1\",\"op\":\"uta.amend\"\x7d"

def newOp : List (String × Value) := [("id",.string "1"),("op",.string "uta.amend")]

def undecoded : Except Exception α := .error (.std "not decoded")

def wsDecodersOf (op : WSOp) : WSDecoders where
  message _ := .ok ⟨"",0,0,op⟩
  auth _ := undecoded
  welcome _ := undecoded
  error _ := undecoded
  pong _ := undecoded
  addOrderAck _ := undecoded
  cancelOrderAck _ := undecoded

theorem newChannel_unrecognised : Unrecognised (decodersOf newChannel) newChannelText newChannel := by
  refine ⟨rfl,?_,?_,?_,?_⟩
  · intro value inside
    simp [newChannel,Parser.KEY_MESSAGE] at inside
  · intro value inside
    simp [newChannel,Parser.KEY_TYPE] at inside
  · intro value inside
    simp [newChannel,Parser.KEY_RESULT] at inside
  · intro value inside
    obtain rfl : value = .string "markPrice.FUTURES" := by simpa [newChannel,Parser.KEY_T] using inside
    exact .inr ⟨_,rfl,.inr (by decide)⟩

theorem newType_unrecognised : Unrecognised (decodersOf newType) newTypeText newType := by
  refine ⟨rfl,?_,?_,?_,?_⟩
  · intro value inside
    simp [newType,Parser.KEY_MESSAGE] at inside
  · intro value inside
    obtain rfl : value = .number "5" := by simpa [newType,Parser.KEY_TYPE] using inside
    nofun
  · intro value inside
    simp [newType,Parser.KEY_RESULT] at inside
  · intro value inside
    simp [newType,Parser.KEY_T] at inside

theorem newOp_unrecognised : WSUnrecognised (wsDecodersOf .unknownInternal) newOpText newOp := by
  refine ⟨⟨?_,?_⟩,?_,?_⟩
  · intro outer decoded given
    obtain rfl := Except.ok.inj decoded
    exact absurd rfl given
  · intro outer decoded _ known
    obtain rfl := Except.ok.inj decoded
    exact absurd rfl known
  · intro value inside
    simp [newOp] at inside
  · intro text inside
    obtain rfl : text = "uta.amend" := by simpa [newOp] using inside
    exact .inr (by decide)

theorem unknown_events_are_survived_channel :
    Obeys true (Parser.dispatch (decodersOf newChannel) newChannelText true) ∧
      Obeys false (WSParser.dispatchFully (wsDecodersOf .unknownInternal) newOpText false) := by
  constructor
  · have told : Told (decodersOf newChannel) newChannel := by
      unfold Told
      decide +kernel
    refine ((unknown_events_are_survived (decodersOf newChannel) (wsDecodersOf .unknownInternal) newChannelText newChannel true).1
      newChannel_unrecognised).mpr ((harmless_iff newChannel_unrecognised told).mpr ⟨?_,?_⟩)
    · have none_ahead : ahead (decodersOf newChannel) newChannel = [] := by decide +kernel
      rw [none_ahead]
      nofun
    · intro member first
      have found : newChannel.find? (hashesAs (decodersOf newChannel) Parser.KEY_T) =
          some ("T",.string "markPrice.FUTURES") := by decide +kernel
      obtain rfl := Option.some.inj (found.symm.trans first)
      exact .inr ⟨_,rfl,by decide⟩
  · exact ((unknown_events_are_survived (decodersOf newOp) (wsDecodersOf .unknownInternal) newOpText newOp false).2
      newOp_unrecognised).mpr ⟨rfl,_,rfl,rfl⟩

-- Both parsers end the process where the flag is set to keep it alive.
theorem unknown_event_is_fatal :
    (¬ ∀ (decoders : Decoders) (payload : String) (members : List (String × Value)) (allow : Bool),
      Unrecognised decoders payload members → Obeys allow (Parser.dispatch decoders payload allow)) ∧
    ¬ ∀ (decoders : WSDecoders) (payload : String) (members : List (String × Value)) (allow : Bool),
      WSUnrecognised decoders payload members → Obeys allow (WSParser.dispatchFully decoders payload allow) := by
  constructor
  · intro all
    have survived := all _ _ _ true newType_unrecognised
    have thrown : Parser.dispatch (decodersOf newType) newTypeText true = .thrown Parser.badVariantAccess := by
      rfl
    rw [thrown] at survived
    cases survived
  · intro all
    cases all _ _ _ true newOp_unrecognised

end closed
end KucoinPro.UnknownEvents
