import KucoinPro.AccountSystem
import KucoinPro.Parser

namespace KucoinPro.ErrorMessages
open Json

variable {D R : Type}

-- A JSON object of the schema Error, without its outer text.
structure ErrorObject where
  code : Option Int
  data : String
  id : Option String
  deriving DecidableEq, Repr

def ErrorObject.members (object : ErrorObject) : List (String × Value) :=
  ("type",.string "error") :: ("data",.string object.data) ::
    (object.code.toList.map (fun code => ("code",.number (toString code))) ++
      object.id.toList.map (fun text => ("id",.string text)))

-- The members may come in any order.
def Conforms (decoders : Decoders) (payload : String) (object : ErrorObject) : Prop :=
  ∃ members, decoders.members payload = (members,.ok ()) ∧ members.Perm object.members

-- The handler gets it, once, with its content.
def Arrives (decoders : Decoders) (payload : String) (allow : Bool) (object : ErrorObject) : Prop :=
  ∃ message, Parser.dispatch decoders payload allow = .returned true (some (.error message)) ∧
    message.data = object.data ∧ (∀ code, object.code = some code → message.code = code) ∧
    ∀ text, object.id = some text → message.id = text

-- The drop copy asks for a private token, and lives on.
def Renews [LimitRequest R] (after : Option (Session D R)) : Prop :=
  ∃ c, after = some c ∧ c.stream.query = "" ∧ c.request.pending .privateToken = true

-- The other keys of the schema have hashes of their own.
def Apart (decoders : Decoders) : Prop :=
  ∀ key ∈ ["data","code","id"], ∀ known ∈ Parser.KEYS, decoders.compute key ≠ decoders.compute known

theorem mem_members {object : ErrorObject} (member : x ∈ object.members) :
    x = ("type",.string "error") ∨ x.1 ∈ ["data","code","id"] := by
  simp only [ErrorObject.members,List.mem_cons,List.mem_append,List.mem_map] at member
  rcases member with type | data | ⟨_,_,code⟩ | ⟨_,_,text⟩
  · exact .inl type
  · exact .inr (by simp [data])
  · exact .inr (by simp [← code])
  · exact .inr (by simp [← text])

-- The dispatcher passes over every member, and is left with nothing.
theorem dispatch_error {decoders : Decoders} {object : ErrorObject} (allow : Bool) (conforms : Conforms decoders payload object)
    (apart : Apart decoders) : Parser.dispatch decoders payload allow =
      if allow then .returned false none else .fatal (unexpected payload) := by
  obtain ⟨members,read,order⟩ := conforms
  have skipped : ∀ x ∈ members, Parser.helper decoders payload x.1 x.2 = none := by
    intro x member
    rcases mem_members (order.subset member) with rfl | other
    · exact (Parser.helper_type decoders payload "error").trans (if_neg (by decide))
    · exact Parser.helper_other decoders payload x.2 (apart x.1 other)
  have passed : Parser.visit decoders payload (.ok ()) members = .returned false none := by
    clear read order
    induction members with
    | nil => rfl
    | cons x rest ih =>
        obtain ⟨key,value⟩ := x
        rw [Parser.visit_skips decoders payload _ rest (skipped _ List.mem_cons_self)]
        exact ih fun y member => skipped y (List.mem_cons_of_mem _ member)
  simp only [Parser.dispatch,read,passed,Bool.false_or]

variable [Download2 D DropCopy.State] [LimitRequest R]

section query

def SameQuery (before after : Session D R) : Prop := after.stream.query = before.stream.query

omit [Download2 D DropCopy.State] [LimitRequest R] in
theorem SameQuery.trans {a b c : Session D R} (one : SameQuery a b) (two : SameQuery b c) : SameQuery a c := Eq.trans two one

omit [Download2 D DropCopy.State] in
theorem onDownload_query (config : Config) (t : TraceInfo) (d : D) (s : DropCopy.State) (c : Session D R) :
    SameQuery c (DropCopy.onDownload config t d s c).2 := by
  cases s with
  | getStaleOrders | getTrades =>
      simp only [DropCopy.onDownload]
      split <;> rfl
  | _ => rfl

variable [LawfulDownload2 D]

theorem onWelcome_query (config : Config) (t : TraceInfo) (c : Session D R) : SameQuery c (DropCopy.onWelcome config t c) :=
  begin_related SameQuery (fun _ => rfl) (fun _ _ _ => .trans) (onDownload_query config t) c.stream.download
    {c with stream.welcome := true}

theorem onAck_query (config : Config) (t : TraceInfo) (message : Ack) (c : Session D R) :
    SameQuery c (DropCopy.onAck config t message c) := by
  unfold DropCopy.onAck
  split
  · exact check_related SameQuery (fun _ => rfl) (fun _ _ _ => .trans) (onDownload_query config t) _ c.stream.download c
  · rfl

-- Nothing but an error makes the drop copy give up its query.
theorem parse_query {config : Config} {after c : Session D R}
    (parsed : DropCopy.parse config decoders t payload allow c = some after) : SameQuery c after := by
  have proper := Parser.dispatch_proper decoders payload allow
  unfold DropCopy.parse at parsed
  cases dispatched : Parser.dispatch decoders payload allow with
  | thrown | fatal =>
      rw [dispatched] at parsed
      cases parsed
  | returned result call =>
      rw [dispatched] at parsed proper
      cases call with
      | none =>
          obtain rfl := Option.some.inj parsed
          rfl
      | some call =>
          cases call with
          | error error =>
              cases result with
              | false => cases proper
              | true =>
                  obtain ⟨made,same,other⟩ := proper
                  exact absurd (Option.some.inj same).symm (other error)
          | welcome =>
              obtain rfl := Option.some.inj parsed
              exact onWelcome_query config t c
          | ack message =>
              obtain rfl := Option.some.inj parsed
              exact onAck_query config t message c
          | pong | balance | positionAll | orderAll =>
              obtain rfl := Option.some.inj parsed
              rfl
          | ticker | trade | obu => cases parsed

end query

-- No error message arrives, whatever the flag is, and none renews the token: it is
-- passed over, or it is fatal.
theorem errors_never_arrive [LawfulDownload2 D] (config : Config) (decoders : Decoders) (t : TraceInfo) (payload : String)
    (allow : Bool) (object : ErrorObject) (conforms : Conforms decoders payload object) (c : Session D R)
    (asked : c.stream.query ≠ "") :
    ¬ Arrives decoders payload allow object ∧ ¬ Renews (DropCopy.parse config decoders t payload allow c) ∧
      (Apart decoders → DropCopy.parse config decoders t payload allow c = if allow then some c else none) := by
  refine ⟨?_,?_,?_⟩
  · intro ⟨message,same,_⟩
    have proper := Parser.dispatch_proper decoders payload allow
    rw [same] at proper
    obtain ⟨made,called,other⟩ := proper
    exact other message (Option.some.inj called).symm
  · intro ⟨after,parsed,empty,_⟩
    exact asked ((parse_query parsed).symm.trans empty)
  · intro apart
    unfold DropCopy.parse
    rw [dispatch_error allow conforms apart]
    cases allow <;> rfl

section closed
open Smallest

-- The decoders of a text that is an object with these members.
def decodersOf (members : List (String × Value)) : Decoders where
  compute := fnv
  distinct := by decide +kernel
  members _ := (members,.ok ())
  channel
    | .null => .ok .undefinedInternal
    | .string text => .ok (Channel.ofText text)
    | _ => .error (.std "channel")
  channel_null := rfl
  channel_text _ := rfl
  welcome _ := .ok ()
  pong _ := .ok ()
  ack _ := .error (.std "ack")
  ticker _ := .error (.std "ticker")
  trade _ := .error (.std "trade")
  obu _ := .error (.std "obu")
  balance _ := .ok ()
  positionAll _ := .ok ()
  orderAll _ := .ok ()

def expired : ErrorObject := ⟨some 401,"token is expired",some "1"⟩

def expiredText : String := "\x7b\"id\":\"1\",\"type\":\"error\",\"code\":401,\"data\":\"token is expired\"\x7d"

def inItsOrder : List (String × Value) :=
  [("id",.string "1"),("type",.string "error"),("code",.number "401"),("data",.string "token is expired")]

theorem expired_conforms : Conforms (decodersOf inItsOrder) expiredText expired := by
  refine ⟨inItsOrder,rfl,?_⟩
  have known : expired.members =
      [("type",.string "error"),("data",.string "token is expired"),("code",.number "401"),("id",.string "1")] := by decide
  rw [known]
  decide

theorem decodersOf_apart (members : List (String × Value)) : Apart (decodersOf members) := by
  have apart : ∀ key ∈ ["data","code","id"], ∀ known ∈ Parser.KEYS, fnv key ≠ fnv known := by decide +kernel
  exact apart

abbrev SmallSession := Session (Stepper DropCopy.State) Slot

def listening : SmallSession := ⟨DropCopy.create "?token=t",Request.create,[]⟩

theorem errors_never_arrive_expired :
    (¬ Arrives (decodersOf inItsOrder) expiredText false expired ∧
      DropCopy.parse (setup true) (decodersOf inItsOrder) t expiredText false listening = none) ∧
    ¬ Arrives (decodersOf inItsOrder) expiredText true expired ∧
      DropCopy.parse (setup true) (decodersOf inItsOrder) t expiredText true listening = some listening := by
  have asked : listening.stream.query ≠ "" := by decide
  have strict := errors_never_arrive (setup true) (decodersOf inItsOrder) t expiredText false expired expired_conforms
    listening asked
  have lenient := errors_never_arrive (setup true) (decodersOf inItsOrder) t expiredText true expired expired_conforms
    listening asked
  exact ⟨⟨strict.1,strict.2.2 (decodersOf_apart _)⟩,lenient.1,lenient.2.2 (decodersOf_apart _)⟩

-- The token has expired, and the process ends.
theorem expired_token_is_fatal : ¬ ∀ (decoders : Decoders) (payload : String) (allow : Bool) (object : ErrorObject),
    Conforms decoders payload object → Apart decoders →
    Arrives decoders payload allow object ∧ Renews (DropCopy.parse (setup true) decoders t payload allow listening) := by
  intro all
  obtain ⟨_,after,survived,_⟩ := all (decodersOf inItsOrder) expiredText false expired expired_conforms (decodersOf_apart _)
  have ended : (DropCopy.parse (setup true) (decodersOf inItsOrder) t expiredText false listening).isNone = true := by
    decide +kernel
  rw [survived] at ended
  cases ended

end closed
end KucoinPro.ErrorMessages
