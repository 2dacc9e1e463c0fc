import KucoinPro.GuardedRuns
import KucoinPro.OrderEntryRest

namespace KucoinPro.AccountSystem
open GuardedRuns

-- The streams of one account share a thread: events are handled one by one, in
-- any order. `none` is the end of the process (log::fatal, terminate).
variable {E D R : Type} [Download2 E OrderEntryREST.State] [Download2 D DropCopy.State] [LimitRequest R] (config : Config)

def initial : World E D R where
  dropCopy := none
  rest := {
    connectionStatus := .undefined
    download := Download2.create
    hasDownloadedPrivateToken := false
    downloadStaleOrdersCounter := 0 }
  request := Request.create
  inFlight := []
  submitted := 0
  log := []

def receive (event : Event) (w : World E D R) : World E D R := {w with log := .event event :: w.log}

def session (stream : DropCopy D) (w : World E D R) : Session D R := ⟨stream,w.request,w.log⟩

def resume (w : World E D R) (c : Session D R) : World E D R :=
  {w with dropCopy := some c.stream, request := c.request, log := c.log}

def step (w : World E D R) (event : Event) : Option (World E D R) :=
  let received := receive event w
  match event with
  | .rest event => OrderEntryREST.step config received event
  | .dropCopy event =>
      match w.dropCopy with
      | none => some received
      | some stream => (DropCopy.step config (session stream received) event).map (resume received)

def Run (guard : World E D R → Event → Prop) : World E D R → Prop := Reached initial (step config) guard

-- A drop copy event reaches the stream, or there is none yet and it is lost.
theorem step_dropCopy {w after : World E D R} (ran : step config w (.dropCopy event) = some after) :
    (w.dropCopy = none ∧ after = receive (.dropCopy event) w) ∨ ∃ stream c,
      w.dropCopy = some stream ∧ DropCopy.step config (session stream (receive (.dropCopy event) w)) event = some c ∧
      after = resume (receive (.dropCopy event) w) c := by
  cases present : w.dropCopy with
  | none =>
      simp only [step,present,Option.some.injEq] at ran
      exact .inl ⟨rfl,ran.symm⟩
  | some stream =>
      simp only [step,present,Option.map_eq_some_iff] at ran
      obtain ⟨c,stepped,resumed⟩ := ran
      exact .inr ⟨stream,c,rfl,stepped,resumed.symm⟩

end KucoinPro.AccountSystem

-- The smallest account, for closed runs: a body "ok" is a success with nothing
-- in it, "bad" does not parse, and any other is an answer with another code.
namespace KucoinPro.Smallest

def decode (data : α) (body : String) : Except Exception (Json.Envelope α) :=
  if body = "ok" then .ok ⟨Json.SYSTEM_CODE_SUCCESS,"",data⟩
  else if body = "bad" then .error (.std "parse")
  else .ok ⟨400100,body,data⟩

def platform : Platform where
  token := decode ⟨"t"⟩
  accountAck := decode ⟨[]⟩
  positionAck := decode []
  ordersAck := decode ⟨1,1,0,0,[]⟩
  executionAck := decode ⟨[]⟩
  addOrderAck := decode ⟨"1","1"⟩
  cancelOrderAck := decode ⟨["1"]⟩
  cancelAllOrdersAck := decode ⟨["1"]⟩
  orderBookAck body := .ok ⟨if body = "ok" then Json.SYSTEM_CODE_SUCCESS else 400100,⟨0,"",[],[],⟨0⟩⟩⟩
  decimal _ _ := "0"
  undefinedRawText := ""
  unknownRawText := ""
  formatStatus status := toString status
  enumNameError _ := "UNKNOWN_ORDER_ID"
  isEqual _ _ := true
  getOrderStatus
    | some status => .ok status
    | none => .error (.std "status")
  getOrderStatus_some _ := rfl

def setup (master : Bool) : Config where
  account := ⟨"A1",master,⟨"key","passphrase",id⟩⟩
  settings := ⟨"kucoin",5000000000,0,0,1000000000,true⟩
  platform := platform
  orderEntryStreamId := 2
  dropCopyStreamId := 3

abbrev Small := World (Stepper OrderEntryREST.State) (Stepper DropCopy.State) Slot

def t : TraceInfo := ⟨0,0⟩

def reply (body : String) : Web.Response where
  result := .ok ⟨200,.success,body⟩
  unexpected := .std "unexpected"
  proper r same other := by
    cases same
    simp at other

def failure (status : Nat) : Web.Response where
  result := .ok ⟨status,.serverError,""⟩
  unexpected := .std "unexpected"
  proper r same other := by
    cases same
    simp at other

def poll : Event := .rest (.timer t true (fun _ => true) (fun _ _ => none) [])
def answer (number : Nat) (response : Web.Response) : Event := .rest (.response t number response)
def tick : Event := .dropCopy (.timer t 0 true [])
def ack (name : String) : Event := .dropCopy (.ack t ⟨name,true⟩)
def drop : Event := .dropCopy (.disconnected t)
def welcome : Event := .dropCopy (.welcome t)

-- The order stream connects and downloads the token: the drop copy starts.
def startup : List Event := [.rest (.connected t),answer 0 (reply "ok"),welcome]

-- From there to GET_OPEN_ORDERS, and what the drop copy finds stale when the
-- open orders have come.
def stale (orders : List Order) : Event := .dropCopy (.timer t 0 true orders)

def toStaleOrders (orders : List Order) : List Event :=
  startup ++ [ack "SUBSCRIBE_BALANCES",poll,answer 1 (reply "ok"),tick,
    ack "SUBSCRIBE_POSITIONS",poll,answer 2 (reply "ok"),tick,
    ack "SUBSCRIBE_ORDERS",poll,answer 3 (reply "ok"),stale orders]

end KucoinPro.Smallest
