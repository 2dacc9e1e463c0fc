import KucoinPro.AccountSystem
import KucoinPro.OrderEntryWs

namespace KucoinPro.OrderReadiness
open GuardedRuns

-- server::OrderActionStream, as the server sees it: whether it is ready, the
-- actions it offers at all, and what a call does and throws.
structure OrderActionStream (σ : Type) where
  isReady : σ → Bool
  offers : OrderAction → Bool
  act : σ → OrderAction → Except ActionError Unit × σ

namespace OrderActionStream
variable {σ : Type} (stream : OrderActionStream σ)

-- The call throws and nothing has happened, in the stream or at its connection.
def Refuses (s : σ) (action : OrderAction) : Prop :=
  (stream.act s action).2 = s ∧ ∃ what, (stream.act s action).1 =
    .error (if stream.offers action then .notReady what else .notSupported what)

-- Nothing leaves the gateway on a stream that is not ready.
def Safe (s : σ) (action : OrderAction) : Prop := stream.isReady s = false → stream.Refuses s action

end OrderActionStream

variable {E D R : Type} (config : Config)

def isModify : OrderAction → Bool
  | .modifyOrder _ _ _ => true
  | _ => false

def isCancelAll : OrderAction → Bool
  | .cancelAllOrders _ _ _ _ => true
  | _ => false

def rest : OrderActionStream (World E D R) where
  isReady := OrderEntryREST.isReady
  offers action := !isModify action
  act := OrderEntryREST.act config

def ws : OrderActionStream OrderEntryWS.Session where
  isReady := OrderEntryWS.isReady
  offers action := !isModify action && !isCancelAll action
  act := OrderEntryWS.act config

variable {config}

variable [Download2 E OrderEntryREST.State] [Download2 D DropCopy.State] [LimitRequest R]

section closed
open Smallest

def decoders : Json.WSDecoders where
  message _ := .ok ⟨"session",0,0,.undefinedInternal⟩
  auth _ := .ok ⟨"session"⟩
  welcome _ := .error (.std "welcome")
  error _ := .error (.std "error")
  pong _ := .error (.std "pong")
  addOrderAck _ := .error (.std "addOrderAck")
  cancelOrderAck _ := .error (.std "cancelOrderAck")

def cancelling : OrderAction := .cancelOrder ⟨5,t⟩ ⟨"A1",7,2⟩ ⟨5,7,"XBTUSDTM","R1",""⟩ "R2"

end closed
end KucoinPro.OrderReadiness
