import KucoinPro.AccountRefinement
import KucoinPro.OrderBooks
import KucoinPro.StaleOrderBatches

-- What ends the process, and that nothing else does.
namespace KucoinPro.ProcessEnds
open GuardedRuns

section sequencers
variable {Y S B : Type} {Q : Type → Type} {config : GatewayConfig}

-- A sequencer asks for a snapshot more often than it may.
def exhausts (config : GatewayConfig) : SequencerCall → Bool
  | .requestSnapshot retries => decide (config.market.wsMbpRequestMaxRetries ≠ 0 ∧ config.market.wsMbpRequestMaxRetries < retries)
  | .publishUpdate _ _ | .publishSnapshot _ _ _ _ => false

def overdrawn [Sequencer S B]
    (config : GatewayConfig) (symbol : String) (operation : Operation B) (shared : Shared Y Q S B) : Bool :=
  (Sequencer.operate operation ((shared.mbpSequencer.lookup symbol).getD Sequencer.create)).calls.any (exhausts config)

variable [LimitQueue Q]

end sequencers

section streams
variable {Y S B : Type} {Q : Type → Type}

-- A stream of market data.
def endsMarketData [Sequencer S B] (config : GatewayConfig) (shared : Shared Y Q S B) : MarketDataEvent B → Bool
  | .obu _ obu book =>
    match obu.depth with
    | .undefinedInternal | .unknownInternal => true
    | .one => false
    | .increment => overdrawn config obu.data.symbol (OrderBooks.updateOf obu.data book) shared
  | .unexpected => true
  | _ => false

variable [Symbols Y] [LimitQueue Q] [Sequencer S B]

-- A websocket order stream.
def endsOrderEntryWs (config : Config) (decoders : Json.WSDecoders) : OrderEntryWS.Event → Bool
  | .text _ payload =>
    match Json.WSParser.dispatch decoders payload with
    | none => true
    | some (.error error) =>
        decide (error.op = .undefinedInternal) && Json.isAuthError error.code && !config.settings.experimentalRetryLogon
    | some _ => false
  | .binary => true
  | _ => false

end streams

section accounts
open AccountSystem OrderEntryREST StagedWalk
variable {E D R : Type} {config : Config}

theorem processResponse_ends {errorHandler : Origin → RequestStatus → Error → String → σ → σ}
    {successHandler : String → σ → Except Exception Unit × σ} {response : Web.Response} {w : σ} :
    (processResponse config response errorHandler successHandler w).isSome = !redirects response := by
  cases landed : redirects response with
  | true =>
      rw [processResponse_redirects landed]
      rfl
  | false =>
      cases known : content response with
      | some body =>
          rw [processResponse_content known]
          rfl
      | none =>
          have lands : ∃ after, processResponse config response errorHandler successHandler w = some after ∧
              Fails errorHandler w after := processResponse_lands landed known
          obtain ⟨after,ran,_⟩ := lands
          rw [ran]
          rfl

variable [Download2 E OrderEntryREST.State] [Download2 D DropCopy.State] [LimitRequest R]

-- An answer that is not a redirect is survived, by an order detail if it is counted.
theorem invoke_ends {t : TraceInfo} {submission : Submission} {response : Web.Response} {w : World E D R}
    (counted : submission.callback.kind = some .staleOrders → w.rest.downloadStaleOrdersCounter ≠ 0) :
    (invoke config t submission response w).isSome = !redirects response := by
  unfold invoke
  cases callback : submission.callback with
  | getPrivateTokenAck sequence => exact Option.isSome_map.trans processResponse_ends
  | getAccountAck | getPositionAck | getOrdersAck | getExecutionAck => exact Option.isSome_map.trans processResponse_ends
  | getOrderAck clientOrderId =>
      have positive := counted (by rw [callback]; rfl)
      cases landed : redirects response with
      | true =>
          dsimp only
          rw [getOrderAck,processResponse_redirects landed]
          rfl
      | false =>
          dsimp only
          rw [StaleOrderBatches.getOrderAck_eq landed,if_neg positive]
          rfl
  | createOrderAck | cancelOrderAck | cancelAllOrdersAck | getOrderBookAck => exact processResponse_ends

-- The drop copy: a new list of stale orders, where the answers to the earlier one are
-- what it has waited for.
def endsDropCopy (stream : DropCopy D) (request : Request R) : DropCopyEvent → Bool
  | .timer _ _ refresh _ => refresh && decide ((Walker.state stream.download : DropCopy.State) = .getStaleOrders) &&
      request.response .staleOrders && !request.detailsStaleOrders.isEmpty
  | .unexpected => true
  | _ => false

variable [LawfulLimitRequest R]

-- What an account is called with. A response may also overdraw the sequencer of its symbol.
def endsAccount (w : World E D R) : Event → Bool
  | .rest (.response _ id response) => (w.inFlight.find? fun s => s.id == id).isSome && redirects response
  | .rest _ => false
  | .dropCopy event => w.dropCopy.any fun stream => endsDropCopy stream w.request event

end accounts

section controller
open ControllerSystem
variable {Y S B E D R : Type} {Q : Type → Type} {config : ControllerConfig}

-- An order book that an account passes on.
def endsPassOn [Sequencer S B]
    (config : ControllerConfig) (a : AccountStreams E D R) (shared : Shared Y Q S B) : AccountCall B → Bool
  | .response _ id response book =>
      (MarketSystem.passedOn (gatewayConfig config a) id response a.world).any fun ack =>
        overdrawn (gatewayConfig config a) ack.data.symbol (OrderBooks.snapshotOf ack.data book) shared
  | _ => false

variable [Sequencer S B] [Download2 D DropCopy.State] [LimitRequest R]

-- The visit of a stream, and an event: a Timer is as many visits as there are streams.
def ends (config : ControllerConfig) (c : Controller Y Q S B E D R) : StreamEvent B → Bool
  | .account index call => (c.accounts[index]?).any fun a => endsAccount a.world (eventOf [] call) || endsPassOn config a c.shared call
  | .orderEntryWs index event => (c.accounts[index]?).any fun a => a.orderEntryWs.any fun ws =>
      endsOrderEntryWs (wsConfig a ws) config.decoders event
  | .marketData index event => (c.marketData[index]?).any fun _ => endsMarketData config.feed c.shared event

variable [Symbols Y] [LimitQueue Q]

variable [Download2 E OrderEntryREST.State] [LawfulLimitRequest R]

variable [LawfulDownload2 E] [LawfulDownload2 D]

end controller
end KucoinPro.ProcessEnds
