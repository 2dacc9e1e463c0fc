import KucoinPro.MarketMoves
import KucoinPro.OpenOrderPages

namespace KucoinPro.Json

-- core::json::Value
inductive CoreValue where
  | null
  | boolean (value : Bool)
  | integer (value : Int64)
  | double (value : Float)
  | string (value : String)
  | object
  | array

-- The body that the update() of every duration has; `fromChars` reads a DATETIME.
def update (fromChars : String → Except Exception Int64) : CoreValue → Except Exception Int64
  | .null => .ok 0
  | .boolean _ | .object | .array => .error (.std "std::bad_cast")
  | .integer value => .ok value
  | .double value => .ok value.toInt64
  | .string value => fromChars value

def updateMilliseconds (fromChars : String → Except Exception Int64) (value : CoreValue) : Except Exception Milliseconds :=
  (update fromChars value).map Milliseconds.mk

def updateNanoseconds (fromChars : String → Except Exception Int64) (value : CoreValue) : Except Exception Int64 :=
  update fromChars value

end KucoinPro.Json

namespace KucoinPro.Timestamps
open Json (CoreValue updateMilliseconds updateNanoseconds OrdersAck OrdersAckDataItemsItem OrderBookAck)
open OpenOrderPages
open OrderEntryREST (orderUpdate onOrdersAck onOrderBookAck)

-- The conversion is within 64 bits, and what is published is the instant sent.
structure Exact (duration : Milliseconds) (published : Int) (sent : Int64) : Prop where
  fits : duration.toNanoseconds.toInt = duration.count.toInt * 1000000
  same : published = sent.toInt

-- Scaled by a million, no instant but the epoch is itself again, in 64 bits or not.
theorem scaled_iff (sent : Int64) : Exact ⟨sent⟩ (Milliseconds.toNanoseconds ⟨sent⟩).toInt sent ↔ sent = 0 := by
  constructor
  · intro exact
    have scaled := exact.fits.symm.trans exact.same
    apply Int64.toInt_inj.mp
    have zero : (0 : Int64).toInt = 0 := rfl
    dsimp only at scaled
    omega
  · rintro rfl
    exact ⟨rfl,rfl⟩

theorem read_integer (read : updateMilliseconds fromChars (.integer sent) = .ok duration) : duration = ⟨sent⟩ := by
  simpa [updateMilliseconds,Json.update,Except.map] using read.symm

theorem read_exact (read : updateMilliseconds fromChars (.integer sent) = .ok duration) :
    Exact duration duration.toNanoseconds.toInt sent ↔ sent = 0 := by
  obtain rfl := read_integer read
  exact scaled_iff sent

-- open orders

section orders
variable {E D R : Type}

theorem converted_item {update : OrderUpdate} (member : update ∈ converted config items) :
    ∃ item ∈ items, ∃ status, update = orderUpdate config item status := by
  obtain ⟨item,listed,mapped⟩ := List.mem_filterMap.mp member
  obtain ⟨status,_,rfl⟩ := Option.map_eq_some_iff.mp mapped
  exact ⟨item,List.takeWhile_subset _ listed,status,rfl⟩

theorem onOrdersAck_updates (config : Config) (ack : OrdersAck) (w : World E D R) : ∃ fresh,
    (onOrdersAck config ack w).2.log = fresh ++ w.log ∧ ∀ update ∈ updates fresh,
      ∃ item ∈ ack.data.items, ∃ status, update = orderUpdate config item status := by
  obtain ⟨fresh,log,same⟩ := onOrderItems_log config ack.data.items (w.emit (.ordersAck ack))
  refine ⟨fresh ++ [.effect (.ordersAck ack)],?_,?_⟩
  · rw [onOrdersAck,log,World.emit,List.append_assoc,List.singleton_append]
  · intro update member
    have listed : update ∈ updates fresh := by simpa [updates] using member
    exact converted_item (same ▸ listed)

-- The order time of the same item is of the other type.
theorem orderTime_exact (config : Config) (item : OrdersAckDataItemsItem) (status : OrderStatus)
    (decoded : item.orderTime = ns.toInt) (read : updateNanoseconds fromChars (.integer sent) = .ok ns) :
    (orderUpdate config item status).createTimeUtc = sent.toInt := by
  obtain rfl := Except.ok.inj read
  exact decoded

end orders

-- order books

section books
variable {Y S B : Type} {Q : Type → Type} {config : GatewayConfig}

-- Whatever has been published since then is what `publish` makes of some call.
def Publishes (publish : SequencerCall → Option MarketByPriceUpdate) (before after : Shared Y Q S B) : Prop :=
  ∃ fresh, after.log = fresh ++ before.log ∧
    ∀ update, .effect (.marketByPriceUpdate update) ∈ fresh → ∃ call, publish call = some update

theorem Publishes.trans {a b c : Shared Y Q S B} (one : Publishes publish a b) (two : Publishes publish b c) :
    Publishes publish a c := by
  obtain ⟨older,log,earlier⟩ := one
  obtain ⟨newer,log',later⟩ := two
  refine ⟨newer ++ older,by rw [log',log,List.append_assoc],?_⟩
  intro update member
  rcases List.mem_append.mp member with now | before
  · exact later update now
  · exact earlier update before

theorem Publishes.silent {before after : Shared Y Q S B} (log : after.log = .effect effect :: before.log)
    (other : ∀ update, effect ≠ .marketByPriceUpdate update) : Publishes publish before after := by
  refine ⟨[.effect effect],log,?_⟩
  intro update member
  cases List.mem_singleton.mp member
  exact absurd rfl (other update)

variable [LimitQueue Q]

theorem called_publishes {shared after : Shared Y Q S B} (called : Shared.Called symbol publish shared after) :
    Publishes publish shared after := by
  cases called with
  | asked => exact .silent rfl fun _ same => by cases same
  | silent => exact ⟨[],rfl,fun _ none => by cases none⟩
  | published made =>
      refine ⟨[_],rfl,?_⟩
      intro update member
      cases List.mem_singleton.mp member
      exact ⟨_,made⟩

theorem callbacks_publish {shared after : Shared Y Q S B} (calls : List SequencerCall)
    (ran : calls.foldlM (Shared.callback config symbol publish) shared = some after) : Publishes publish shared after :=
  Shared.callbacks_related config (fun _ => ⟨[],rfl,fun _ none => by cases none⟩) (fun _ _ _ => .trans)
    (fun _ _ => called_publishes) calls ran

variable [Sequencer S B]

theorem sequence_publishes {shared after : Shared Y Q S B} {operation : Operation B}
    (ran : shared.sequence config symbol operation publish = some after) : Publishes publish shared after := by
  obtain ⟨middle,called,rfl⟩ := Option.map_eq_some_iff.mp ran
  let sequenced := Sequencer.operate operation ((shared.mbpSequencer.lookup symbol).getD Sequencer.create)
  have start : Publishes publish shared ((shared.setSequencer symbol sequenced.sequencer).emit (.operated symbol operation)) :=
    .silent rfl fun _ same => by cases same
  have operated := start.trans (callbacks_publish _ called)
  split
  · have cleared : Publishes publish middle
        ((middle.setSequencer symbol (Sequencer.clear sequenced.sequencer)).emit (.cleared symbol)) :=
      .silent rfl fun _ same => by cases same
    exact (operated.trans cleared).trans (.silent rfl fun _ same => by cases same)
  · exact operated

theorem publish_times (published : OrderEntryREST.publish config data call = some update) :
    update.exchangeTimeUtc = data.ts.toNanoseconds.toInt ∧ update.sendingTimeUtc = some data.ts.toNanoseconds.toInt := by
  cases call with
  | publishSnapshot bids asks sequence lastSequence =>
      obtain rfl := Option.some.inj published
      exact ⟨rfl,rfl⟩
  | publishUpdate | requestSnapshot => cases published

theorem onOrderBookAck_publishes {ack : OrderBookAck} {book : B} {shared after : Shared Y Q S B}
    (ran : onOrderBookAck config ack book shared = some after) :
    Publishes (OrderEntryREST.publish config ack.data) shared after := by
  obtain ⟨fresh,log,published⟩ := sequence_publishes ran
  exact ⟨fresh,log,published⟩

end books

section published
variable {E D R Y S B : Type} {Q : Type → Type}

-- What the exchange sent for the time of an item of the open orders, and of an
-- order book: a number of nanoseconds.
def Sent (fromChars : String → Except Exception Int64) (sent : Int64) (duration : Milliseconds) : Prop :=
  updateMilliseconds fromChars (.integer sent) = .ok duration

variable [LimitQueue Q] [Sequencer S B]

-- The instants that are published as they were sent are none but the epoch.
theorem timestamps_are_exact_only_at_the_epoch (config : GatewayConfig) (fromChars : String → Except Exception Int64) :
    (∀ (ack : OrdersAck) (w : World E D R), ∃ fresh, (onOrdersAck config.account ack w).2.log = fresh ++ w.log ∧
      ∀ update ∈ updates fresh, ∃ item ∈ ack.data.items, ∃ status, update = orderUpdate config.account item status ∧
        ∀ sent, Sent fromChars sent item.updatedTime → (Exact item.updatedTime update.updateTimeUtc sent ↔ sent = 0)) ∧
    ∀ (ack : OrderBookAck) (book : B) (shared after : Shared Y Q S B), onOrderBookAck config ack book shared = some after →
      ∃ fresh, after.log = fresh ++ shared.log ∧ ∀ update, .effect (.marketByPriceUpdate update) ∈ fresh →
        ∀ sent, Sent fromChars sent ack.data.ts →
          (Exact ack.data.ts update.exchangeTimeUtc sent ∧ update.sendingTimeUtc = some sent.toInt ↔ sent = 0) := by
  constructor
  · intro ack w
    obtain ⟨fresh,log,published⟩ := onOrdersAck_updates config.account ack w
    refine ⟨fresh,log,?_⟩
    intro update member
    obtain ⟨item,listed,status,rfl⟩ := published update member
    exact ⟨item,listed,status,rfl,fun sent read => read_exact read⟩
  · intro ack book shared after ran
    obtain ⟨fresh,log,published⟩ := onOrderBookAck_publishes ran
    refine ⟨fresh,log,?_⟩
    intro update member sent read
    obtain ⟨call,made⟩ := published update member
    obtain ⟨exchange,sending⟩ := publish_times made
    rw [exchange,sending,read_exact read]
    constructor
    · exact And.left
    · rintro rfl
      rw [read_integer read]
      exact ⟨rfl,rfl⟩

end published

section closed
open Smallest

def ordersAt (updatedTime : Milliseconds) : OrdersAck :=
  ⟨Json.SYSTEM_CODE_SUCCESS,"",⟨1,50,1,1,[{working "1" with updatedTime := updatedTime}]⟩⟩

def bookAt (ts : Milliseconds) : OrderBookAck := ⟨Json.SYSTEM_CODE_SUCCESS,⟨5,"A",[],[],ts⟩⟩

def shared : Shared SlicedSymbols List Replica Unit := (MarketSystem.initial (market 2) 3 : SmallGateway).shared

def unread (_ : String) : Except Exception Int64 := .error (.std "charconv")

def publishedTimes (log : List (MarketEntry Unit)) : List (Int × Option Int) := log.filterMap fun
  | .effect (.marketByPriceUpdate update) => some (update.exchangeTimeUtc,update.sendingTimeUtc)
  | _ => none

theorem epoch_is_published :
    (∃ fresh, (onOrdersAck (setup true) (ordersAt ⟨0⟩) (AccountSystem.initial : Small)).2.log = fresh ++ [] ∧
      ∀ update ∈ updates fresh, Exact ⟨0⟩ update.updateTimeUtc 0) ∧
    ∃ after, onOrderBookAck (market 2) (bookAt ⟨0⟩) () shared = some after ∧
      ∃ fresh, after.log = fresh ++ shared.log ∧ ∀ update, .effect (.marketByPriceUpdate update) ∈ fresh →
        Exact ⟨0⟩ update.exchangeTimeUtc 0 ∧ update.sendingTimeUtc = some 0 := by
  obtain ⟨orders,books⟩ := @timestamps_are_exact_only_at_the_epoch (Stepper OrderEntryREST.State) (Stepper DropCopy.State) Slot
    SlicedSymbols Replica Unit List _ _ (market 2) unread
  constructor
  · obtain ⟨fresh,log,published⟩ := orders (ordersAt ⟨0⟩) AccountSystem.initial
    refine ⟨fresh,log,?_⟩
    intro update member
    obtain ⟨item,listed,_,_,exactly⟩ := published update member
    obtain rfl := List.mem_singleton.mp listed
    exact (exactly 0 rfl).mpr rfl
  · obtain ⟨after,ran⟩ := Option.isSome_iff_exists.mp
      (by decide : (onOrderBookAck (market 2) (bookAt ⟨0⟩) () shared).isSome = true)
    obtain ⟨fresh,log,published⟩ := books (bookAt ⟨0⟩) () shared after ran
    exact ⟨after,ran,fresh,log,fun update member => (published update member 0 rfl).mpr rfl⟩

-- The instants of the tests do not come out.
theorem published_times_are_off :
    Sent unread 1771732989667873233 ⟨1771732989667873233⟩ ∧
    (updates (onOrdersAck (setup true) (ordersAt ⟨1771732989667873233⟩) (AccountSystem.initial : Small)).2.log).map
      (·.updateTimeUtc) = [-2991635634361510336] ∧
    Sent unread 1771674207834000000 ⟨1771674207834000000⟩ ∧
    (onOrderBookAck (market 2) (bookAt ⟨1771674207834000000⟩) () shared).map (fun after => publishedTimes after.log) =
      some [(-6433237286465855488,some (-6433237286465855488))] ∧
    ¬ Exact ⟨1771732989667873233⟩ (-2991635634361510336) 1771732989667873233 ∧
    ¬ Exact ⟨1771674207834000000⟩ (-6433237286465855488) 1771674207834000000 := by
  refine ⟨rfl,by decide +kernel,rfl,by decide +kernel,?_,?_⟩
  · intro exact
    exact absurd exact.same (by decide)
  · intro exact
    exact absurd exact.same (by decide)

end closed
end KucoinPro.Timestamps
