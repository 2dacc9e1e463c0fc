import KucoinPro.Market
import KucoinPro.Metering
import KucoinPro.RequestService

namespace KucoinPro
open Metering

-- What core::limit::Queue hands out when nothing is refused.
def LimitQueue.wanted {Q : Type → Type} [LimitQueue Q] {α : Type} (t : TraceInfo) (q : Q α) : Nat :=
  (LimitQueue.dispatch t (LimitQueue.items q).length q).1.length

-- One grant for each element that it hands out.
class GrantedQueue (Q : Type → Type) [LimitQueue Q] : Prop where
  dispatch_granted : ∀ {α : Type} t granted (q : Q α), granted ≤ LimitQueue.wanted t q →
    (LimitQueue.dispatch t granted q).1.length = granted

instance : GrantedQueue List where
  dispatch_granted t granted q within := by
    have bound : granted ≤ q.length := Nat.le_trans within (List.length_take_le _ _)
    exact List.length_take_of_le bound

namespace RateLimits
open AccountSystem OrderEntryREST

variable {E D R L : Type} {Q : Type → Type} (config : Config) (t : TraceInfo)

-- The account with what it shares with the others: the rate limiter (with a count
-- of its grants) and the queue of the order books that are asked for.
structure Metered (Q : Type → Type) (L E D R : Type) where
  meter : Meter L
  depthRequestQueue : Q String
  world : World E D R

section queue
variable [LimitRequest R] [RateLimiter L TraceInfo]

-- check_pending asks (Request::can_request) where there is something to ask for.
def checkPending (kind : Kind) (callback : World E D R → World E D R) (m : Metered Q L E D R) : Metered Q L E D R :=
  let (granted,meter) := m.meter.askIf t (m.world.request.pending kind)
  {m with meter := meter, world := OrderEntryREST.checkPending t kind granted callback m.world}

variable [LimitQueue Q]

-- And the queue asks for each symbol.
def dispatch (m : Metered Q L E D R) : List String × Metered Q L E D R :=
  let (granted,meter) := m.meter.draw t (LimitQueue.wanted t m.depthRequestQueue)
  let (symbols,queue) := LimitQueue.dispatch t granted m.depthRequestQueue
  (symbols,{m with meter := meter, depthRequestQueue := queue})

def getOrderBooks (m : Metered Q L E D R) : Metered Q L E D R :=
  let (symbols,dispatched) := dispatch t m
  {dispatched with world := symbols.foldl (fun w symbol => getOrderBook config t symbol w) dispatched.world}

def checkRequestQueue (findOrder : Nat → Nat → Option Order) (m : Metered Q L E D R) : Metered Q L E D R :=
  let m := checkPending t .balances (getAccount config t) m
  let m := checkPending t .positions (getPosition config t) m
  let m := checkPending t .openOrders (getOrders config t) m
  let m := checkPending t .staleOrders (getStaleOrders config t findOrder) m
  let m := checkPending t .trades (getExecution config t) m
  getOrderBooks config t m

def isSubmit : Entry → Bool
  | .effect (.submit _) => true
  | _ => false

-- The REST requests submitted so far.
def requests (w : World E D R) : Nat := w.log.countP isSubmit

-- The stale orders are asked for in this call: they are pending, and the limiter
-- grants it after it was asked for balances, positions and open orders.
def servesStaleOrders (m : Metered Q L E D R) : Bool :=
  let request := m.world.request
  let meter := (m.meter.askIf t (request.pending .balances)).2
  let meter := (meter.askIf t (request.pending .positions)).2
  let meter := (meter.askIf t (request.pending .openOrders)).2
  (meter.askIf t (request.pending .staleOrders)).1

-- The calls of the metered account are those of the account, with the answers of
-- the limiter for an oracle.
def answer (kind : Kind) (m : Metered Q L E D R) : Bool := (m.meter.askIf t (m.world.request.pending kind)).1

theorem checkRequestQueue_refines (findOrder : Nat → Nat → Option Order) (m : Metered Q L E D R) : ∃ canRequest granted,
    (checkRequestQueue config t findOrder m).world = OrderEntryREST.checkRequestQueue config t canRequest findOrder
      (LimitQueue.dispatch t granted m.depthRequestQueue).1 m.world ∧
    (checkRequestQueue config t findOrder m).depthRequestQueue = (LimitQueue.dispatch t granted m.depthRequestQueue).2 := by
  let first := checkPending t .balances (getAccount config t) m
  let second := checkPending t .positions (getPosition config t) first
  let third := checkPending t .openOrders (getOrders config t) second
  let fourth := checkPending t .staleOrders (getStaleOrders config t findOrder) third
  let fifth := checkPending t .trades (getExecution config t) fourth
  refine ⟨fun kind => if kind = .balances then answer t .balances m else if kind = .positions then answer t .positions first
    else if kind = .openOrders then answer t .openOrders second else if kind = .staleOrders then answer t .staleOrders third
    else answer t .trades fourth,(fifth.meter.draw t (LimitQueue.wanted t m.depthRequestQueue)).1,rfl,rfl⟩

-- In one call, not more requests than grants.
def Within (before after : Metered Q L E D R) : Prop :=
  requests after.world - requests before.world ≤ after.meter.grants - before.meter.grants

instance (before after : Metered Q L E D R) : Decidable (Within before after) := inferInstanceAs (Decidable (_ ≤ _))

end queue

variable {config} {t} {m : Metered Q L E D R} {findOrder : Nat → Nat → Option Order}

theorem submit_requests (w : World E D R) : requests (w.submit request callback requestId) = requests w + 1 :=
  List.countP_cons_of_pos rfl

theorem getOrderBooks_requests (symbols : List String) (w : World E D R) :
    requests (symbols.foldl (fun w symbol => getOrderBook config t symbol w) w) = requests w + symbols.length := by
  induction symbols generalizing w with
  | nil => rfl
  | cons symbol rest ih =>
      have one : requests (getOrderBook config t symbol w) = requests w + 1 := submit_requests w
      rw [List.foldl_cons,ih,one,List.length_cons]
      omega

theorem getStaleOrder_requests (keys : List (Nat × Nat)) (w : World E D R) :
    requests (keys.foldl (getStaleOrder config t findOrder) w) =
      requests w + (keys.filter fun key => (findOrder key.1 key.2).isSome).length := by
  induction keys generalizing w with
  | nil => rfl
  | cons key rest ih =>
      rw [List.foldl_cons,ih]
      cases found : findOrder key.1 key.2 with
      | none =>
          have stays : getStaleOrder config t findOrder w key = w := by simp only [getStaleOrder,found]
          simp [stays,found]
      | some order =>
          have one : requests (getStaleOrder config t findOrder w key) = requests w + 1 := by
            simp only [getStaleOrder,found]
            exact submit_requests w
          simp only [one,List.filter_cons,found,Option.isSome_some,if_true,List.length_cons]
          omega

theorem getStaleOrders_requests (w : World E D R) :
    requests (getStaleOrders config t findOrder w) = requests w + (foundKeys findOrder w).length :=
  getStaleOrder_requests w.request.detailsStaleOrders w

variable [LimitRequest R] [RateLimiter L TraceInfo]

-- The grants of a check are its answer, and so are its requests where the callback
-- submits one.
theorem checkPending_grants (kind : Kind) (callback : World E D R → World E D R) (m : Metered Q L E D R) :
    (checkPending t kind callback m).meter.grants = m.meter.grants + (answer t kind m).toNat := m.meter.askIf_grants t _

variable [LawfulLimitRequest R]

theorem checkPending_world (kind : Kind) (callback : World E D R → World E D R) (m : Metered Q L E D R) :
    let taken := {m.world with request := (m.world.request.checkPending t kind (answer t kind m)).2}
    (checkPending t kind callback m).world = if answer t kind m then callback taken else taken := by
  intro taken
  have known : (checkPending t kind callback m).world =
      if m.world.request.pending kind && answer t kind m then callback taken else taken := checkPending_eq t kind _ callback m.world
  rw [known,answer,Meter.askIf_fst,← Bool.and_assoc,Bool.and_self]

theorem checkPending_requests {callback : World E D R → World E D R}
    (adds : ∀ w : World E D R, requests (callback w) = requests w + 1) (kind : Kind) (m : Metered Q L E D R) :
    requests (checkPending t kind callback m).world = requests m.world + (answer t kind m).toNat := by
  rw [checkPending_world]
  cases answer t kind m with
  | true => exact adds _
  | false => rfl

theorem staleOrders_requests (m : Metered Q L E D R) :
    requests (checkPending t .staleOrders (getStaleOrders config t findOrder) m).world =
      requests m.world + if answer t .staleOrders m then (foundKeys findOrder m.world).length else 0 := by
  rw [checkPending_world]
  cases answer t .staleOrders m with
  | true => exact getStaleOrders_requests _
  | false => rfl

-- As many requests as grants.
def Balanced (before after : Metered Q L E D R) : Prop := ∃ count,
  requests after.world = requests before.world + count ∧ after.meter.grants = before.meter.grants + count

omit [LimitRequest R] [RateLimiter L TraceInfo] [LawfulLimitRequest R] in
theorem Balanced.trans {first second third : Metered Q L E D R} (one : Balanced first second) (two : Balanced second third) :
    Balanced first third := by
  obtain ⟨count,asked,granted⟩ := one
  obtain ⟨more,askedMore,grantedMore⟩ := two
  refine ⟨count + more,?_,?_⟩
  · rw [askedMore,asked,Nat.add_assoc]
  · rw [grantedMore,granted,Nat.add_assoc]

theorem checkPending_balanced {callback : World E D R → World E D R}
    (adds : ∀ w : World E D R, requests (callback w) = requests w + 1) (kind : Kind) (m : Metered Q L E D R) :
    Balanced m (checkPending t kind callback m) :=
  ⟨_,checkPending_requests adds kind m,checkPending_grants kind callback m⟩

-- It leaves what else is to be asked for as it is, and the stale orders.
structure Kept (findOrder : Nat → Nat → Option Order) (kind : Kind) (before after : World E D R) : Prop where
  pending : ∀ k ≠ kind, after.request.pending k = before.request.pending k
  details : foundKeys findOrder after = foundKeys findOrder before

theorem checkPending_kept {callback : World E D R → World E D R} (other : kind ≠ .staleOrders)
    (asks : ∀ w, RequestService.Asks config t findOrder kind w (callback w)) (m : Metered Q L E D R) :
    Kept findOrder kind m.world (checkPending t kind callback m).world := by
  have polls : RequestService.Polls config t (fun _ => answer t kind m) findOrder [kind] m.world
      (checkPending t kind callback m).world := RequestService.checkPending_polls (fun _ => answer t kind m) asks m.world
  constructor
  · intro k different
    rw [polls.pending]
    simp [different]
  · rw [foundKeys,polls.details (by simpa using Ne.symm other),foundKeys]

-- What comes before the stale orders.
def untilStaleOrders (config : Config) (t : TraceInfo) (m : Metered Q L E D R) : Metered Q L E D R :=
  let m := checkPending t .balances (getAccount config t) m
  let m := checkPending t .positions (getPosition config t) m
  checkPending t .openOrders (getOrders config t) m

theorem untilStaleOrders_balanced (config : Config) (t : TraceInfo) (m : Metered Q L E D R) :
    Balanced m (untilStaleOrders config t m) := by
  let first := checkPending t .balances (getAccount config t) m
  let second := checkPending t .positions (getPosition config t) first
  have one : Balanced m first := checkPending_balanced (fun _ => submit_requests _) .balances m
  have two : Balanced first second := checkPending_balanced (fun _ => submit_requests _) .positions first
  have three : Balanced second (untilStaleOrders config t m) := checkPending_balanced (fun _ => submit_requests _) .openOrders second
  exact one.trans (two.trans three)

-- It decides whether they are asked for, and leaves them as they are.
theorem untilStaleOrders_serves (config : Config) (t : TraceInfo) (findOrder : Nat → Nat → Option Order) (m : Metered Q L E D R) :
    servesStaleOrders t m = answer t .staleOrders (untilStaleOrders config t m) ∧
    foundKeys findOrder (untilStaleOrders config t m).world = foundKeys findOrder m.world := by
  let first := checkPending t .balances (getAccount config t) m
  let second := checkPending t .positions (getPosition config t) first
  have balances : ∀ w : World E D R, RequestService.Asks config t findOrder .balances w (getAccount config t w) :=
    fun _ => RequestService.submit_asks rfl
  have positions : ∀ w : World E D R, RequestService.Asks config t findOrder .positions w (getPosition config t w) :=
    fun _ => RequestService.submit_asks rfl
  have openOrders : ∀ w : World E D R, RequestService.Asks config t findOrder .openOrders w (getOrders config t w) :=
    fun _ => RequestService.submit_asks rfl
  have one : Kept findOrder .balances m.world first.world :=
    checkPending_kept (by decide) balances m
  have two : Kept findOrder .positions first.world second.world :=
    checkPending_kept (by decide) positions first
  have three : Kept findOrder .openOrders second.world (untilStaleOrders config t m).world :=
    checkPending_kept (by decide) openOrders second
  constructor
  · have askedSecond := one.pending .positions (by decide)
    have askedThird := (two.pending .openOrders (by decide)).trans (one.pending .openOrders (by decide))
    have askedFourth := ((three.pending .staleOrders (by decide)).trans (two.pending .staleOrders (by decide))).trans
      (one.pending .staleOrders (by decide))
    rw [servesStaleOrders,← askedSecond,← askedThird,← askedFourth]
    rfl
  · exact three.details.trans (two.details.trans one.details)

variable [LimitQueue Q] [GrantedQueue Q]

omit [LimitRequest R] [LawfulLimitRequest R] in
theorem getOrderBooks_balanced (config : Config) (t : TraceInfo) (m : Metered Q L E D R) :
    Balanced m (getOrderBooks config t m) := by
  obtain ⟨grants,bound⟩ := Meter.draw_spec t (LimitQueue.wanted t m.depthRequestQueue) m.meter
  refine ⟨(m.meter.draw t (LimitQueue.wanted t m.depthRequestQueue)).1,?_,grants⟩
  refine (getOrderBooks_requests _ m.world).trans (congrArg (requests m.world + ·) ?_)
  exact GrantedQueue.dispatch_granted t _ m.depthRequestQueue bound

-- One call keeps within its grants exactly if it does not ask for the stale orders,
-- or finds at most one of them.
theorem requests_stay_within_grants (config : Config) (t : TraceInfo) (findOrder : Nat → Nat → Option Order)
    (m : Metered Q L E D R) : Within m (checkRequestQueue config t findOrder m) ↔
      (servesStaleOrders t m = true → (foundKeys findOrder m.world).length ≤ 1) := by
  let third := untilStaleOrders config t m
  let fourth := checkPending t .staleOrders (getStaleOrders config t findOrder) third
  let fifth := checkPending t .trades (getExecution config t) fourth
  obtain ⟨serves,found⟩ : servesStaleOrders t m = answer t .staleOrders third ∧
      foundKeys findOrder third.world = foundKeys findOrder m.world := untilStaleOrders_serves config t findOrder m
  obtain ⟨before,askedBefore,grantedBefore⟩ : Balanced m third := untilStaleOrders_balanced config t m
  have trades : Balanced fourth fifth := checkPending_balanced (fun _ => submit_requests _) .trades fourth
  obtain ⟨after,askedAfter,grantedAfter⟩ := trades.trans (getOrderBooks_balanced config t fifth)
  have asked : requests fourth.world = requests third.world + if answer t .staleOrders third then
      (foundKeys findOrder third.world).length else 0 := staleOrders_requests third
  have granted : fourth.meter.grants = third.meter.grants + (answer t .staleOrders third).toNat := checkPending_grants _ _ third
  have total : Within m (checkRequestQueue config t findOrder m) ↔
      requests (getOrderBooks config t fifth).world - requests m.world ≤
        (getOrderBooks config t fifth).meter.grants - m.meter.grants := Iff.rfl
  -- everything but the stale orders asks for what it was granted
  rw [total,askedAfter,grantedAfter,serves,← found,asked,granted,askedBefore,grantedBefore]
  cases answer t .staleOrders third with
  | true =>
      simp only [if_true,Bool.toNat_true,true_implies]
      omega
  | false =>
      simp only [Bool.false_eq_true,if_false,Bool.toNat_false,false_implies,iff_true]
      omega

section closed
open GuardedRuns Smallest

abbrev SmallMetered := Metered List Tokens (Stepper OrderEntryREST.State) (Stepper DropCopy.State) Slot

-- Two grants are left, and the books of three symbols are asked for.
def metered (w : Small) : SmallMetered := ⟨⟨⟨2⟩,0⟩,["A","B","C"],w⟩

def staleOrder (userId orderId : Nat) : Order := ⟨userId,orderId,"XBTUSDTM","C","E"⟩

def find (userId orderId : Nat) : Option Order := some (staleOrder userId orderId)

theorem requests_stay_within_grants_once : ∃ w : Small, Run (setup true) (fun _ _ => True) w ∧
    servesStaleOrders Smallest.t (metered w) = true ∧
    Within (metered w) (checkRequestQueue (setup true) Smallest.t find (metered w)) := by
  have one : (execute (AccountSystem.step (setup true)) (AccountSystem.initial : Small) (toStaleOrders [staleOrder 1 7])).any (fun w =>
      servesStaleOrders Smallest.t (metered w) && decide ((foundKeys find w).length = 1)) = true := by decide +kernel
  obtain ⟨w,executed,known⟩ := (Option.any_eq_true _ _).mp one
  rw [Bool.and_eq_true,decide_eq_true_eq] at known
  refine ⟨w,execute_reached executed,known.1,?_⟩
  exact (requests_stay_within_grants (setup true) Smallest.t find (metered w)).mpr fun _ => Nat.le_of_eq known.2

-- One grant, and a request for each of the stale orders.
theorem stale_orders_exceed_the_grants : ¬ ∀ m : SmallMetered, Run (setup true) (fun _ _ => True) m.world →
    Within m (checkRequestQueue (setup true) Smallest.t find m) := by
  intro all
  have two : (execute (AccountSystem.step (setup true)) (AccountSystem.initial : Small)
      (toStaleOrders [staleOrder 1 7,staleOrder 1 8])).any (fun w =>
        !decide (Within (metered w) (checkRequestQueue (setup true) Smallest.t find (metered w)))) = true := by decide +kernel
  obtain ⟨w,executed,known⟩ := (Option.any_eq_true _ _).mp two
  rw [Bool.not_eq_true',decide_eq_false_iff_not] at known
  exact known (all (metered w) (execute_reached executed))

end closed
end RateLimits
end KucoinPro
