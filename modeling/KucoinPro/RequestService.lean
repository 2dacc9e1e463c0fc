import KucoinPro.AccountMoves

namespace KucoinPro.RequestService
open GuardedRuns StagedWalk AccountSystem OrderEntryREST

variable {E D R : Type} {config : Config}

def isOwn : Kind → Bool
  | .privateToken => false
  | _ => true

-- The GETs that serve a kind: one, or one for each stale order that is found.
def getsOf (config : Config) (t : TraceInfo) (findOrder : Nat → Nat → Option Order) (w : World E D R) :
    Kind → List (Web.Request × Callback)
  | .privateToken => []
  | .balances => [(getRequest config t API.restPrivate.accountBalance "?accountType=FUNDING" .immediate,.getAccountAck)]
  | .positions => [(getRequest config t API.restPrivate.positionOpenList "?accountMode=UNIFIED" .immediate,.getPositionAck)]
  | .openOrders =>
      [(getRequest config t API.restPrivate.orderOpenList "?accountMode=UNIFIED&tradeType=FUTURES" .immediate,.getOrdersAck)]
  | .staleOrders => w.request.detailsStaleOrders.filterMap fun key => (findOrder key.1 key.2).map fun order =>
      (getRequest config t API.restPrivate.orderDetails
        (getOrderQuery order.symbol order.clientOrderId order.externalOrderId) .immediate,.getOrderAck order.symbol)
  | .trades =>
      [(getRequest config t API.restPrivate.orderExecution "?accountMode=UNIFIED&tradeType=FUTURES" .immediate,.getExecutionAck)]

def Submitted (before after : World E D R) (wanted : Web.Request × Callback) : Prop :=
  ∃ fresh s, after.log = fresh ++ before.log ∧ .effect (.submit s) ∈ fresh ∧ s.request = wanted.1 ∧ s.callback = wanted.2

def due [LimitRequest R] (w : World E D R) (canRequest : Kind → Bool) (kind : Kind) : Bool :=
  isOwn kind && w.request.pending kind && canRequest kind

-- What one Timer owes to the account.
def TimerServes [LimitRequest R]
    (config : Config) (t : TraceInfo) (canRequest : Kind → Bool) (findOrder : Nat → Nat → Option Order)
    (before after : World E D R) : Prop :=
  ∀ kind, due before canRequest kind = true →
    after.request.pending kind = false ∧ ∀ wanted ∈ getsOf config t findOrder before kind, Submitted before after wanted

theorem Submitted.later {before after : World E D R} (submitted : Submitted before during wanted)
    (grows : during.log <:+ after.log) : Submitted before after wanted := by
  obtain ⟨fresh,s,log,member,same⟩ := submitted
  obtain ⟨newer,more⟩ := grows
  exact ⟨newer ++ fresh,s,by rw [← more,log,List.append_assoc],List.mem_append_right _ member,same⟩

theorem Submitted.earlier {before after : World E D R} (grows : before.log <:+ during.log)
    (submitted : Submitted during after wanted) : Submitted before after wanted := by
  obtain ⟨fresh,s,log,member,same⟩ := submitted
  obtain ⟨newer,more⟩ := grows
  exact ⟨fresh ++ newer,s,by rw [log,← more,List.append_assoc],List.mem_append_left _ member,same⟩

-- What the callback of a kind does: its GETs are submitted, and nothing is
-- marked or taken.
structure Asks (config : Config) (t : TraceInfo) (findOrder : Nat → Nat → Option Order) (kind : Kind)
    (before after : World E D R) : Prop where
  grows : before.log <:+ after.log
  limit : after.request.limit = before.request.limit
  details : kind ≠ .staleOrders → after.request.detailsStaleOrders = before.request.detailsStaleOrders
  asked : ∀ wanted ∈ getsOf config t findOrder before kind, Submitted before after wanted

-- And what the checks of some kinds do.
structure Polls [LimitRequest R]
    (config : Config) (t : TraceInfo) (canRequest : Kind → Bool) (findOrder : Nat → Nat → Option Order)
    (kinds : List Kind) (before after : World E D R) : Prop where
  grows : before.log <:+ after.log
  pending : ∀ k, after.request.pending k = (before.request.pending k && !(decide (k ∈ kinds) && canRequest k))
  details : .staleOrders ∉ kinds → after.request.detailsStaleOrders = before.request.detailsStaleOrders
  asked : ∀ k ∈ kinds, before.request.pending k = true → canRequest k = true →
    ∀ wanted ∈ getsOf config t findOrder before k, Submitted before after wanted

theorem getsOf_same {before after : World E D R}
    (details : kind = .staleOrders → after.request.detailsStaleOrders = before.request.detailsStaleOrders) :
    getsOf config t findOrder after kind = getsOf config t findOrder before kind := by
  cases kind with
  | staleOrders => simp only [getsOf,details rfl]
  | _ => rfl

theorem Polls.trans [LimitRequest R] {a b c : World E D R} (one : Polls config t canRequest findOrder first a b)
    (two : Polls config t canRequest findOrder second b c) (apart : ∀ k ∈ second, k ∉ first) :
    Polls config t canRequest findOrder (first ++ second) a c := by
  refine ⟨one.grows.trans two.grows,?_,?_,?_⟩
  · intro k
    rw [two.pending,one.pending]
    by_cases early : k ∈ first
    · have late : k ∉ second := fun member => apart k member early
      simp [early,late]
    · simp [early]
  · intro other
    have notFirst : .staleOrders ∉ first := fun member => other (List.mem_append_left _ member)
    have notSecond : .staleOrders ∉ second := fun member => other (List.mem_append_right _ member)
    exact (two.details notSecond).trans (one.details notFirst)
  · intro k member pending granted wanted among
    rcases List.mem_append.mp member with early | late
    · exact (one.asked k early pending granted wanted among).later two.grows
    · have notFirst := apart k late
      have still : b.request.pending k = true := by
        rw [one.pending]
        simp [pending,notFirst]
      have same : getsOf config t findOrder b k = getsOf config t findOrder a k :=
        getsOf_same fun equal => one.details (equal ▸ notFirst)
      exact (two.asked k late still granted wanted (same ▸ among)).earlier one.grows

theorem submit_submitted (w : World E D R) : Submitted w (w.submit request callback requestId) (request,callback) :=
  ⟨[_],_,rfl,List.mem_cons_self,rfl,rfl⟩

theorem submit_asks {w : World E D R} (only : getsOf config t findOrder w kind = [(request,callback)]) :
    Asks config t findOrder kind w (w.submit request callback requestId) := by
  refine ⟨⟨[_],rfl⟩,rfl,fun _ => rfl,?_⟩
  intro wanted among
  rw [only,List.mem_singleton] at among
  exact among ▸ submit_submitted w

theorem getStaleOrder_asks (config : Config) (t : TraceInfo) (findOrder : Nat → Nat → Option Order) (keys : List (Nat × Nat))
    (w : World E D R) :
    let after := keys.foldl (getStaleOrder config t findOrder) w
    w.log <:+ after.log ∧ after.request.limit = w.request.limit ∧
      ∀ key ∈ keys, ∀ order, findOrder key.1 key.2 = some order → Submitted w after
        (getRequest config t API.restPrivate.orderDetails
          (getOrderQuery order.symbol order.clientOrderId order.externalOrderId) .immediate,.getOrderAck order.symbol) := by
  induction keys generalizing w with
  | nil => exact ⟨List.suffix_refl _,rfl,nofun⟩
  | cons first rest ih =>
      have one : w.log <:+ (getStaleOrder config t findOrder w first).log ∧
          (getStaleOrder config t findOrder w first).request.limit = w.request.limit := by
        unfold getStaleOrder
        split
        · exact ⟨List.suffix_refl _,rfl⟩
        · exact ⟨⟨[_],rfl⟩,rfl⟩
      obtain ⟨grows,limit,asked⟩ := ih (getStaleOrder config t findOrder w first)
      refine ⟨one.1.trans grows,limit.trans one.2,?_⟩
      intro key member order found
      rcases List.mem_cons.mp member with rfl | later
      · refine Submitted.later ?_ grows
        simp only [getStaleOrder,found]
        exact ⟨[_],_,rfl,List.mem_cons_self,rfl,rfl⟩
      · exact (asked key later order found).earlier one.1

theorem getStaleOrders_asks (w : World E D R) :
    Asks config t findOrder .staleOrders w (getStaleOrders config t findOrder w) := by
  obtain ⟨grows,limit,asked⟩ := getStaleOrder_asks config t findOrder w.request.detailsStaleOrders w
  refine ⟨grows,limit,fun other => absurd rfl other,?_⟩
  intro wanted among
  obtain ⟨key,member,mapped⟩ := List.mem_filterMap.mp among
  obtain ⟨order,found,rfl⟩ := Option.map_eq_some_iff.mp mapped
  exact asked key member order found

variable [LimitRequest R] [LawfulLimitRequest R]

theorem checkPending_token [Download2 E OrderEntryREST.State]
    (config : Config) (t : TraceInfo) (granted : Bool) (w : World E D R) :
    let after := checkPending t .privateToken granted
      (fun w => getPrivateToken config t (Walker.sequence w.rest.download) w) w
    w.log <:+ after.log ∧ ∀ k, k ≠ .privateToken → after.request.pending k = w.request.pending k := by
  intro after
  have taken : ∀ k, k ≠ .privateToken →
      (w.request.checkPending t .privateToken granted).2.pending k = w.request.pending k := by
    intro k other
    simp [other]
  have known : after = _ := checkPending_eq t .privateToken granted _ w
  rw [known]
  split
  · exact ⟨⟨[_],rfl⟩,taken⟩
  · exact ⟨List.suffix_refl _,taken⟩

theorem checkPending_polls {callback : World E D R → World E D R} (canRequest : Kind → Bool)
    (asks : ∀ w, Asks config t findOrder kind w (callback w)) (w : World E D R) :
    Polls config t canRequest findOrder [kind] w (checkPending t kind (canRequest kind) callback w) := by
  let taken : World E D R := {w with request := (w.request.checkPending t kind (canRequest kind)).2}
  have left : ∀ k, taken.request.pending k = (w.request.pending k && !(decide (k ∈ [kind]) && canRequest k)) := by
    intro k
    by_cases same : k = kind
    · subst same
      simp [taken]
    · simp [taken,same]
  rw [checkPending_eq]
  split
  · have ran := asks taken
    refine ⟨ran.grows,?_,?_,?_⟩
    · intro k
      rw [← left k]
      simp only [Request.pending]
      exact congrArg (fun limit => LimitRequest.pending (limit k)) ran.limit
    · intro other
      exact ran.details fun same => other (by simp [same])
    · intro k member _ _ wanted among
      obtain rfl := List.mem_singleton.mp member
      have same : getsOf config t findOrder taken k = getsOf config t findOrder w k := getsOf_same fun _ => rfl
      exact ran.asked wanted (same ▸ among)
  · rename_i idle
    refine ⟨List.suffix_refl _,left,fun _ => rfl,?_⟩
    intro k member pending granted
    obtain rfl := List.mem_singleton.mp member
    exact absurd (by simp [pending,granted]) idle

omit [LawfulLimitRequest R] in
theorem foldl_polls (canRequest : Kind → Bool) (symbols : List String) (w : World E D R) :
    Polls config t canRequest findOrder [] w (symbols.foldl (fun w symbol => getOrderBook config t symbol w) w) := by
  induction symbols generalizing w with
  | nil => exact ⟨List.suffix_refl _,by simp,fun _ => rfl,nofun⟩
  | cons symbol rest ih =>
      have later := ih (getOrderBook config t symbol w)
      have one : w.log <:+ (getOrderBook config t symbol w).log := ⟨[_],rfl⟩
      exact ⟨one.trans later.grows,later.pending,later.details,nofun⟩

theorem checkRequestQueue_polls (canRequest : Kind → Bool) (symbols : List String) (w : World E D R) :
    Polls config t canRequest findOrder [.balances,.positions,.openOrders,.staleOrders,.trades] w
      (checkRequestQueue config t canRequest findOrder symbols w) := by
  have balances : ∀ w : World E D R, Asks config t findOrder .balances w (getAccount config t w) :=
    fun _ => submit_asks rfl
  have positions : ∀ w : World E D R, Asks config t findOrder .positions w (getPosition config t w) :=
    fun _ => submit_asks rfl
  have openOrders : ∀ w : World E D R, Asks config t findOrder .openOrders w (getOrders config t w) :=
    fun _ => submit_asks rfl
  have trades : ∀ w : World E D R, Asks config t findOrder .trades w (getExecution config t w) :=
    fun _ => submit_asks rfl
  unfold checkRequestQueue
  have first := checkPending_polls canRequest balances w
  have second := first.trans (checkPending_polls canRequest positions _) (by decide)
  have third := second.trans (checkPending_polls canRequest openOrders _) (by decide)
  have fourth := third.trans (checkPending_polls canRequest getStaleOrders_asks _) (by decide)
  have fifth := fourth.trans (checkPending_polls canRequest trades _) (by decide)
  exact fifth.trans (foldl_polls canRequest symbols _) (by decide)

variable [Download2 E OrderEntryREST.State]

theorem onTimer_polls (canRequest : Kind → Bool) (symbols : List String) (w : World E D R) (ready : isReady w = true)
    (master : config.account.master = true) :
    TimerServes config t canRequest findOrder w (onTimer config t true canRequest findOrder symbols w) := by
  have polled : Polls config t canRequest findOrder _ w (checkRequestQueue config t canRequest findOrder symbols w) :=
    checkRequestQueue_polls canRequest symbols w
  intro kind needed
  simp only [due,Bool.and_eq_true] at needed
  obtain ⟨⟨own,pending⟩,granted⟩ := needed
  have member : kind ∈ [Kind.balances,.positions,.openOrders,.staleOrders,.trades] := by
    cases kind with
    | privateToken => cases own
    | _ => decide
  simp only [onTimer,ready,master,Bool.and_self,if_true]
  let queued := checkRequestQueue config t canRequest findOrder symbols w
  have asked := checkPending_token config t (canRequest .privateToken) queued
  refine ⟨?_,fun wanted among => (polled.asked kind member pending granted wanted among).later asked.1⟩
  have other : kind ≠ .privateToken := by
    intro same
    subst same
    cases own
  rw [asked.2 kind other,polled.pending]
  simp [member,granted]

theorem onTimer_slave (canRequest : Kind → Bool) (symbols : List String) (w : World E D R)
    (slave : config.account.master = false) (own : isOwn kind = true) :
    (onTimer config t true canRequest findOrder symbols w).request.pending kind = w.request.pending kind := by
  have other : kind ≠ .privateToken := by
    intro same
    subst same
    cases own
  unfold onTimer
  split
  · simp only [slave,Bool.false_eq_true,if_false]
    exact (checkPending_token config t (canRequest .privateToken) w).2 kind other
  · rfl

variable [Download2 D DropCopy.State]

-- One Timer of a READY stream: served, if the account is the master, or if
-- there was nothing to serve.
theorem timer_serves_iff {w after : World E D R} (ready : isReady w = true)
    (ran : AccountSystem.step config w (.rest (.timer t true canRequest findOrder symbols)) = some after) :
    TimerServes config t canRequest findOrder w after ↔
      config.account.master = true ∨ ∀ kind, due w canRequest kind = false := by
  obtain rfl := Option.some.inj ran
  let received := receive (.rest (.timer t true canRequest findOrder symbols)) w
  constructor
  · intro serves
    cases master : config.account.master with
    | true => exact .inl rfl
    | false =>
        apply Or.inr
        intro kind
        cases needed : due w canRequest kind with
        | false => rfl
        | true =>
            have taken := (serves kind needed).1
            simp only [due,Bool.and_eq_true] at needed
            have left : (onTimer config t true canRequest findOrder symbols received).request.pending kind =
                received.request.pending kind := onTimer_slave canRequest symbols received master needed.1.1
            have same : received.request.pending kind = true := needed.1.2
            rw [← left] at same
            exact absurd (same.symm.trans taken) nofun
  · rintro (master | nothing)
    · have served : TimerServes config t canRequest findOrder received _ := onTimer_polls canRequest symbols received ready master
      intro kind needed
      obtain ⟨taken,asked⟩ := served kind needed
      have grows : w.log <:+ received.log := ⟨[_],rfl⟩
      exact ⟨taken,fun wanted among => (asked wanted among).earlier grows⟩
    · intro kind needed
      rw [nothing kind] at needed
      cases needed

-- What holds of an account that is not the master, as long as no Ack names
-- GET_BALANCES: nothing of its own is asked for, so nothing is answered.
structure Unserved (w : World E D R) : Prop where
  inFlight : ∀ s ∈ w.inFlight, s.callback.isOwn = false
  response : ∀ k, isOwn k = true → w.request.response k = false
  early : ∀ stream, w.dropCopy = some stream →
    DropCopy.State.getBalances.remaining ≤ (Walker.state stream.download : DropCopy.State).remaining

theorem early_next {s : DropCopy.State} (early : DropCopy.State.getBalances.remaining ≤ s.remaining) (past : s ≠ .getBalances) :
    DropCopy.State.getBalances.remaining ≤ s.next.remaining := by
  cases s <;> first | decide | exact absurd rfl past | exact absurd early (by decide)

omit [LawfulLimitRequest R] in
theorem walk_early {c after : Session D R} (walk : Walk (DropCopy.onDownload config t) s c d after)
    (start : DropCopy.State.getBalances.remaining ≤ s.remaining) :
    DropCopy.State.getBalances.remaining ≤ (Walker.state d : DropCopy.State).remaining := by
  apply walk.rule (fun s _ => DropCopy.State.getBalances.remaining ≤ s.remaining)
    (fun s _ => DropCopy.State.getBalances.remaining ≤ s.remaining) ?_ ?_ ?_ start
  · intro _ _ _ _ early _
    exact early
  · intro _ s _ _ early passing
    apply early_next early
    intro same
    subst same
    cases passing
  · intro _ _ early
    exact early

variable [LawfulDownload2 D]

theorem moves_early {c after : Session D R} (moves : DropCopy.Moves config event c after)
    (silent : ∀ k, isOwn k = true → c.request.response k = false)
    (unnamed : ∀ t message, event = .ack t message → DropCopy.State.ofName message.id ≠ some .getBalances)
    (early : DropCopy.State.getBalances.remaining ≤ (DropCopy.stateOf c).remaining) :
    DropCopy.State.getBalances.remaining ≤ (DropCopy.stateOf after).remaining := by
  obtain ⟨moved,stage,chores⟩ := moves
  rw [chores.tame.state]
  cases stage with
  | stays => exact early
  | dropped _ =>
      rw [DropCopy.onDisconnected_state]
      decide
  | walked starts _ walk =>
      apply walk_early walk
      cases starts with
      | welcome _ => decide
      | again _ _ => exact early
      | ackedIdle _ _ _ => decide
      | acked happened named _ =>
          apply early_next early
          intro same
          exact unnamed _ _ happened (same ▸ named)
      | answered _ waits flag =>
          -- the only GET_ state that early is GET_BALANCES, whose flag is not set
          apply early_next early
          intro same
          rw [same] at waits
          cases waits
          exact absurd (silent .balances rfl) (by simp [flag])

theorem renewed_early {before after : Option (DropCopy D)} (renewed : Renewed before after)
    (early : ∀ stream, before = some stream →
      DropCopy.State.getBalances.remaining ≤ (Walker.state stream.download : DropCopy.State).remaining) :
    ∀ stream, after = some stream →
      DropCopy.State.getBalances.remaining ≤ (Walker.state stream.download : DropCopy.State).remaining := by
  intro stream present
  subst present
  rcases renewed.state with undefined | ⟨earlier,known,same⟩
  · rw [undefined]
    decide
  · exact same ▸ early earlier known

omit [Download2 E OrderEntryREST.State] [LawfulLimitRequest R] in
theorem serves_unserved {w after : World E D R} (serves : Serves config scope w after)
    (slave : config.account.master = false) (others : ∀ k, scope.flagged k → isOwn k = false) (unserved : Unserved w) :
    Unserved after := by
  refine ⟨?_,?_,renewed_early serves.dropCopy unserved.early⟩
  · intro s present
    rcases serves.inFlight s present with earlier | proper
    · exact unserved.inFlight s earlier
    · exact proper.allowed.resolve_left (by simp [slave])
  · intro k own
    cases flag : after.request.response k with
    | false => rfl
    | true =>
        rcases serves.response k flag with earlier | mine
        · exact absurd earlier (by simp [unserved.response k own])
        · exact absurd own (by simp [others k mine])

theorem foreign_kind {callback : Callback} (foreign : callback.isOwn = false) (kind : callback.kind = some k) :
    isOwn k = false := by
  cases k with
  | privateToken => rfl
  | _ => simp [Callback.isOwn,kind] at foreign

variable [LawfulDownload2 E]

theorem step_unserved {w after : World E D R} (slave : config.account.master = false) (unserved : Unserved w)
    (unnamed : named event ≠ some .getBalances) (ran : AccountSystem.step config w event = some after) :
    Unserved after := by
  have received : Unserved (receive event w) := ⟨unserved.inFlight,unserved.response,unserved.early⟩
  cases step_happens ran with
  | lost => exact received
  | copied happened present _ moves =>
      subst happened
      refine ⟨unserved.inFlight,?_,?_⟩
      · intro k own
        cases flag : (resume (receive _ w) _).request.response k with
        | false => rfl
        | true => exact absurd (moves.response config k flag) (by simpa [session,receive] using unserved.response k own)
      · intro later known
        obtain rfl := Option.some.inj known
        apply moves_early moves received.response ?_ (unserved.early _ present)
        rintro t message rfl
        exact unnamed
  | served _ _ _ serves => exact serves_unserved serves slave nofun received
  | answered _ found _ serves =>
      have foreign := unserved.inFlight _ (List.mem_of_find?_eq_some found)
      refine serves_unserved serves slave (fun k kind => foreign_kind foreign kind) ⟨?_,received.response,received.early⟩
      intro s present
      exact received.inFlight s (List.mem_of_mem_eraseP present)

-- A READY stream serves the account at every Timer if and only if it is the
-- master's or has nothing to serve; and the download of any other account never
-- gets past GET_BALANCES, unless an Ack names that state.
theorem requests_are_served (config : Config) :
    (∀ (w after : World E D R) t canRequest findOrder symbols, isReady w = true →
      AccountSystem.step config w (.rest (.timer t true canRequest findOrder symbols)) = some after →
      (TimerServes config t canRequest findOrder w after ↔
        config.account.master = true ∨ ∀ kind, due w canRequest kind = false)) ∧
    (config.account.master = false → ∀ (w : World E D R) (stream : DropCopy D),
      Run config (fun _ event => named event ≠ some .getBalances) w → w.dropCopy = some stream →
      (Walker.state stream.download : DropCopy.State) ∈ [.undefined,.subscribeBalances,.getBalances]) := by
  constructor
  · intro w after t canRequest findOrder symbols ready ran
    exact timer_serves_iff ready ran
  · intro slave w stream path present
    have initial : Unserved (AccountSystem.initial : World E D R) :=
      ⟨nofun,fun _ _ => Request.create_response,nofun⟩
    have unserved : Unserved w := path.invariant initial fun _ _ _ unserved unnamed ran =>
      step_unserved slave unserved unnamed ran
    have early := unserved.early stream present
    cases state : (Walker.state stream.download : DropCopy.State) with
    | undefined | subscribeBalances | getBalances => decide
    | _ =>
        rw [state] at early
        exact absurd early (by decide)

section closed
open Smallest

-- The first session of an account, up to the request for its balances.
def asking : List Event := startup ++ [ack "SUBSCRIBE_BALANCES"]

def askingBalances (w : Small) : Bool := isReady w && due w (fun _ => true) .balances

theorem requests_are_served_session :
    (∃ w after : Small, askingBalances w = true ∧ AccountSystem.step (setup true) w poll = some after ∧
      TimerServes (setup true) t (fun _ => true) (fun _ _ => none) w after) ∧
    ∃ w : Small, ∃ stream, w.dropCopy = some stream ∧ askingBalances w = true ∧
      Walker.state stream.download ∈ [DropCopy.State.undefined,.subscribeBalances,.getBalances] := by
  constructor
  · have ran : (execute (AccountSystem.step (setup true)) (initial : Small) asking).any askingBalances = true := by
      decide +kernel
    obtain ⟨w,_,checked⟩ := (Option.any_eq_true _ _).mp ran
    have ready : isReady w = true := (Bool.and_eq_true _ _ ▸ checked).1
    exact ⟨w,_,checked,rfl,((requests_are_served (setup true)).1 w _ t _ _ _ ready rfl).mpr (.inl rfl)⟩
  · obtain ⟨w,path,checked⟩ := reached_of_execute (initial : Small) (AccountSystem.step (setup false))
      (fun _ event => named event != some .getBalances) asking (fun w => w.dropCopy.isSome && askingBalances w)
      (by decide +kernel) (by decide +kernel)
    simp only [Bool.and_eq_true] at checked
    obtain ⟨stream,present⟩ := Option.isSome_iff_exists.mp checked.1
    have guarded : Run (setup false) (fun _ event => named event ≠ some .getBalances) w :=
      path.weaken fun _ _ known => by simpa using known
    exact ⟨w,stream,present,checked.2,(requests_are_served (setup false)).2 rfl w stream guarded present⟩

-- The same account without the master flag: a Timer does not ask for the
-- balances that are pending and granted.
theorem slave_is_not_served : ¬ ∀ (config : Config) (w after : Small), Run config (fun _ _ => True) w → isReady w = true →
    AccountSystem.step config w poll = some after →
    TimerServes config t (fun _ => true) (fun _ _ => none) w after := by
  intro all
  have ran : (execute (AccountSystem.step (setup false)) (initial : Small) asking).any askingBalances = true := by
    decide +kernel
  obtain ⟨w,executed,checked⟩ := (Option.any_eq_true _ _).mp ran
  simp only [askingBalances,Bool.and_eq_true] at checked
  have serves := all (setup false) w _ (execute_reached executed) checked.1 rfl
  rcases (timer_serves_iff checked.1 rfl).mp serves with master | nothing
  · cases master
  · exact absurd checked.2 (by simp [nothing])

end closed
end KucoinPro.RequestService
