import KucoinPro.AccountRefinement
import KucoinPro.Serials
import KucoinPro.SubscriptionNumbers

namespace KucoinPro.StreamIds
open GuardedRuns ControllerSystem Serials SubscriptionNumbers MarketMoves

theorem map_set_same (f : α → β) {l : List α} {i : Nat} (present : l[i]? = some a) (same : f b = f a) :
    (l.set i b).map f = l.map f := by
  induction l generalizing i with
  | nil => rfl
  | cons x rest ih =>
      cases i with
      | zero =>
          obtain rfl := Option.some.inj present
          simp only [List.set_cons_zero,List.map_cons,same]
      | succ i => simp only [List.set_cons_succ,List.map_cons,ih present]

theorem filterMap_set_same (f : α → Option β) {l : List α} {i : Nat} (present : l[i]? = some a) (same : f b = f a) :
    (l.set i b).filterMap f = l.filterMap f := by
  have mapped := congrArg (List.filterMap id) (map_set_same f present same)
  rwa [List.filterMap_map,List.filterMap_map] at mapped

theorem filterMap_set_perm (f : α → Option β) {l : List α} {i : Nat} (present : l[i]? = some a) (before : f a = none)
    (after : f b = some x) : ((l.set i b).filterMap f).Perm (x :: l.filterMap f) := by
  induction l generalizing i with
  | nil => cases present
  | cons y rest ih =>
      cases i with
      | zero =>
          obtain rfl := Option.some.inj present
          rw [List.set_cons_zero,List.filterMap_cons_some after,List.filterMap_cons_none before]
      | succ i =>
          rw [List.set_cons_succ]
          cases known : f y with
          | none =>
              rw [List.filterMap_cons_none known,List.filterMap_cons_none known]
              exact ih present
          | some z =>
              rw [List.filterMap_cons_some known,List.filterMap_cons_some known]
              exact ((ih present).cons z).trans (.swap x z _)

variable {Y S B E D R : Type} {Q : Type → Type} {config : ControllerConfig}

def restId (a : AccountStreams E D R) : Nat := a.config.orderEntryStreamId
def wsId (a : AccountStreams E D R) : Option Nat := a.orderEntryWs.map (·.streamId)
def dropCopyId (a : AccountStreams E D R) : Option Nat := if a.world.dropCopy.isSome then some a.config.dropCopyStreamId else none

-- Of all streams that there are.
def streamIds (c : Controller Y Q S B E D R) : List Nat :=
  c.accounts.filterMap dropCopyId ++ (c.marketData.map (·.streamId) ++
    (c.accounts.filterMap wsId ++ (c.accounts.map restId ++ [c.restStreamId])))

def Accounted (c : Controller Y Q S B E D R) : Prop := Issued STREAM_IDS (streamIds c) c.streamId

-- The same streams, whatever else has changed.
theorem Accounted.same {c after : Controller Y Q S B E D R} (accounted : Accounted c) (ids : streamIds after = streamIds c)
    (last : after.streamId = c.streamId) : Accounted after := by
  unfold Accounted
  rw [ids,last]
  exact accounted

-- One stream more, with the next id.
theorem Accounted.created {c after : Controller Y Q S B E D R} (accounted : Accounted c)
    (ids : (streamIds after).Perm (nextStreamId c.streamId :: streamIds c)) (last : after.streamId = nextStreamId c.streamId) :
    Accounted after := by
  unfold Accounted
  rw [last]
  exact accounted.issue.perm ids

-- One account has changed, none of its streams has gone or come.
theorem Accounted.set {c after : Controller Y Q S B E D R} {index : Nat} (accounted : Accounted c)
    (present : c.accounts[index]? = some a) (accounts : after.accounts = c.accounts.set index b) (rest : restId b = restId a)
    (ws : wsId b = wsId a) (dropCopy : dropCopyId b = dropCopyId a) (streams : after.marketData = c.marketData)
    (first : after.restStreamId = c.restStreamId) (last : after.streamId = c.streamId) : Accounted after := by
  refine accounted.same ?_ last
  unfold streamIds
  rw [accounts,streams,first,filterMap_set_same dropCopyId present dropCopy,filterMap_set_same wsId present ws,
    map_set_same restId present rest]

theorem createStreams_accounted [LimitQueue Q] (count : Nat) {c : Controller Y Q S B E D R} (accounted : Accounted c) :
    Accounted (createStreams count c) := by
  induction count generalizing c with
  | zero => exact accounted
  | succ count ih =>
      have one : Accounted (createMarketData c) := by
        refine accounted.created ?_ rfl
        unfold streamIds
        have streams : (createMarketData c).marketData.map (·.streamId) =
            c.marketData.map (·.streamId) ++ [nextStreamId c.streamId] := List.map_append
        have kept : (createMarketData c).accounts = c.accounts ∧ (createMarketData c).restStreamId = c.restStreamId := ⟨rfl,rfl⟩
        rw [streams,kept.1,kept.2,List.append_assoc]
        refine (List.Perm.append_left _ List.perm_middle).trans ?_
        exact List.perm_middle
      exact ih one

theorem onSymbolsUpdate_accounted [Symbols Y] [LimitQueue Q]
    (symbols : List String) {c : Controller Y Q S B E D R} (accounted : Accounted c) :
    Accounted (onSymbolsUpdate config symbols c) := by
  have listed : Accounted {c with shared.symbols := (Symbols.update symbols c.shared.symbols).2} := accounted.same rfl rfl
  have ensured := createStreams_accounted ((Symbols.update symbols c.shared.symbols).1.1 - c.marketData.length) listed
  refine ensured.same ?_ rfl
  unfold streamIds onSymbolsUpdate
  rw [subscribeStreams_streamIds]

variable [Download2 E OrderEntryREST.State] [Download2 D DropCopy.State] [LimitRequest R] [LawfulDownload2 E]
  [LawfulDownload2 D] [LawfulLimitRequest R]

theorem adopt_accounted {c : Controller Y Q S B E D R} {index : Nat} {event : Event} (accounted : Accounted c)
    (present : c.accounts[index]? = some a) (stepped : AccountSystem.step a.config a.world event = some world)
    (shared : Shared Y Q S B) : Accounted (adopt index a world {c with shared := shared}) := by
  have continues := continued_continues c.streamId stepped
  cases creates : createsDropCopy a world with
  | true =>
      rw [createsDropCopy,Bool.and_eq_true,Option.isNone_iff_eq_none] at creates
      have adopted : adopt index a world {c with shared := shared} = {c with
          shared := shared
          streamId := nextStreamId c.streamId
          accounts := c.accounts.set index {a with config.dropCopyStreamId := nextStreamId c.streamId, world := world}} := by
        unfold adopt
        rw [if_pos (by simp [createsDropCopy,creates.1,creates.2])]
      rw [adopted]
      refine accounted.created ?_ rfl
      unfold streamIds
      have before : dropCopyId a = none := by simp [dropCopyId,creates.1]
      have after : dropCopyId {a with config.dropCopyStreamId := nextStreamId c.streamId, world := world} =
          some (nextStreamId c.streamId) := by simp [dropCopyId,creates.2]
      have ws : wsId {a with config.dropCopyStreamId := nextStreamId c.streamId, world := world} = wsId a := rfl
      have rest : restId {a with config.dropCopyStreamId := nextStreamId c.streamId, world := world} = restId a := rfl
      dsimp only
      rw [filterMap_set_same wsId present ws,map_set_same restId present rest]
      exact (filterMap_set_perm dropCopyId present before after).append_right _
  | false =>
      have adopted : adopt index a world {c with shared := shared} =
          {c with shared := shared, accounts := c.accounts.set index {a with world := world}} := by
        unfold adopt
        rw [if_neg (by simp [creates])]
      have same : world.dropCopy.isSome = a.world.dropCopy.isSome := by
        cases there : a.world.dropCopy.isSome with
        | true =>
            rw [continued,if_neg (by simp [creates])] at continues
            exact (continues.dropCopy there).1
        | false =>
            rw [createsDropCopy,← Option.not_isSome,there] at creates
            simpa using creates
      rw [adopted]
      refine accounted.set present rfl rfl rfl ?_ rfl rfl rfl
      simp only [dropCopyId,same]

variable [Symbols Y] [LimitQueue Q] [Sequencer S B]

theorem visit_accounted {c after : Controller Y Q S B E D R} {event : StreamEvent B} (accounted : Accounted c)
    (ran : visit config c event = some after) : Accounted after := by
  cases event with
  | account index call =>
      cases onAccount_called ran with
      | missing => exact accounted
      | called present stepped => exact adopt_accounted accounted present stepped _
  | orderEntryWs index event =>
      cases onOrderEntryWs_called ran with
      | missing => exact accounted
      | called present stream =>
          refine accounted.set present rfl rfl ?_ rfl rfl rfl rfl
          simp only [wsId,stream]
          rfl
  | marketData index event =>
      simp only [visit,onMarketData] at ran
      split at ran
      · exact Option.some.inj ran ▸ accounted
      · rename_i stream present
        obtain ⟨feed,stepped,rfl⟩ := Option.map_eq_some_iff.mp ran
        refine accounted.same ?_ rfl
        unfold streamIds
        rw [map_set_same (·.streamId) present (step_numbers stepped).streamId]

omit [Symbols Y] [LimitQueue Q] [Sequencer S B] [LawfulDownload2 E] [LawfulDownload2 D] [LawfulLimitRequest R] in
theorem handOver_accounted {c : Controller Y Q S B E D R} (accounted : Accounted c) (destination : Destination)
    (action : OrderAction) : Accounted (handOver destination action c).2 := by
  cases destination with
  | rest index =>
      cases present : c.accounts[index]? with
      | none =>
          simp only [handOver,present]
          exact accounted
      | some a =>
          obtain ⟨world,_,handed,same⟩ := handOver_rest present action
          rw [handed]
          refine accounted.set present rfl rfl rfl ?_ rfl rfl rfl
          simp only [dropCopyId,same]
  | ws index =>
      cases present : c.accounts[index]? with
      | none =>
          simp only [handOver,present]
          exact accounted
      | some a =>
          cases stream : a.orderEntryWs with
          | none =>
              simp only [handOver,present,stream]
              exact accounted
          | some ws =>
              simp only [handOver,present,stream]
              refine accounted.set present rfl rfl ?_ rfl rfl rfl rfl
              simp only [wsId,stream]
              rfl

theorem step_accounted {c after : Controller Y Q S B E D R} {event : ControllerEvent B} (accounted : Accounted c)
    (ran : step config c event = some after) : Accounted after := by
  cases event with
  | timer t now answers => exact execute_invariant (fun _ _ _ known stepped => visit_accounted known stepped) accounted ran
  | request request =>
      obtain rfl := Option.some.inj ran
      rw [onRequest_eq]
      cases addressee config c request with
      | error e => exact accounted
      | ok target => exact handOver_accounted accounted _ _
  | symbolsUpdate symbols => exact Option.some.inj ran ▸ onSymbolsUpdate_accounted symbols accounted
  | callback event _ => exact visit_accounted accounted ran

-- The constructor: first the REST streams of all accounts, then their websockets.

omit [Download2 D DropCopy.State] [LawfulDownload2 E] [LawfulDownload2 D] [LawfulLimitRequest R] in
theorem createOrderEntryRest_issued (accounts : List Account) {ids : List Nat} {streamId : Nat} (issued : Issued STREAM_IDS ids streamId) :
    Issued STREAM_IDS ((createOrderEntryRest config streamId accounts : List (AccountStreams E D R) × Nat).1.map restId ++ ids)
      (createOrderEntryRest config streamId accounts : List (AccountStreams E D R) × Nat).2 := by
  induction accounts generalizing ids streamId with
  | nil => exact issued
  | cons account rest ih => exact (ih issued.issue).perm List.perm_middle.symm

omit [Download2 E OrderEntryREST.State] [Download2 D DropCopy.State] [LimitRequest R] [LawfulDownload2 E] [LawfulDownload2 D]
  [LawfulLimitRequest R] in
theorem createOrderEntryWs_issued (streams : List (AccountStreams E D R)) {ids : List Nat} {streamId : Nat}
    (issued : Issued STREAM_IDS ids streamId) :
    Issued STREAM_IDS ((createOrderEntryWs streamId streams).1.filterMap wsId ++ ids) (createOrderEntryWs streamId streams).2 := by
  induction streams generalizing ids streamId with
  | nil => exact issued
  | cons a rest ih => exact (ih issued.issue).perm List.perm_middle.symm

omit [Download2 E OrderEntryREST.State] [Download2 D DropCopy.State] [LimitRequest R] [LawfulDownload2 E] [LawfulDownload2 D]
  [LawfulLimitRequest R] in
theorem createOrderEntryWs_restId (streamId : Nat) (streams : List (AccountStreams E D R)) :
    (createOrderEntryWs streamId streams).1.map restId = streams.map restId := by
  induction streams generalizing streamId with
  | nil => rfl
  | cons a rest ih => exact congrArg (restId a :: ·) (ih (nextStreamId streamId))

omit [Download2 E OrderEntryREST.State] [Download2 D DropCopy.State] [LimitRequest R] [LawfulDownload2 E] [LawfulDownload2 D]
  [LawfulLimitRequest R] in
theorem created_dropCopyId (streams : List (AccountStreams E D R)) (absent : ∀ a ∈ streams, a.world.dropCopy = none) :
    streams.filterMap dropCopyId = [] := by
  apply List.filterMap_eq_nil_iff.mpr
  intro a inside
  simp [dropCopyId,absent a inside]

omit [Download2 D DropCopy.State] [LawfulDownload2 E] [LawfulDownload2 D] [LawfulLimitRequest R] in
theorem createOrderEntryRest_wsId (streamId : Nat) (accounts : List Account) :
    (createOrderEntryRest config streamId accounts : List (AccountStreams E D R) × Nat).1.filterMap wsId = [] := by
  apply List.filterMap_eq_nil_iff.mpr
  intro a inside
  obtain ⟨index,found⟩ := List.getElem?_of_mem inside
  have opened : Opened accounts (createOrderEntryRest config streamId accounts : List (AccountStreams E D R) × Nat).1
      (fun account a => ∃ id, a = createAccount config id account) := createOrderEntryRest_opened _ _
  have bound := (List.getElem?_eq_some_iff.mp found).1
  rw [opened.1] at bound
  obtain ⟨id,rfl⟩ := opened.2 index _ a (List.getElem?_eq_getElem bound) found
  rfl

omit [Sequencer S B] [Download2 D DropCopy.State] [LawfulDownload2 E] [LawfulDownload2 D] [LawfulLimitRequest R] in
theorem create_accounted : Accounted (create config : Controller Y Q S B E D R) := by
  have absent : (create config : Controller Y Q S B E D R).accounts.filterMap dropCopyId = [] := by
    apply created_dropCopyId
    intro a inside
    obtain ⟨index,present⟩ := List.getElem?_of_mem inside
    have bound := (List.getElem?_eq_some_iff.mp present).1
    rw [create_opened.1] at bound
    have created := create_opened.2 index _ a (List.getElem?_eq_getElem bound) present
    rw [created.world]
    rfl
  have rest : Issued STREAM_IDS
      ((createOrderEntryRest config (nextStreamId 0) config.accounts : List (AccountStreams E D R) × Nat).1.map restId ++
        [nextStreamId 0])
      (createOrderEntryRest config (nextStreamId 0) config.accounts : List (AccountStreams E D R) × Nat).2 :=
    createOrderEntryRest_issued _ (Issued.none STREAM_IDS).issue
  unfold Accounted streamIds
  rw [absent]
  unfold create
  dsimp only
  cases offered : config.wsApi && config.wsUri != "" with
  | false =>
      rw [if_neg Bool.false_ne_true,createOrderEntryRest_wsId]
      exact rest
  | true =>
      rw [if_pos rfl,createOrderEntryWs_restId]
      exact createOrderEntryWs_issued _ rest

theorem run_accounted {c : Controller Y Q S B E D R} {events : List (ControllerEvent B)}
    (ran : execute (step config) (create config) events = some c) : Accounted c :=
  execute_invariant (fun _ _ _ known stepped => step_accounted known stepped) create_accounted ran

-- No two streams ever share an id, until the counter comes round.
theorem stream_ids_are_distinct {c : Controller Y Q S B E D R} {events : List (ControllerEvent B)}
    (ran : execute (step config) (create config) events = some c) : (streamIds c).Nodup ↔ (streamIds c).length ≤ 65536 :=
  (run_accounted ran).nodup_iff (by decide)

section closed
open Smallest

-- A drop copy, two streams of market data, and a second drop copy.
def growing : List (ControllerEvent Unit) :=
  [connects 0,connects 1,answers 1 0 (reply "ok"),.symbolsUpdate ["A","B","C"],answers 0 0 (reply "ok"),turn]

theorem stream_ids_are_distinct_growing : ∃ c : SmallController,
    execute (step (twoAccounts "wss")) (create (twoAccounts "wss")) growing = some c ∧
    (streamIds c).Nodup ∧ streamIds c = [9,6,7,8,4,5,2,3,1] := by
  have checked : (execute (step (twoAccounts "wss")) (create (twoAccounts "wss") : SmallController) growing).any
      (fun c => streamIds c == [9,6,7,8,4,5,2,3,1]) = true := by decide +kernel
  obtain ⟨c,ran,known⟩ := (Option.any_eq_true _ _).mp checked
  have ids := beq_iff_eq.mp known
  refine ⟨c,ran,(stream_ids_are_distinct ran).mpr ?_,ids⟩
  rw [ids]
  decide

end closed
end KucoinPro.StreamIds
