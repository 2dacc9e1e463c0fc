import KucoinPro.StreamSubscriptions
import KucoinPro.SymbolDownload

-- Those who forward symbols and the streams that subscribe to them, as one system.
namespace KucoinPro.SymbolDistribution
open GuardedRuns MarketMoves StreamSubscriptions SymbolDownload

variable {Y S B E D R F : Type} {Q : Type → Type} {config : GatewayConfig} {reference : RestConfig}

-- An update comes from one of the two producers only, and a session has one Welcome.
def greeted (w : RestWorld F (Gateway Y Q S B E D R)) : RestEvent (GatewayEvent B) → Bool
  | .controller (.symbolsUpdate _) => false
  | .controller (.marketData index (.welcome _)) => (w.controller.marketData[index]?).all fun stream => !stream.welcome
  | _ => true

variable [Symbols Y] [LimitQueue Q]

-- The gateway has had what was passed on, and its streams are in order.
structure Distributed (config : GatewayConfig) (w : RestWorld F (Gateway Y Q S B E D R)) : Prop where
  passed : SymbolDownload.Valid w
  streams : StreamSubscriptions.Valid config w.controller
  forwarded : forwardedIn w.controller.shared.log = (updates w.log).flatten

variable [Sequencer S B] [Download2 E OrderEntryREST.State] [Download2 D DropCopy.State] [LimitRequest R]

-- An update that is passed on is one the streams can take.
theorem passes_orderly {w after : RestWorld F (Gateway Y Q S B E D R)} (distributed : Distributed config w)
    (passes : Passes (MarketSystem.receiver config) fresh w after) : Orderly w.controller (.symbolsUpdate fresh) := by
  have new : ∀ symbol ∈ fresh, symbol ∉ forwardedIn w.controller.shared.log := by
    intro symbol inside before
    rw [distributed.forwarded] at before
    exact passes.unknown symbol inside (distributed.passed.known symbol before)
  simp only [Orderly,orderly,Bool.and_eq_true,decide_eq_true_eq]
  refine ⟨passes.nodup,List.all_eq_true.mpr fun symbol inside => ?_⟩
  simpa using new symbol inside

variable [Download2 F Rest.State] [LawfulSymbols Y] [LawfulLimitQueue Q] [LawfulDownload2 F]

theorem step_distributed {w after : RestWorld F (Gateway Y Q S B E D R)} (distributed : Distributed config w)
    (allowed : greeted w event = true)
    (ran : RestSystem.step reference (MarketSystem.receiver config) w event = some after) : Distributed config after := by
  have moves := (step_steps ran).moves
  have passed := moves.valid distributed.passed
  have indexed := distributed.streams.indexed
  generalize strands reference w event = stuck at moves
  cases moves with
  | quiet untouched =>
      refine ⟨passed,?_,?_⟩
      · rw [untouched.controller]
        exact distributed.streams
      · rw [untouched.controller,untouched.updates]
        exact distributed.forwarded
  | stranded _ puts =>
      refine ⟨passed,?_,?_⟩
      · rw [puts.controller]
        exact distributed.streams
      · rw [puts.controller,puts.updates]
        exact distributed.forwarded
  | @passed fresh passes =>
      have stepped : MarketSystem.step config w.controller (.symbolsUpdate fresh) = some after.controller :=
        congrArg some passes.controller.symm
      refine ⟨passed,step_valid distributed.streams (passes_orderly distributed passes) stepped,?_⟩
      rw [passes.updates,List.flatten_append,List.flatten_singleton,← distributed.forwarded]
      rcases step_symbols indexed stepped with ⟨symbols,same,_,_,forwarded⟩ | ⟨other,_⟩
      · obtain rfl := GatewayEvent.symbolsUpdate.inj same
        exact forwarded
      · exact absurd rfl (other fresh)
  | @stepped happened same stepped _ updates =>
      subst same
      have running : MarketSystem.step config w.controller happened = some after.controller := stepped
      have orderly : Orderly w.controller happened := by
        cases happened with
        | symbolsUpdate => cases allowed
        | marketData index happened =>
            cases happened with
            | welcome => exact allowed
            | _ => rfl
        | account => rfl
      refine ⟨passed,step_valid distributed.streams orderly running,?_⟩
      rw [updates,← distributed.forwarded]
      rcases step_symbols indexed running with ⟨symbols,rfl,_⟩ | ⟨_,_,_,forwarded⟩
      · cases allowed
      · exact forwarded

-- Whatever fails in the download: the streams queue the subscriptions of the symbols
-- that were passed on, and of no others.
theorem run_distributed (streamId : Nat) {w : RestWorld F (Gateway Y Q S B E D R)}
    (positive : 0 < config.market.wsMaxSubscriptionsPerStream)
    (path : Reached (RestSystem.initial (MarketSystem.initial config streamId))
      (RestSystem.step reference (MarketSystem.receiver config)) (fun w event => greeted w event = true) w) :
    Exact config w.controller ∧ forwardedIn w.controller.shared.log = (updates w.log).flatten := by
  have start : Distributed config (RestSystem.initial (MarketSystem.initial config streamId) : RestWorld F (Gateway Y Q S B E D R)) :=
    ⟨SymbolDownload.initial_valid _,StreamSubscriptions.initial_valid streamId,rfl⟩
  have distributed : Distributed config w :=
    path.invariant start fun _ _ _ known allowed ran => step_distributed known allowed ran
  exact ⟨distributed.streams.exact positive,distributed.forwarded⟩

section closed
open Smallest

-- A list that fails at its second item: the first symbol is stranded, and the others get
-- to the streams, with those of a Subscribe.
def stranding : List (RestEvent (GatewayEvent Unit)) :=
  [attach,listed 0 3,listed 1 1,attach,listed 2 3,.controller (connect 0),.controller (greet 0),.subscribe ["C","B"],
    .controller (greet 1)]

theorem run_distributed_stranding : ∃ w : SmallRest, Exact (market 2) w.controller ∧
    forwardedIn w.controller.shared.log = (updates w.log).flatten ∧ (updates w.log).flatten = ["B","C"] := by
  obtain ⟨w,path,checked⟩ := reached_of_execute (RestSystem.initial (MarketSystem.initial (market 2) 1) : SmallRest)
    (RestSystem.step reference (MarketSystem.receiver (market 2))) greeted stranding
    (fun w => (updates w.log).flatten == ["B","C"]) (by decide +kernel) (by decide +kernel)
  obtain ⟨exact,forwarded⟩ := run_distributed 1 (by decide) path
  exact ⟨w,exact,forwarded,beq_iff_eq.mp checked⟩

end closed
end KucoinPro.SymbolDistribution
