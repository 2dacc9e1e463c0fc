import KucoinPro.EffectCauses
import KucoinPro.StreamIds

namespace KucoinPro.Publications
open GuardedRuns AccountSystem OrderOutcome EffectCauses ControllerSystem StreamIds

section accounts
variable {E D R : Type} {config : Config}

-- What a message to the server goes under: the id of a stream, and an account where
-- the message has one.
structure Signature where
  streamId : Nat
  account : Option String
  deriving DecidableEq, Repr

def signature : Entry → Option Signature
  | .effect (.streamStatus status) => some ⟨status.streamId,some status.account⟩
  | .effect (.fundsUpdate update) => some ⟨update.streamId,some update.account⟩
  | .effect (.orderUpdate update streamId) => some ⟨streamId,some update.account⟩
  | .effect (.response _ streamId _ _) => some ⟨streamId,none⟩
  | .effect (.cancelAllOrdersAck ack) => some ⟨ack.streamId,some ack.account⟩
  | _ => none

def wsSignature : OrderEntryWS.Effect → Option Signature
  | .streamStatus status => some ⟨status.streamId,some status.account⟩
  | .response _ streamId => some ⟨streamId,none⟩
  | .sendText _ | .close => none

def Signature.Names (signature : Signature) (account : Account) : Prop := ∀ name, signature.account = some name → name = account.name

-- A drop copy is there before anything goes under its id.
structure Signed (config : Config) (w : World E D R) (signature : Signature) : Prop where
  account : signature.Names config.account
  streamId : signature.streamId = config.orderEntryStreamId ∨
    signature.streamId = config.dropCopyStreamId ∧ w.dropCopy.isSome = true

def AllSigned (config : Config) (w : World E D R) : Prop := ∀ signed ∈ w.log.filterMap signature, Signed config w signed

theorem initial_signed [Download2 E OrderEntryREST.State] [LimitRequest R]
    (config : Config) : AllSigned config (AccountSystem.initial : World E D R) := by
  intro signed member
  cases member

theorem own_names (account : Account) (streamId : Nat) : Signature.Names ⟨streamId,some account.name⟩ account := by
  intro name same
  exact (Option.some.inj same).symm

theorem no_names (account : Account) (streamId : Nat) : Signature.Names ⟨streamId,none⟩ account := by
  intro name same
  cases same

theorem causes_signed {w : World E D R} (causes : Causes config cause e) (signs : signature (.effect e) = some signed)
    (present : cause = .dropCopy → w.dropCopy.isSome = true) : Signed config w signed := by
  cases causes with
  | quiet silent => cases e <;> first | cases silent; done | cases signs
  | wsStatus =>
      obtain rfl := Option.some.inj signs
      exact ⟨own_names _ _,.inr ⟨rfl,present rfl⟩⟩
  | status =>
      obtain rfl := Option.some.inj signs
      exact ⟨own_names _ _,.inl rfl⟩
  | noted known =>
      cases e with
      | streamStatus | fundsUpdate | orderUpdate | response | cancelAllOrdersAck => simp [notes] at known
      | _ => cases signs
  | funds =>
      obtain rfl := Option.some.inj signs
      exact ⟨own_names _ _,.inl rfl⟩
  | order =>
      obtain rfl := Option.some.inj signs
      exact ⟨own_names _ _,.inl rfl⟩
  | outcome concerns =>
      obtain rfl := Option.some.inj signs
      exact ⟨no_names _ _,.inl concerns.1⟩
  | refused =>
      obtain rfl := Option.some.inj signs
      exact ⟨own_names _ _,.inl rfl⟩
  | forwarded =>
      obtain rfl := Option.some.inj signs
      exact ⟨own_names _ _,.inl rfl⟩
  | _ => cases signs

theorem prepared_signatures (w : World E D R) (event : Event) :
    (prepared w event).log.filterMap signature = w.log.filterMap signature := by
  unfold prepared
  split
  · rfl
  · rfl

variable [Download2 E OrderEntryREST.State] [Download2 D DropCopy.State] [LimitRequest R]

-- The drop copy does nothing before it is there.
theorem dropCopy_present {w after : World E D R} {event : Event} {fresh : List Effect}
    (ran : AccountSystem.step config w event = some after) (cause : causeOf w event = .dropCopy)
    (log : after.log = fresh.map .effect ++ (prepared w event).log) (done : e ∈ fresh) : after.dropCopy.isSome = true := by
  cases happens : responseOf w event with
  | some answered =>
      simp only [causeOf,happens] at cause
      cases cause
  | none =>
      simp only [causeOf,happens] at cause
      cases event with
      | rest happened => cases happened <;> cases cause
      | dropCopy happened =>
          rcases step_dropCopy config ran with ⟨_,rfl⟩ | ⟨_,_,_,_,rfl⟩
          · simp only [prepared,happens] at log
            have nothing : fresh.map Entry.effect = [] := List.append_cancel_right log.symm
            rw [List.map_eq_nil_iff.mp nothing] at done
            cases done
          · rfl

variable [LawfulDownload2 E] [LawfulDownload2 D] [LawfulLimitRequest R]

theorem step_signed {w after : World E D R} {event : Event} (all : AllSigned config w)
    (ran : AccountSystem.step config w event = some after) : AllSigned config after := by
  obtain ⟨fresh,log,causes,_⟩ := (step_adds ran).fresh
  have stays : w.dropCopy.isSome = true → after.dropCopy.isSome = true := by
    intro present
    cases absent : after.dropCopy with
    | some stream => rfl
    | none =>
        rw [step_present ran absent] at present
        cases present
  intro signed member
  rw [log,List.filterMap_append,prepared_signatures,List.mem_append] at member
  rcases member with new | old
  · obtain ⟨entry,inside,signs⟩ := List.mem_filterMap.mp new
    obtain ⟨e,here,rfl⟩ := List.mem_map.mp inside
    exact causes_signed (causes e here) signs fun cause => dropCopy_present ran cause log here
  · have earlier := all signed old
    exact ⟨earlier.account,earlier.streamId.imp_right fun known => ⟨known.1,stays known.2⟩⟩

end accounts

section sessions
variable {config : Config}

def WsSigned (config : Config) (s : OrderEntryWS.Session) : Prop :=
  ∀ signed ∈ s.log.filterMap wsSignature, signed.Names config.account ∧ signed.streamId = config.orderEntryStreamId

theorem initial_wsSigned (config : Config) : WsSigned config OrderEntryWS.initial := by
  intro signed member
  cases member

theorem WsSigned.quiet {s after : OrderEntryWS.Session} (all : WsSigned config s)
    (same : after.log.filterMap wsSignature = s.log.filterMap wsSignature) : WsSigned config after := by
  rw [WsSigned,same]
  exact all

theorem onConnectionStatus_wsSigned {s : OrderEntryWS.Session} (all : WsSigned config s) (status : ConnectionStatus) (reason : String) :
    WsSigned config (OrderEntryWS.onConnectionStatus config status reason s) := by
  intro signed member
  rcases List.mem_cons.mp member with rfl | old
  · exact ⟨own_names _ _,rfl⟩
  · exact all signed old

theorem respond_wsSigned {s : OrderEntryWS.Session} (all : WsSigned config s) :
    WsSigned config (OrderEntryWS.respond config requestType status error text requestId externalOrderId clientOrderId s) := by
  intro signed member
  rcases List.mem_cons.mp member with rfl | old
  · exact ⟨nofun,rfl⟩
  · exact all signed old

theorem onError_wsSigned {s after : OrderEntryWS.Session} (all : WsSigned config s) (error : Json.WSError)
    (ran : OrderEntryWS.onError config error s = some after) : WsSigned config after := by
  unfold OrderEntryWS.onError at ran
  split at ran
  · split at ran
    · split at ran
      · exact Option.some.inj ran ▸ all.quiet rfl
      · cases ran
    · exact Option.some.inj ran ▸ all
  · exact Option.some.inj ran ▸ all
  · exact Option.some.inj ran ▸ all
  · exact Option.some.inj ran ▸ respond_wsSigned all
  · exact Option.some.inj ran ▸ respond_wsSigned all

theorem parse_wsSigned {decoders : Json.WSDecoders} {s after : OrderEntryWS.Session} (all : WsSigned config s)
    (ran : OrderEntryWS.parse config decoders payload s = some after) : WsSigned config after := by
  obtain ⟨call,_,handled⟩ := Option.bind_eq_some_iff.mp ran
  cases call with
  | auth _ message =>
      have sent : WsSigned config (s.emit (.sendText (config.account.createWsAuth message))) := all.quiet rfl
      exact Option.some.inj handled ▸ onConnectionStatus_wsSigned sent _ _
  | welcome welcome =>
      have greeted : WsSigned config {s with stream.welcome := true, stream.pingFreq := welcome.pingInterval * 1000000} :=
        all.quiet rfl
      exact Option.some.inj handled ▸ onConnectionStatus_wsSigned greeted _ _
  | error error => exact onError_wsSigned all error handled
  | pong => exact Option.some.inj handled ▸ all
  | addOrderAck => exact Option.some.inj handled ▸ respond_wsSigned all
  | cancelOrderAck => exact Option.some.inj handled ▸ respond_wsSigned all

theorem session_wsSigned {decoders : Json.WSDecoders} {s after : OrderEntryWS.Session} {event : OrderEntryWS.Event}
    (all : WsSigned config s) (ran : OrderEntryWS.step config decoders s event = some after) : WsSigned config after := by
  cases event with
  | timer t refresh =>
      obtain rfl := Option.some.inj ran
      refine all.quiet ?_
      unfold OrderEntryWS.onTimer OrderEntryWS.sendPing OrderEntryWS.checkLogonTimeout
      split
      · split
        · split <;> rfl
        · split <;> rfl
      · rfl
  | connected t => exact Option.some.inj ran ▸ all.quiet rfl
  | disconnected t =>
      have published := onConnectionStatus_wsSigned all .disconnected ""
      exact Option.some.inj ran ▸ published.quiet rfl
  | text t payload => exact parse_wsSigned all ran
  | logged => exact Option.some.inj ran ▸ all
  | binary => cases ran
  | action action =>
      obtain rfl := Option.some.inj ran
      cases action with
      | createOrder => exact all.quiet rfl
      | modifyOrder => exact all
      | cancelOrder => exact all.quiet rfl
      | cancelAllOrders => exact all

end sessions

section controller
variable {Y S B E D R : Type} {Q : Type → Type} {config : ControllerConfig}

-- All that an account has published, and the ids of its streams.
def signatures (a : AccountStreams E D R) : List Signature :=
  a.world.log.filterMap signature ++ (a.orderEntryWs.toList.flatMap fun ws => ws.session.log.filterMap wsSignature)

def ownIds (a : AccountStreams E D R) : List Nat := restId a :: ((dropCopyId a).toList ++ (wsId a).toList)

theorem streamIds_perm (c : Controller Y Q S B E D R) :
    (c.accounts.flatMap ownIds ++ (c.marketData.map (·.streamId) ++ [c.restStreamId])).Perm (streamIds c) := by
  have others := List.flatMap_append_perm c.accounts (fun a => (dropCopyId a).toList) (fun a => (wsId a).toList)
  have own : (c.accounts.map restId ++ (c.accounts.filterMap dropCopyId ++ c.accounts.filterMap wsId)).Perm
      (c.accounts.flatMap ownIds) := by
    rw [List.filterMap_eq_flatMap_toList,List.filterMap_eq_flatMap_toList]
    exact (others.append_left _).trans (List.map_append_flatMap_perm c.accounts restId _)
  refine (own.symm.append_right _).trans (List.perm_iff_count.mpr fun id => ?_)
  simp only [streamIds,List.count_append]
  omega

variable [Symbols Y] [LimitQueue Q] [Sequencer S B] [Download2 E OrderEntryREST.State] [Download2 D DropCopy.State]
  [LimitRequest R] [LawfulDownload2 E] [LawfulDownload2 D] [LawfulLimitRequest R]

theorem run_signed {c : Controller Y Q S B E D R} {events : List (ControllerEvent B)} {index : Nat}
    (ran : execute (step config) (create config) events = some c) (present : c.accounts[index]? = some a) :
    ∀ s ∈ signatures a, s.Names a.config.account ∧ s.streamId ∈ ownIds a := by
  have signed : AllSigned a.config a.world :=
    run_account ran present (initial_signed a.config) fun _ _ _ known stepped => step_signed known stepped
  intro s member
  rcases List.mem_append.mp member with rest | socket
  · obtain ⟨names,streamId⟩ := signed s rest
    refine ⟨names,?_⟩
    rcases streamId with same | ⟨same,there⟩
    · exact same ▸ List.mem_cons_self
    · refine List.mem_cons_of_mem _ (List.mem_append_left _ ?_)
      rw [dropCopyId,if_pos there,same]
      exact List.mem_cons_self
  · obtain ⟨ws,stream,inside⟩ := List.mem_flatMap.mp socket
    have there : a.orderEntryWs = some ws := by simpa using stream
    have valid : WsSigned (wsConfig a ws) ws.session :=
      run_session ran present there (initial_wsSigned _) fun _ _ _ known stepped => session_wsSigned known stepped
    obtain ⟨names,same⟩ := valid s inside
    refine ⟨names,List.mem_cons_of_mem _ (List.mem_append_right _ ?_)⟩
    rw [wsId,there,same]
    exact List.mem_cons_self

omit [Symbols Y] [LimitQueue Q] [Sequencer S B] [Download2 E OrderEntryREST.State] [Download2 D DropCopy.State]
  [LimitRequest R] [LawfulDownload2 E] [LawfulDownload2 D] [LawfulLimitRequest R] in
theorem ownIds_disjoint {c : Controller Y Q S B E D R} (distinct : (c.accounts.flatMap ownIds).Nodup) {i j : Nat}
    (first : c.accounts[i]? = some a) (second : c.accounts[j]? = some b) (different : i ≠ j) : ∀ id ∈ ownIds a, id ∉ ownIds b := by
  obtain ⟨_,apart⟩ := List.nodup_flatMap.mp distinct
  obtain ⟨here,rfl⟩ := List.getElem?_eq_some_iff.mp first
  obtain ⟨there,rfl⟩ := List.getElem?_eq_some_iff.mp second
  rcases Nat.lt_or_gt_of_ne different with before | after
  · exact fun id one two => List.pairwise_iff_getElem.mp apart i j here there before one two
  · exact fun id one two => List.pairwise_iff_getElem.mp apart j i there here after two one

-- What an account publishes goes under its own name and the ids of its own streams; until
-- the counter comes round nobody else has these ids.
theorem publications_are_identified {c : Controller Y Q S B E D R} {events : List (ControllerEvent B)} {i : Nat}
    (ran : execute (step config) (create config) events = some c) (few : (streamIds c).length ≤ 65536)
    (present : c.accounts[i]? = some a) : ∀ s ∈ signatures a, s.Names a.config.account ∧ s.streamId ∈ ownIds a ∧
      (∀ (j : Nat) b, c.accounts[j]? = some b → i ≠ j → ∀ other ∈ signatures b, s.streamId ≠ other.streamId) ∧
      ∀ stream ∈ c.marketData, s.streamId ≠ stream.streamId := by
  have distinct : (streamIds c).Nodup := ((run_accounted ran).nodup_iff (by decide)).mpr few
  have parts := List.nodup_append'.mp ((streamIds_perm c).symm.nodup distinct)
  intro s member
  obtain ⟨names,own⟩ := run_signed ran present s member
  refine ⟨names,own,?_,?_⟩
  · intro j b second different other published same
    have theirs := (run_signed ran second other published).2
    exact ownIds_disjoint parts.1 present second different s.streamId own (same ▸ theirs)
  · intro stream there same
    have listed : s.streamId ∈ c.accounts.flatMap ownIds := List.mem_flatMap.mpr ⟨a,List.mem_of_getElem? present,own⟩
    refine parts.2.2 listed (List.mem_append_left _ ?_)
    rw [same]
    exact List.mem_map_of_mem there

end controller

section closed
open Smallest

-- The second account publishes by both of its order streams, and by its drop copy once
-- it has been welcomed.
def publishing : List (ControllerEvent Unit) := logons ++ [.callback (.account 1 (.dropCopy (.welcome t))) rfl]

theorem publications_are_identified_publishing : ∃ (c : SmallController) (a b : AccountStreams _ _ _),
    execute (step (twoAccounts "wss")) (create (twoAccounts "wss")) publishing = some c ∧ c.accounts[0]? = some a ∧
      c.accounts[1]? = some b ∧ (signatures a).map (·.streamId) = [2,2] ∧ (signatures b).map (·.streamId) = [6,3,3,5,5] ∧
      ∀ s ∈ signatures b, s.Names b.config.account ∧ ∀ other ∈ signatures a, s.streamId ≠ other.streamId := by
  have checked : (execute (step (twoAccounts "wss")) (create (twoAccounts "wss") : SmallController) publishing).any (fun c =>
      decide ((streamIds c).length ≤ 65536) && (c.accounts[0]?).any fun a => (c.accounts[1]?).any fun b =>
        (signatures a).map (·.streamId) == [2,2] && (signatures b).map (·.streamId) == [6,3,3,5,5]) = true := by
    decide +kernel
  obtain ⟨c,ran,inside⟩ := (Option.any_eq_true _ _).mp checked
  rw [Bool.and_eq_true,decide_eq_true_eq] at inside
  obtain ⟨a,first,known⟩ := (Option.any_eq_true _ _).mp inside.2
  obtain ⟨b,second,ids⟩ := (Option.any_eq_true _ _).mp known
  simp only [Bool.and_eq_true,beq_iff_eq] at ids
  refine ⟨c,a,b,ran,first,second,ids.1,ids.2,?_⟩
  intro s member
  obtain ⟨names,_,others,_⟩ := publications_are_identified ran inside.1 second s member
  exact ⟨names,others 0 a first (by decide)⟩

end closed
end KucoinPro.Publications
