import Subconscious.RelaySteps

/-!
# The daemon refines the protocol of each open

Every step of the daemon is, for each open, some moves of its protocol: the
open it concerns takes one, and the others take none beside losing their
module or their client. A run therefore keeps the promises of every open.
-/

namespace Subconscious.RelayRefinement

open HashMaps HashMap Protocol ForwardingState ForwardingRelays ForwardingRuns List
open ForwardingInvariant ForwardingConsistency ForwardingSteps ForwardingEndings ForwardingHandles
open ForwardingRegistry RouteOpenProtocol RelayWorld RelayCoherence RelaySteps

variable {id : SenderId}

/-- Why a handler gives up, with the codes it tells its client. -/
inductive GivesUp (w : World) (id : SenderId) (o : RouteOpen) : List String → Prop where
  | unsent (hphase : o.phase = .sending) (code : String) : GivesUp w id o [code]
  | refused (outcome : RouteBindRelayOutcome) (hphase : o.phase = .waiting)
      (hfound : w.outcomeOf id = some outcome) (hrefused : outcome ≠ .accepted) :
      GivesUp w id o [refusalCode outcome]
  | alone (hphase : o.phase = .waiting) (hnone : w.outcomeOf id = none)
      (hgone : w.table.pendingRelays.contains o.key ≠ true) :
      GivesUp w id o ["target_unavailable"]
  | timedOut (hphase : o.phase = .polled) (hdeadline : o.request.deadline ≤ w.now) :
      GivesUp w id o ["module_timeout"]
  | canceled (hphase : o.phase = .sending ∨ o.phase = .waiting) (hended : o.client ∈ w.ended) :
      GivesUp w id o []

/-- A GOODBYE may get on to a state. -/
structure Advances (w : World) (goodbye : Goodbye) (state : GoodbyeState) : Prop where
  later : goodbye.state.stage < state.stage
  waiting : ∀ giveUpAt, state = .waiting giveUpAt → giveUpAt = w.now + lateModuleGoodbyeDeadline
  expired : ∀ giveUpAt, state = .expired giveUpAt →
    goodbye.state = .waiting giveUpAt ∧ giveUpAt ≤ w.now
  dropped : state = .dropped → goodbye.target.connectionId ∈ w.ended ∨ w.shuttingDown = true

/-- What one step of one party can do. -/
inductive Stepped (w : World) : World → Prop where
  | same : Stepped w w
  | ticked (elapsed : Nat) : Stepped w { w with now := w.now + elapsed }
  | refused (request : RelayRequest) (err : ForwardingError)
      (herr : (beginRouteBindRelayInner w.table request).result = .error err) :
      Stepped w (callWith w (.beginRouteBindRelay request) [])
  | opened (request : RelayRequest) (relay : PendingRouteBindRelay)
      (hsender : request.sender = w.nextSender)
      (hok : (beginRouteBindRelayInner w.table request).result = .ok relay) :
      Stepped w (opened w request relay)
  | gaveUp (id : SenderId) (o : RouteOpen) (codes : List String) (ho : w.opens.get id = some o)
      (hwhy : GivesUp w id o codes) : Stepped w (w.releaseAndFinish id o (codes.map .refused))
  | accepted (id : SenderId) (o : RouteOpen) (ho : w.opens.get id = some o)
      (hphase : o.phase = .waiting) (hfound : w.outcomeOf id = some .accepted) :
      Stepped w (w.finish id o [])
  | queuedBind (id : SenderId) (o : RouteOpen) (ho : w.opens.get id = some o)
      (hphase : o.phase = .sending) :
      Stepped w { w.setPhase id o .sent with
        queued := w.queued ++ [.routeBind o.allocation.moduleHandle o.relay.corr] }
  | marked (id : SenderId) (o : RouteOpen) (ho : w.opens.get id = some o)
      (hphase : o.phase = .sent) :
      Stepped w ((callWith w (.markRouteBindRelayEnqueued o.key.1 o.key.2)
        (markGoodbyes w o)).setPhase id o .waiting)
  | polled (id : SenderId) (o : RouteOpen) (ho : w.opens.get id = some o)
      (hphase : o.phase = .waiting) (hpending : w.table.pendingRelays.contains o.key) :
      Stepped w (w.setPhase id o .polled)
  | rested (id : SenderId) (o : RouteOpen) (ho : w.opens.get id = some o)
      (hphase : o.phase = .polled) : Stepped w (w.setPhase id o .waiting)
  | replied (connectionId : ConnectionId) (endpoint : ModuleEndpointId) (corr : UInt64)
      (outcome : RouteBindRelayOutcome) (reads : CompletionReads)
      (hrole : w.table.endpointByConnection.get connectionId = some endpoint)
      (hlive : connectionId ∉ w.deregistered) (hbind : w.bindQueued (endpoint, corr) = true)
      (hnow : reads.now = w.now) : Stepped w (w.complete connectionId corr outcome reads)
  | called (op : Op) (extra : List Goodbye) (hcallable : w.callable op = true)
      (hextra : extra = handedOut w.table op ∨ extra = [] ∧ w.shuttingDown = true) :
      Stepped w (callWith w op extra)
  | shutdown : Stepped w { w.perform .beginDaemonDrain with shuttingDown := true }
  | deregistered (connectionId : ConnectionId) :
      Stepped w { w with deregistered := insert connectionId w.deregistered }
  | sessionOver (connectionId : ConnectionId)
      (hnone : w.table.endpointByConnection.get connectionId = none) :
      Stepped w { w with deregistered := w.deregistered.erase connectionId }
  | ended (connectionId : ConnectionId) : Stepped w { w with ended := insert connectionId w.ended }
  | goodbye (index : Nat) (goodbye : Goodbye) (state : GoodbyeState)
      (hget : w.goodbyes[index]? = some goodbye) (hadvances : Advances w goodbye state) :
      Stepped w (w.setGoodbye index goodbye state)

/-- A mark with the GOODBYE it turns out to owe. -/
theorem step_mark (ho : w.opens.get id = some o) (hphase : o.phase = .sent) :
    w.step (.mark id) = (callWith w (.markRouteBindRelayEnqueued o.key.1 o.key.2)
      (markGoodbyes w o)).setPhase id o .waiting := by
  obtain ⟨found, hresult⟩ : ∃ found,
      (markRouteBindRelayEnqueued w.table o.relay.endpoint o.relay.corr).result = .ok found := by
    cases marked w.table o.key with
    | pending _ _ _ _ hresult | released _ _ _ _ hresult | settled _ _ _ hresult =>
      exact ⟨_, hresult⟩
  have hnone : handedOut w.table (.markRouteBindRelayEnqueued o.relay.endpoint o.relay.corr) = [] :=
    rfl
  rw [markGoodbyes_eq hresult]
  simp only [World.step, ho, if_pos hphase, hresult, World.perform, hnone, append_nil]
  cases found with
  | releasedWithoutReply => rfl
  | marked | settledByReply =>
    simp only [reduceCtorEq, if_false, callWith, append_nil]
    rfl

/-- The sender of a GOODBYE takes it one stage further. -/
theorem sendModuleRouteGoodbye_stepped (room : Bool) :
    Stepped w (w.sendModuleRouteGoodbye index room runtime) := by
  unfold World.sendModuleRouteGoodbye
  split
  · exact .same
  rename_i goodbye hget
  split_ifs with hheld hended hroom hruntime
  · exact .same
  all_goals
    have hopen : ∀ state : GoodbyeState, 0 < state.stage → goodbye.state.stage < state.stage := by
      rw [not_not] at hheld
      rw [hheld]
      exact fun _ hlater => hlater
  · exact .goodbye index goodbye .dropped hget ⟨hopen _ Nat.two_pos, nofun, nofun, fun _ => .inl hended⟩
  · exact .goodbye index goodbye .queued hget ⟨hopen _ Nat.two_pos, nofun, nofun, nofun⟩
  · rw [Bool.and_eq_true] at hruntime
    exact .goodbye index goodbye .dropped hget
      ⟨hopen _ Nat.two_pos, nofun, nofun, fun _ => .inr hruntime.2⟩
  · refine .goodbye index goodbye _ hget ⟨hopen _ Nat.one_pos, ?_, nofun, nofun⟩
    exact fun giveUpAt heq => (GoodbyeState.waiting.inj heq).symm

/-- So does the task of a late one. -/
theorem resumeLateGoodbye_stepped : Stepped w (w.resumeLateGoodbye index room) := by
  unfold World.resumeLateGoodbye
  split
  · exact .same
  rename_i goodbye hget
  split
  case h_1 giveUpAt hwaiting =>
    have hopen : goodbye.state.stage < 2 := by
      rw [hwaiting]
      exact Nat.one_lt_two
    split_ifs with hended hroom hlate
    · exact .goodbye index goodbye .dropped hget ⟨hopen, nofun, nofun, fun _ => .inl hended⟩
    · exact .goodbye index goodbye .queued hget ⟨hopen, nofun, nofun, nofun⟩
    · refine .goodbye index goodbye (.expired giveUpAt) hget ⟨hopen, nofun, ?_, nofun⟩
      rintro _ ⟨⟩
      exact ⟨hwaiting, hlate⟩
    · exact .same
  · exact .same

/-- Every step is one of these. -/
theorem stepped (w : World) (event : Event) : Stepped w (w.step event) := by
  cases event with
  | tick elapsed => exact .ticked elapsed
  | openRoute =>
    simp only [World.step]
    split
    case h_1 err herr => exact .refused _ err herr
    case h_2 relay hok => exact .opened _ relay rfl hok
  | giveUp id code =>
    simp only [World.step]
    split
    · split
      case isTrue o ho hphase => exact .gaveUp id o [code] ho (.unsent hphase code)
      case isFalse => exact .same
    · exact .same
  | queueBind id =>
    simp only [World.step]
    split
    · split
      case isTrue o ho hready => exact .queuedBind id o ho hready.1
      case isFalse => exact .same
    · exact .same
  | mark id =>
    by_cases hready : ∃ o, w.opens.get id = some o ∧ o.phase = .sent
    · obtain ⟨o, ho, hphase⟩ := hready
      rw [step_mark ho hphase]
      exact .marked id o ho hphase
    simp only [World.step]
    split
    case h_1 o ho =>
      rw [if_neg fun hphase => hready ⟨o, ho, hphase⟩]
      exact .same
    · exact .same
  | wake id =>
    simp only [World.step]
    split
    case h_2 => exact .same
    rename_i o ho
    split
    case isFalse => exact .same
    rename_i hphase
    split
    case h_1 hfound => exact .accepted id o ho hphase hfound
    case h_2 outcome hrefused hfound =>
      exact .gaveUp id o [_] ho (.refused outcome hphase hfound hrefused)
    case h_3 hnone =>
      split
      · exact .same
      case isFalse hgone => exact .gaveUp id o [_] ho (.alone hphase hnone hgone)
  | poll id =>
    simp only [World.step]
    split
    · split
      case isTrue o ho hready => exact .polled id o ho hready.1 hready.2.2
      case isFalse => exact .same
    · exact .same
  | timeOut id =>
    simp only [World.step]
    split
    · split_ifs
      case pos o ho hphase hdeadline => exact .gaveUp id o [_] ho (.timedOut hphase hdeadline)
      case neg o ho hphase hdeadline => exact .rested id o ho hphase
      case neg => exact .same
    · exact .same
  | cancel id =>
    simp only [World.step]
    split
    · split
      case isTrue o ho hready => exact .gaveUp id o [] ho (.canceled hready.1 hready.2)
      case isFalse => exact .same
    · exact .same
  | reply connectionId corr outcome =>
    simp only [World.step]
    split
    · split
      case isTrue endpoint hrole hready =>
        exact .replied connectionId endpoint corr outcome _ hrole hready.1 hready.2 rfl
      case isFalse => exact .same
    · exact .same
  | call op =>
    simp only [World.step]
    split
    case isTrue hcallable => exact .called op _ hcallable (.inl rfl)
    case isFalse => exact .same
  | beginShutdown => exact .shutdown
  | shutdownCall op =>
    simp only [World.step]
    split
    case isTrue hready =>
      rw [Bool.and_eq_true] at hready
      rw [invoke_eq]
      exact .called op [] hready.2 (.inr ⟨rfl, hready.1⟩)
    case isFalse => exact .same
  | deregister connectionId => exact .deregistered connectionId
  | sessionOver connectionId =>
    simp only [World.step]
    split
    case isTrue => exact .same
    case isFalse hnone =>
      rw [contains_eq, Option.not_isSome_iff_eq_none] at hnone
      exact .sessionOver connectionId hnone
  | endConnection connectionId => exact .ended connectionId
  | sendModuleRouteGoodbye => exact sendModuleRouteGoodbye_stepped _
  | resumeLateGoodbye => exact resumeLateGoodbye_stepped

/-- A step of the daemon is some moves of every open it had, and the opens it
adds start fresh. -/
structure Refines (w w' : World) : Prop where
  coherent : Coherent w'
  old : ∀ id o, w.opens.get id = some o → ∃ o', w'.opens.get id = some o' ∧
    o'.request = o.request ∧ o'.relay = o.relay ∧ Moves (view w id o) (view w' id o')
  new : ∀ id o', w'.opens.get id = some o' → (∃ o, w.opens.get id = some o) ∨ Fresh (view w' id o')

/-- A step that adds no open and changes no phase. -/
theorem Refines.ofSame (hcoherent : Coherent w') (hopens : w'.opens = w.opens)
    (hmoves : ∀ id o, w.opens.get id = some o → Moves (view w id o) (view w' id o)) :
    Refines w w' := by
  refine ⟨hcoherent, ?_, ?_⟩
  · intro id o ho
    exact ⟨o, by rw [hopens]; exact ho, rfl, rfl, hmoves id o ho⟩
  intro id o ho
  rw [hopens] at ho
  exact .inl ⟨o, ho⟩

section

variable (h : Coherent w)
include h

/-- Doing nothing refines the protocols. -/
theorem Refines.refl : Refines w w := .ofSame h rfl fun _ _ _ => .refl

omit h in
/-- A step in which one handler moves on. -/
theorem Refines.ofPhase (hcoherent : Coherent w') (ho : w.opens.get id = some o)
    (hopens : w'.opens = w.opens.insert id { o with phase := phase })
    (hown : Moves (view w id o) (view w' id { o with phase := phase }))
    (hothers : ∀ id' o', w.opens.get id' = some o' → id' ≠ id →
      Moves (view w id' o') (view w' id' o')) : Refines w w' := by
  refine ⟨hcoherent, ?_, ?_⟩
  · intro id' o' ho'
    rw [hopens]
    by_cases heq : id' = id
    · subst heq
      rw [ho] at ho'
      cases ho'
      exact ⟨{ o with phase := phase }, by rw [get_insert, if_pos rfl], rfl, rfl, hown⟩
    · exact ⟨o', by rw [get_insert, if_neg heq]; exact ho', rfl, rfl, hothers id' o' ho' heq⟩
  · intro id' o' ho'
    rw [hopens, get_insert] at ho'
    split at ho'
    case isTrue heq => exact .inl ⟨o, by rw [heq]; exact ho⟩
    case isFalse => exact .inl ⟨o', ho'⟩

/-- Giving up refines the protocols. -/
theorem Refines.release (ho : w.opens.get id = some o)
    (honce : EndpointsOnce (w.releaseAndFinish id o answers))
    (hphase : o.phase = .sending ∨ o.phase.awaits)
    (hanswers : Farewell (view w id o) (if o.client ∈ w.ended then [] else answers)) :
    Refines w (w.releaseAndFinish id o answers) := by
  have hconcerns := concerns_abort h o.key (.moduleGone "route.open handler canceled")
  refine .ofPhase (coherent_finish (hconcerns.coherent h honce nofun) ho) ho rfl
    (release_moves h ho honce hphase hanswers) ?_
  intro id' o' ho' hne
  rw [World.releaseAndFinish, view_finish_other hne]
  exact hconcerns.moves h honce ho' fun hkey => hne (h.same ho' ho (.inl hkey)).1

omit h in
/-- The outcome an open wakes to is one of those it was given. -/
theorem outcomeOf_mem (hfound : w.outcomeOf id = some outcome) :
    ∃ time, (outcome, time) ∈ (view w id o).outcomes := by
  obtain ⟨entry, hentry, rfl⟩ := Option.map_eq_some_iff.mp hfound
  refine ⟨entry.2.2, mem_map.mpr ⟨entry, mem_filter.mpr ⟨?_, ?_⟩, rfl⟩⟩
  · exact mem_of_find?_eq_some hentry
  · have htest := List.find?_some hentry
    exact htest

omit h in
/-- An open without an outcome has its relay pending. -/
theorem pending_of_outcomeOf_none (hsound : Sound (view w id o)) (hnone : w.outcomeOf id = none) :
    w.table.pendingRelays.contains o.key = true := by
  have hempty : (view w id o).outcomes = [] := by
    have hfind := Option.map_eq_none_iff.mp hnone
    rw [List.find?_eq_none] at hfind
    simp only [view, map_eq_nil_iff]
    exact filter_eq_nil_iff.mpr hfind
  have honce := hsound.outcome_once
  rw [hempty] at honce
  rw [contains_eq]
  cases hp : w.table.pendingRelays.get o.key with
  | some => rfl
  | none => simp [view, hp] at honce

omit h in
/-- A handler gives up before its bind is queued or while it awaits the outcome. -/
theorem GivesUp.phase (h : GivesUp w id o codes) : o.phase = .sending ∨ o.phase.awaits := by
  cases h with
  | unsent hphase => exact .inl hphase
  | refused _ hphase | alone hphase | timedOut hphase => exact .inr (by rw [hphase]; rfl)
  | canceled hphase => exact hphase.imp_right fun hwaiting => by rw [hwaiting]; rfl

omit h in
/-- A handler that gives up an accepted open says nothing, or its timer ran out. -/
theorem GivesUp.of_accepted (h : GivesUp w id o codes) (hsound : Sound (view w id o))
    (haccepted : (view w id o).Accepted) :
    codes = [] ∨ o.phase = .polled ∧ o.request.deadline ≤ w.now := by
  cases h with
  | unsent hphase code =>
    have hreplies := (hsound.unsent (hsound.binds_sending hphase)).1
    rw [(hsound.accepted_reply haccepted).1] at hreplies
    cases hreplies
  | refused outcome hphase hfound hrefused =>
    obtain ⟨time, hmem⟩ := haccepted
    obtain ⟨time', hmem'⟩ := outcomeOf_mem hfound
    exact absurd (congrArg Prod.fst (hsound.outcome_unique hmem hmem')).symm hrefused
  | alone hphase hnone hgone => exact absurd (pending_of_outcomeOf_none hsound hnone) hgone
  | timedOut hphase hdeadline => exact .inr ⟨hphase, hdeadline⟩
  | canceled => exact .inl rfl

omit h in
/-- What a handler tells its client is what an open may say. -/
theorem GivesUp.farewell (h : GivesUp w id o codes) (hsound : Sound (view w id o)) :
    Farewell (view w id o) (if o.client ∈ w.ended then [] else codes.map .refused) := by
  by_cases hended : o.client ∈ w.ended
  · rw [if_pos hended]
    exact .silent (decide_eq_true hended)
  rw [if_neg hended]
  cases h with
  | unsent hphase code => exact .unsent hphase code
  | refused outcome hphase hfound hrefused =>
    refine .refused hphase ?_ _
    intro haccepted
    rcases GivesUp.of_accepted (.refused outcome hphase hfound hrefused) hsound haccepted with
      hnone | ⟨hpolled, -⟩
    · cases hnone
    · simp [hphase] at hpolled
  | alone hphase hnone hgone => exact absurd (pending_of_outcomeOf_none hsound hnone) hgone
  | timedOut hphase => exact .timedOut hphase
  | canceled _ hclient => exact absurd hclient hended

/-- Queueing the bind refines the protocols. -/
theorem Refines.queueBind (ho : w.opens.get id = some o) (hphase : o.phase = .sending) :
    Refines w { w.setPhase id o .sent with
      queued := w.queued ++ [.routeBind o.allocation.moduleHandle o.relay.corr] } := by
  have hcoherent := coherent_setPhase h ho .sent
  refine .ofPhase { hcoherent with queued := ?_ } ho rfl ?_ ?_
  · intro handle corr hbind
    rcases mem_append.mp hbind with hold | hnew
    · exact hcoherent.queued handle corr hold
    · cases mem_singleton.mp hnew
      exact ⟨id, { o with phase := .sent }, by simp [World.setPhase], rfl, rfl⟩
  · refine .single ?_
    have hview : view { w.setPhase id o .sent with
          queued := w.queued ++ [.routeBind o.allocation.moduleHandle o.relay.corr] } id
          { o with phase := .sent } =
        { view w id o with phase := .sent, binds := (view w id o).binds + 1 } := by
      simp only [view, World.setPhase, filterMap_append, count_append]
      have hone : ([ModuleFrame.routeBind o.allocation.moduleHandle o.relay.corr].filterMap
          ModuleFrame.bindHandle).count o.allocation.moduleHandle = 1 :=
        count_singleton_self
      rw [show ({ o with phase := Phase.sent } : RouteOpen).allocation = o.allocation from rfl,
        hone]
      rfl
    rw [hview]
    exact .queueBind (view w id o) hphase
  · intro id' o' ho' hne
    have hhandle : o.allocation.moduleHandle ≠ o'.allocation.moduleHandle :=
      fun heq => hne (h.same ho ho' (.inr heq)).1.symm
    have hnone : ([ModuleFrame.routeBind o.allocation.moduleHandle o.relay.corr].filterMap
        ModuleFrame.bindHandle).count o'.allocation.moduleHandle = 0 := by
      simp [ModuleFrame.bindHandle, hhandle]
    have hview : view { w.setPhase id o .sent with
          queued := w.queued ++ [.routeBind o.allocation.moduleHandle o.relay.corr] } id' o' =
        view w id' o' := by
      simp only [view, World.setPhase, filterMap_append, count_append, hnone,
        Nat.add_zero]
      rfl
    rw [hview]
    exact .refl

/-- Looking at the one-shot or at the timer refines the protocols. -/
theorem Refines.look (ho : w.opens.get id = some o)
    (hmove : Move (view w id o) { view w id o with phase := phase }) :
    Refines w (w.setPhase id o phase) :=
  .ofPhase (coherent_setPhase h ho phase) ho rfl (.single hmove) fun _ _ _ _ => .refl

/-- A GOODBYE that gets on is nothing to the opens. -/
theorem Refines.setGoodbye (hget : w.goodbyes[index]? = some goodbye) (state : GoodbyeState) :
    Refines w (w.setGoodbye index goodbye state) := by
  have hmap : (w.goodbyes.set index { goodbye with state := state }).map Goodbye.handle =
      w.goodbyes.map Goodbye.handle := by
    rw [map_set]
    apply ext_getElem?
    intro i
    rw [List.getElem?_set, List.getElem?_map]
    split
    case isTrue heq =>
      subst heq
      rw [hget]
      split
      · rfl
      rename_i hlong
      rw [length_map] at hlong
      rw [List.getElem?_eq_none (Nat.le_of_not_lt hlong)] at hget
      cases hget
    case isFalse => rfl
  have hqueued : (w.setGoodbye index goodbye state).queued.filterMap ModuleFrame.bindHandle =
      w.queued.filterMap ModuleFrame.bindHandle := by
    simp only [World.setGoodbye]
    split
    case isTrue => simp [filterMap_append, ModuleFrame.bindHandle]
    case isFalse => rfl
  refine .ofSame { h with goodbyes := ?_, queued := ?_ } rfl ?_
  · intro other hother
    obtain ⟨i, hi⟩ := mem_iff_getElem?.mp hother
    simp only [World.setGoodbye, List.getElem?_set] at hi
    split at hi
    case isTrue =>
      split at hi
      case isTrue =>
        cases hi
        exact h.goodbyes goodbye (mem_of_getElem? hget)
      case isFalse => cases hi
    case isFalse => exact h.goodbyes other (mem_of_getElem? hi)
  · intro handle corr hbind
    apply h.queued handle corr
    simp only [World.setGoodbye] at hbind
    split at hbind
    case isTrue =>
      rcases mem_append.mp hbind with hold | hnew
      · exact hold
      · cases mem_singleton.mp hnew
    case isFalse => exact hbind
  · intro id o ho
    have hview : view (w.setGoodbye index goodbye state) id o = view w id o := by
      simp only [view, hqueued]
      simp only [World.setGoodbye, hmap]
      rfl
    rw [hview]
    exact .refl

/-- Connections come and go. -/
theorem Refines.deregister (connectionId : ConnectionId) :
    Refines w { w with deregistered := insert connectionId w.deregistered } := by
  refine .ofSame { h with slotted := ?_ } rfl ?_
  · exact fun key entry hp => (h.slotted key entry hp).imp_right Finset.mem_insert_of_mem
  intro id o ho
  refine moves_lose (view w id o) fun hlost => lost_iff.mpr ?_
  exact (lost_iff.mp hlost).imp_right (.imp_left Finset.mem_insert_of_mem)

/-- A connection may register again. -/
theorem Refines.sessionOver (hnone : w.table.endpointByConnection.get connectionId = none) :
    Refines w { w with deregistered := w.deregistered.erase connectionId } := by
  have hother : ∀ endpoint, Registered w.table endpoint → endpoint.connectionId ≠ connectionId := by
    intro endpoint hregistered heq
    have hrole := h.inv.registered_endpoint endpoint hregistered
    rw [heq, hnone] at hrole
    cases hrole
  refine .ofSame { h with slotted := ?_ } rfl ?_
  · intro key entry hp
    refine (h.slotted key entry hp).imp_right fun hmem => Finset.mem_erase.mpr ⟨?_, hmem⟩
    exact hother _ (h.inv.relay_registered hp)
  intro id o ho
  refine moves_lose (view w id o) fun hlost => lost_iff.mpr ?_
  rcases lost_iff.mp hlost with hgone | hderegistered | hrest
  · exact .inl hgone
  · cases hid : w.table.moduleIdByEndpoint.get o.relay.endpoint with
    | none => exact .inl rfl
    | some moduleId =>
      exact .inr (.inl (Finset.mem_erase.mpr ⟨hother _ ⟨moduleId, hid⟩, hderegistered⟩))
  · exact .inr (.inr hrest)

/-- A connection may end. -/
theorem Refines.endConnection (connectionId : ConnectionId) :
    Refines w { w with ended := insert connectionId w.ended } := by
  refine .ofSame { h with } rfl ?_
  intro id o ho
  have hmono : (view w id o).lost = true →
      lost { w with ended := insert connectionId w.ended } o = true := fun hlost =>
    lost_iff.mpr ((lost_iff.mp hlost).imp_right (.imp_right (.imp_left Finset.mem_insert_of_mem)))
  have hlose := moves_lose (view w id o) hmono
  by_cases hclient : o.client = connectionId
  · have hview : view { w with ended := insert connectionId w.ended } id o =
        { view w id o with
          lost := lost { w with ended := insert connectionId w.ended } o
          clientEnded := true } := by
      simp [view, hclient]
    rw [hview]
    exact hlose.tail (.clientEnds _)
  · have hview : view { w with ended := insert connectionId w.ended } id o =
        { view w id o with
          lost := lost { w with ended := insert connectionId w.ended } o } := by
      simp [view, hclient]
    rw [hview]
    exact hlose

omit h in
/-- A lock section of another party refines the protocols. -/
theorem Refines.call (h : Coherent w) {op : Op} {extra : List Goodbye}
    (hcallable : w.callable op = true) (honce : (created (w.calls ++ [op])).Nodup)
    (hextra : extra = handedOut w.table op ∨ extra = [] ∧ w.shuttingDown = true) :
    Refines w (callWith w op extra) := by
  have hop := relayCall_of_callable hcallable
  refine .ofSame (h.call hcallable honce (hextra.imp_right And.left)) rfl ?_
  exact fun id o => call_moves h hop honce hextra

/-- The beginning of the shutdown loses every module. -/
theorem Refines.shutdown (honce : (created (w.calls ++ [.beginDaemonDrain])).Nodup) :
    Refines w { w.perform .beginDaemonDrain with shuttingDown := true } := by
  have hcall := @Refines.call w h .beginDaemonDrain _ rfl honce (.inl rfl)
  refine .ofSame { hcall.coherent with } rfl ?_
  intro id o ho
  have hmoves := @call_moves id .beginDaemonDrain w _ o h rfl honce (.inl rfl) ho
  have hview : view { w.perform .beginDaemonDrain with shuttingDown := true } id o =
      { view (w.perform .beginDaemonDrain) id o with lost := true } := by
    simp [view, lost]
  rw [hview]
  exact hmoves.trans (.single (.lose _))

/-- Marking refines the protocols. -/
theorem Refines.mark (ho : w.opens.get id = some o) (hsound : Sound (view w id o))
    (hphase : o.phase = .sent)
    (honce : (created (w.calls ++ [.markRouteBindRelayEnqueued o.key.1 o.key.2])).Nodup) :
    Refines w ((callWith w (.markRouteBindRelayEnqueued o.key.1 o.key.2)
      (markGoodbyes w o)).setPhase id o .waiting) := by
  have hconcerns := concerns_mark ho
  refine .ofPhase (coherent_setPhase (hconcerns.coherent h honce nofun) ho .waiting) ho rfl
    (mark_moves h ho hsound hphase honce) ?_
  intro id' o' ho' hne
  exact hconcerns.moves h honce ho' fun hkey => hne (h.same ho' ho (.inl hkey)).1

/-- Learning of an acceptance refines the protocols. -/
theorem Refines.accept (ho : w.opens.get id = some o) (hphase : o.phase = .waiting)
    (hfound : w.outcomeOf id = some .accepted) : Refines w (w.finish id o []) := by
  refine .ofPhase (coherent_finish h ho) ho rfl ?_ ?_
  · rw [view_finish]
    simp only [ite_self, append_nil]
    exact .single (.accept (view w id o) hphase (outcomeOf_mem hfound))
  · intro id' o' ho' hne
    rw [view_finish_other hne]
    exact .refl

/-- A route.open refines the protocols, reserved or refused. -/
theorem Refines.opened (hsender : request.sender = w.nextSender)
    (hok : (beginRouteBindRelayInner w.table request).result = .ok relay)
    (honce : (created (w.calls ++ [.beginRouteBindRelay request])).Nodup) :
    Refines w (opened w request relay) := by
  refine ⟨coherent_opened h hsender hok honce, ?_, ?_⟩
  · intro id o ho
    exact ⟨o, (opened_get h id o).mpr (.inr ho), rfl, rfl, opened_moves h hok honce ho⟩
  intro id o ho
  rcases (opened_get h id o).mp ho with ⟨rfl, rfl⟩ | hold
  · exact .inr (opened_fresh h hok)
  · exact .inl ⟨o, hold⟩

end

/-- Every open keeps the promises of its protocol. -/
def OpensSound (w : World) : Prop := ∀ id o, w.opens.get id = some o → Sound (view w id o)

/-- Every step of the daemon refines the protocols of its opens. -/
theorem Stepped.refines (hstep : Stepped w w') (h : Coherent w) (hsound : OpensSound w)
    (honce : EndpointsOnce w') : Refines w w' := by
  cases hstep with
  | same => exact .refl h
  | ticked => exact .ofSame { h with } rfl fun id o ho => .refl
  | refused request err herr =>
    have hconcerns := concerns_beginRefused (refused_of_error h.inv herr)
    exact .ofSame (hconcerns.coherent h honce nofun) rfl fun id o ho =>
      hconcerns.moves h honce ho not_false
  | opened request relay hsender hok => exact .opened h hsender hok honce
  | gaveUp id o codes ho hwhy =>
    exact .release h ho honce hwhy.phase (hwhy.farewell (hsound id o ho))
  | accepted id o ho hphase hfound => exact .accept h ho hphase hfound
  | queuedBind id o ho hphase => exact .queueBind h ho hphase
  | marked id o ho hphase => exact .mark h ho (hsound id o ho) hphase honce
  | polled id o ho hphase hpending =>
    refine .look h ho (.poll _ hphase ?_)
    rw [contains_eq, Option.isSome_iff_ne_none] at hpending
    exact mt Option.map_eq_none_iff.mp hpending
  | rested id o ho hphase => exact .look h ho (.rest _ hphase)
  | replied connectionId endpoint corr outcome reads hrole hlive hbind hnow =>
    refine .ofSame (coherent_complete h hrole hlive honce) rfl ?_
    exact fun id o => complete_moves h hrole hlive hbind hnow honce
  | called op extra hcallable hextra => exact .call h hcallable honce hextra
  | shutdown => exact .shutdown h honce
  | deregistered connectionId => exact .deregister h connectionId
  | sessionOver connectionId hnone => exact .sessionOver h hnone
  | ended connectionId => exact .endConnection h connectionId
  | goodbye index goodbye state hget => exact .setGoodbye h hget state

/-- A step adds at most one lock section. -/
theorem Stepped.calls (hstep : Stepped w w') : ∃ more, w'.calls = w.calls ++ more := by
  have hsame : ∃ more, w.calls = w.calls ++ more := ⟨[], by simp⟩
  cases hstep <;> first | exact hsame | exact ⟨_, rfl⟩

/-- The last event of a run is one step. -/
theorem run_snoc_step : World.run (events ++ [event]) = (World.run events).step event := by
  simp only [World.run, foldl_append, foldl_cons, foldl_nil]

/-- What a run created stays created. -/
theorem created_step {w : World} {event : Event} :
    ∃ more, created (w.step event).calls = created w.calls ++ more := by
  obtain ⟨more, hmore⟩ := (stepped w event).calls
  rw [hmore]
  exact ⟨_, collectFrom_append⟩

/-- A run whose endpoints are created once creates them once so far. -/
theorem endpointsOnce_before (h : EndpointsOnce (w.step event)) : EndpointsOnce w := by
  obtain ⟨more, hmore⟩ := @created_step w event
  rw [EndpointsOnce, hmore] at h
  exact (nodup_append.mp h).1

/-- Every open got to where it is by moves of its protocol, from where an open begins. -/
def FollowsProtocol (w : World) : Prop :=
  ∀ id o, w.opens.get id = some o → ∃ begun, Fresh begun ∧ Moves begun (view w id o)

/-- Opens that follow the protocol keep its promises. -/
theorem FollowsProtocol.sound (h : FollowsProtocol w) : OpensSound w := by
  intro id o ho
  obtain ⟨begun, hbegun, hmoves⟩ := h id o ho
  exact hmoves.sound hbegun.sound

/-- In every run the world is coherent and every open follows its protocol. -/
theorem run_follows (events : List Event) (honce : EndpointsOnce (World.run events)) :
    Coherent (World.run events) ∧ FollowsProtocol (World.run events) := by
  induction events using List.reverseRecOn with
  | nil =>
    refine ⟨coherent_initial, ?_⟩
    nofun
  | append_singleton events event ih =>
    rw [run_snoc_step] at honce ⊢
    obtain ⟨hcoherent, hfollows⟩ := ih (endpointsOnce_before honce)
    have hrefines := (stepped _ event).refines hcoherent hfollows.sound honce
    refine ⟨hrefines.coherent, ?_⟩
    intro id o' ho'
    rcases hrefines.new id o' ho' with ⟨o, ho⟩ | hfresh
    · obtain ⟨begun, hbegun, hmoves⟩ := hfollows id o ho
      obtain ⟨o'', ho'', -, -, hmoves'⟩ := hrefines.old id o ho
      cases ho'.symm.trans ho''
      exact ⟨begun, hbegun, hmoves.trans hmoves'⟩
    · exact ⟨_, hfresh, .refl⟩

/-- So every open keeps its promises. -/
theorem run_sound (events : List Event) (honce : EndpointsOnce (World.run events)) :
    Coherent (World.run events) ∧ OpensSound (World.run events) :=
  (run_follows events honce).imp_right FollowsProtocol.sound

/-- An open of an earlier state is still there later, some moves on. -/
theorem run_moves (honce : EndpointsOnce (World.run (earlier ++ later))) :
    ∀ id o, (World.run earlier).opens.get id = some o →
      ∃ o', (World.run (earlier ++ later)).opens.get id = some o' ∧ o'.relay = o.relay ∧
        Moves (view (World.run earlier) id o) (view (World.run (earlier ++ later)) id o') := by
  induction later using List.reverseRecOn with
  | nil =>
    intro id o ho
    rw [append_nil]
    exact ⟨o, ho, rfl, .refl⟩
  | append_singleton later event ih =>
    intro id o ho
    rw [← append_assoc, run_snoc_step] at honce ⊢
    have hbefore := endpointsOnce_before honce
    obtain ⟨o₁, ho₁, hrelay₁, hmoves₁⟩ := ih hbefore id o ho
    obtain ⟨hcoherent, hsound⟩ := run_sound (earlier ++ later) hbefore
    obtain ⟨o₂, ho₂, -, hrelay₂, hmoves₂⟩ :=
      ((stepped _ event).refines hcoherent hsound honce).old id o₁ ho₁
    exact ⟨o₂, ho₂, hrelay₂.trans hrelay₁, hmoves₁.trans hmoves₂⟩

/-- So does every beginning of it. -/
theorem endpointsOnce_take (h : EndpointsOnce (World.run (earlier ++ later))) :
    EndpointsOnce (World.run earlier) := by
  induction later using List.reverseRecOn with
  | nil => rwa [append_nil] at h
  | append_singleton later event ih =>
    rw [← append_assoc, run_snoc_step] at h
    exact ih (endpointsOnce_before h)

/-- A module registers, and a route.open queues its bind and waits. -/
def queuedOpen : List Event :=
  [.call (.registerModuleConnection ⟨1, "aft", 1, .serial, ⟨1⟩, true⟩),
    .openRoute ⟨2, ⟨2⟩, 1, 7, "aft", .direct, none, none, 100, false, 0⟩, .queueBind 0, .mark 0]

end Subconscious.RelayRefinement
