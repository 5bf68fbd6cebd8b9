import Subconscious.RelayCoherence

/-!
# The steps of an open and of its module

The open's own steps, the module's reply and the reservation of a new open:
each keeps the world coherent, is a move of the open it concerns, and is
nothing to the other opens.
-/

namespace Subconscious.RelaySteps

open HashMaps HashMap Protocol ForwardingState ForwardingOperations ForwardingRelays ForwardingRuns
open List
open ForwardingInvariant ForwardingConsistency ForwardingSteps ForwardingEndings ForwardingHandles
open ForwardingRegistry RouteOpenProtocol RelayWorld RelayCoherence
open ForwardingFrames hiding published

variable {id : SenderId} (inner : ForwardingInner)

/-- A new phase of one handler keeps the world coherent. -/
theorem coherent_setPhase (h : Coherent w)
    (ho : w.opens.get id = some o) (phase : Phase) : Coherent (w.setPhase id o phase) := by
  have hback : ∀ id' o', (w.setPhase id o phase).opens.get id' = some o' →
      ∃ o₀ phase', w.opens.get id' = some o₀ ∧ o' = { o₀ with phase := phase' } := by
    intro id' o' ho'
    rcases of_get_insert ho' with ⟨heq, rfl⟩ | ⟨-, ho'⟩
    · exact ⟨o, phase, heq ▸ ho, rfl⟩
    · exact ⟨o', o'.phase, ho', rfl⟩
  have hforth : ∀ id' o₀, w.opens.get id' = some o₀ → ∃ phase',
      (w.setPhase id o phase).opens.get id' = some { o₀ with phase := phase' } := by
    intro id' o₀ ho₀
    simp only [World.setPhase, get_insert]
    split
    case isTrue heq =>
      rw [heq, ho] at ho₀
      cases ho₀
      exact ⟨_, rfl⟩
    case isFalse => exact ⟨o₀.phase, ho₀⟩
  constructor
  case table_eq => exact h.table_eq
  case handles => exact h.handles
  case known =>
    intro id' o' ho'
    obtain ⟨o₀, _, ho₀, rfl⟩ := hback id' o' ho'
    exact h.known id' o₀ ho₀
  case corr_below =>
    intro id' o' ho'
    obtain ⟨o₀, _, ho₀, rfl⟩ := hback id' o' ho'
    exact h.corr_below id' o₀ ho₀
  case apart =>
    intro id₁ o₁ id₂ o₂ ho₁ ho₂ hsame
    obtain ⟨p₁, _, hp₁, rfl⟩ := hback id₁ o₁ ho₁
    obtain ⟨p₂, _, hp₂, rfl⟩ := hback id₂ o₂ ho₂
    exact h.apart id₁ p₁ id₂ p₂ hp₁ hp₂ hsame
  case pending =>
    intro key entry hp
    obtain ⟨o₀, ho₀, hrest⟩ := h.pending key entry hp
    obtain ⟨_, ho'⟩ := hforth _ o₀ ho₀
    exact ⟨_, ho', hrest⟩
  case slotted => exact h.slotted
  case released =>
    intro key hkey
    obtain ⟨id', o₀, ho₀, hrest⟩ := h.released key hkey
    obtain ⟨_, ho'⟩ := hforth _ o₀ ho₀
    exact ⟨id', _, ho', hrest⟩
  case settled => exact h.settled
  case replies => exact h.replies
  case answers => exact h.answers
  case goodbyes =>
    intro goodbye hgoodbye
    obtain ⟨id', o₀, ho₀, hrest⟩ := h.goodbyes goodbye hgoodbye
    obtain ⟨_, ho'⟩ := hforth _ o₀ ho₀
    exact ⟨id', _, ho', hrest⟩
  case queued =>
    intro handle corr hbind
    obtain ⟨id', o₀, ho₀, hrest⟩ := h.queued handle corr hbind
    obtain ⟨_, ho'⟩ := hforth _ o₀ ho₀
    exact ⟨id', _, ho', hrest⟩

/-- A returning handler keeps the world coherent. -/
theorem coherent_finish (h : Coherent w) (ho : w.opens.get id = some o) :
    Coherent (w.finish id o answers) := by
  have hphase := coherent_setPhase h ho .finished
  refine { hphase with answers := forall_mem_append.mpr ⟨h.answers, ?_⟩ }
  split
  case isTrue => nofun
  case isFalse => exact forall_mem_map.mpr fun _ _ => (h.known id o ho).1

/-- What a returning handler changes of its own picture. -/
theorem view_finish :
    view (w.finish id o answers) id { o with phase := .finished } =
      { view w id o with
        phase := .finished
        answers := (view w id o).answers ++ if o.client ∈ w.ended then [] else answers } := by
  have hanswers : ((if o.client ∈ w.ended then [] else answers.map fun a => (id, a)).filter
      fun entry => entry.1 = id).map (·.2) = if o.client ∈ w.ended then [] else answers := by
    split
    case isTrue => rfl
    case isFalse => simp [filter_map, Function.comp_def]
  simp only [view, World.finish, World.setPhase, filter_append, map_append, hanswers]
  rfl

/-- The other opens do not see a handler return. -/
theorem view_finish_other (hne : id' ≠ id) (o o' : RouteOpen) :
    view (w.finish id o answers) id' o' = view w id' o' := by
  have hanswers : ((if o.client ∈ w.ended then [] else answers.map fun a => (id, a)).filter
      fun entry => entry.1 = id') = [] := by
    split
    case isTrue => rfl
    case isFalse => simp [filter_map, Function.comp_def, Ne.symm hne]
  simp only [view, World.finish, World.setPhase, filter_append, hanswers, append_nil]
  rfl

/-- A relay is taken away and answered, and its GOODBYE is given out where it is due. -/
structure Taken (inner : ForwardingInner) (op : Op) (key : ControlKey)
    (entry : PendingRouteBindRelayEntry) (answer : RouteBindRelayOutcome) (due : Bool) : Prop where
  found : inner.pendingRelays.get key = some entry
  pending : (op.apply inner).pendingRelays = inner.pendingRelays.remove key
  released : (op.apply inner).relaysReleasedBeforeEnqueue = inner.relaysReleasedBeforeEnqueue
  settled : settlements inner op = [(entry.sender, answer)]
  targets : abandoned inner op =
    if due then (abandonedRouteTarget inner entry.reservation).toList else []

/-- The ways an abort finds its relay. -/
inductive Aborted (inner : ForwardingInner) (key : ControlKey) (outcome : RouteBindRelayOutcome) :
    Prop where
  | absent (hp : inner.pendingRelays.get key = none)
      (hpending : ((Op.abortPendingRelay key.1 key.2 outcome).apply inner).pendingRelays =
        inner.pendingRelays)
      (hreleased : ((Op.abortPendingRelay key.1 key.2 outcome).apply
        inner).relaysReleasedBeforeEnqueue = inner.relaysReleasedBeforeEnqueue.erase key)
      (hsettled : settlements inner (.abortPendingRelay key.1 key.2 outcome) = [])
      (htargets : abandoned inner (.abortPendingRelay key.1 key.2 outcome) = [])
  | taken (entry : PendingRouteBindRelayEntry)
      (htaken : Taken inner (.abortPendingRelay key.1 key.2 outcome) key entry outcome
        entry.relayEnqueued)

/-- Every abort is one of these. -/
theorem aborted (key : ControlKey) : Aborted inner key outcome := by
  cases hp : inner.pendingRelays.get key with
  | none =>
    refine .absent hp ?_ ?_ ?_ ?_ <;>
      simp only [Op.apply, abortPendingRelay, settlements, abandoned, hp] <;> rfl
  | some entry =>
    have htarget := abandonedRouteTarget_relaysOnly (dropRelay_relaysOnly inner key entry)
      entry.reservation
    refine .taken entry ⟨hp, ?_, ?_, ?_, ?_⟩
    · simp only [Op.apply, abortPendingRelay, hp]
      rfl
    · simp only [Op.apply, abortPendingRelay, hp]
      rfl
    · simp only [settlements, abortPendingRelay, hp]
      rfl
    · simp only [abandoned, abortPendingRelay, hp, htarget]
      split <;> rfl

/-- The open of a relay that is taken saw it pending. -/
theorem Taken.mark (htaken : Taken w.table op key entry answer due) (id : SenderId)
    (hkey : key = o.key) : (view w id o).mark = some entry.relayEnqueued := by
  simp [view, ← hkey, htaken.found]

section

variable (htaken : Taken w.table op key entry answer due) (h : Coherent w)
include htaken h

/-- A relay that is taken concerns the open of its key. -/
theorem Taken.concerns : Concerns w op (handedOut w.table op) (· = key) := by
  refine .of_key (.inl htaken.released) ?_ ?_ ?_ ?_
  · intro goodbye hgoodbye
    rw [handedOut, htaken.targets] at hgoodbye
    obtain ⟨target, hmem, rfl⟩ := mem_map.mp hgoodbye
    split at hmem
    case isTrue =>
      refine h.meant_of_pending htaken.found ?_ (Option.mem_toList.mp hmem)
      rfl
    case isFalse => cases hmem
  · intro other hne
    rw [htaken.pending, get_remove, if_neg hne]
  · intro entry' hp'
    rw [htaken.pending, get_remove, if_pos rfl] at hp'
    cases hp'
  · intro answer' hanswer
    rw [htaken.settled, mem_singleton] at hanswer
    exact ⟨entry, htaken.found, by rw [hanswer]⟩

variable (ho : w.opens.get id = some o) (hkey : key = o.key)
include ho hkey

/-- How many GOODBYEs are meant for the open of a relay that is taken. -/
theorem Taken.goodbyes :
    ((handedOut w.table op).map Goodbye.handle).count (some o.allocation.moduleHandle) =
      owed due (abandonedRouteTarget w.table entry.reservation).isNone := by
  have hhandle := (h.handle_iff ho htaken.found).mpr hkey
  rw [handedOut, htaken.targets]
  cases due with
  | false => simp [owed]
  | true =>
    cases htarget : abandonedRouteTarget w.table entry.reservation with
    | none => simp [owed]
    | some =>
      have hmeant := handle_of_abandoned h.inv htarget .held
      simp [hmeant, hhandle, owed]

/-- What the open of a relay that is taken sees of it. -/
theorem Taken.view_callWith :
    view (callWith w op (handedOut w.table op)) id o =
      { view w id o with
        mark := none
        outcomes := (view w id o).outcomes ++ [(answer, w.now)]
        goodbyes := (view w id o).goodbyes +
          owed due (abandonedRouteTarget w.table entry.reservation).isNone
        lost := lost (callWith w op (handedOut w.table op)) o } := by
  have hsender := (h.sender_iff ho htaken.found).mpr hkey
  rw [RelayCoherence.view_callWith, htaken.pending, htaken.released, htaken.settled,
    htaken.goodbyes h ho hkey, hkey, get_remove, if_pos rfl]
  simp only [hsender, filter_cons, decide_true, if_true, filter_nil]
  rfl

/-- A module that cannot be found any more is lost. -/
theorem Taken.lost (honce : (created (w.calls ++ [op])).Nodup)
    (hnone : (abandonedRouteTarget w.table entry.reservation).isNone = true) :
    lost (callWith w op (handedOut w.table op)) o = true :=
  lost_callWith h _ honce ho
    (lost_of_no_target h (hkey ▸ htaken.found) (Option.isNone_iff_eq_none.mp hnone))

end

/-- An abort concerns the open of its key. -/
theorem concerns_abort (h : Coherent w) (key : ControlKey) (outcome : RouteBindRelayOutcome) :
    Concerns w (.abortPendingRelay key.1 key.2 outcome)
      (handedOut w.table (.abortPendingRelay key.1 key.2 outcome)) (· = key) := by
  cases aborted w.table key with
  | absent hp hpending hreleased hsettled htargets =>
    exact .of_same (.inr hreleased) (by simp [handedOut, htargets]) hpending hsettled
  | taken entry htaken => exact htaken.concerns h

/-- Giving up is a move of the open that gives up. -/
theorem release_moves (h : Coherent w) (ho : w.opens.get id = some o)
    (honce : EndpointsOnce (w.releaseAndFinish id o answers))
    (hphase : o.phase = .sending ∨ o.phase.awaits)
    (hanswers : Farewell (view w id o) (if o.client ∈ w.ended then [] else answers)) :
    Moves (view w id o)
      (view (w.releaseAndFinish id o answers) id { o with phase := .finished }) := by
  set op : Op := .abortPendingRelay o.key.1 o.key.2 (.moduleGone "route.open handler canceled")
    with hop
  set said := if o.client ∈ w.ended then [] else answers with hsaid
  have hlose := moves_lose (view w id o) (lost_callWith h (handedOut w.table op) honce ho)
  have hview : view (w.releaseAndFinish id o answers) id { o with phase := .finished } =
      { view (callWith w op (handedOut w.table op)) id o with
        phase := .finished
        answers := (view w id o).answers ++ said } :=
    view_finish
  rw [hview]
  cases aborted w.table o.key with
  | absent hp hpending hreleased hsettled htargets =>
    have hmark : (view w id o).mark = none := by simp [view, hp]
    rw [view_callWith, hpending, hreleased, hsettled, handedOut, htargets]
    simp only [Finset.mem_erase, ne_eq, not_true_eq_false, false_and, decide_false,
      filter_nil, map_nil, append_nil, count_nil, Nat.add_zero]
    exact hlose.tail (.stop { view w id o with lost := _ } _ hmark hphase (hanswers.lose _))
  | taken entry htaken =>
    rw [htaken.view_callWith h ho rfl]
    exact hlose.tail (.abort { view w id o with lost := _ } entry.relayEnqueued _
      (.moduleGone "route.open handler canceled") w.now _ (htaken.mark id rfl) hphase (by simp)
      (htaken.lost h ho rfl honce) (hanswers.lose _))

/-- The ways a mark finds its relay. -/
inductive Marked (inner : ForwardingInner) (key : ControlKey) : Prop where
  | pending (entry : PendingRouteBindRelayEntry) (hp : inner.pendingRelays.get key = some entry)
      (hpending : ((Op.markRouteBindRelayEnqueued key.1 key.2).apply inner).pendingRelays =
        inner.pendingRelays.modify key fun entry => { entry with relayEnqueued := true })
      (hreleased : ((Op.markRouteBindRelayEnqueued key.1 key.2).apply
        inner).relaysReleasedBeforeEnqueue = inner.relaysReleasedBeforeEnqueue)
      (hresult : (markRouteBindRelayEnqueued inner key.1 key.2).result = .ok .marked)
  | released (hp : inner.pendingRelays.get key = none)
      (hmem : key ∈ inner.relaysReleasedBeforeEnqueue)
      (hpending : ((Op.markRouteBindRelayEnqueued key.1 key.2).apply inner).pendingRelays =
        inner.pendingRelays)
      (hreleased : ((Op.markRouteBindRelayEnqueued key.1 key.2).apply
        inner).relaysReleasedBeforeEnqueue = inner.relaysReleasedBeforeEnqueue.erase key)
      (hresult : (markRouteBindRelayEnqueued inner key.1 key.2).result = .ok .releasedWithoutReply)
  | settled (hp : inner.pendingRelays.get key = none)
      (hmem : key ∉ inner.relaysReleasedBeforeEnqueue)
      (hsame : (Op.markRouteBindRelayEnqueued key.1 key.2).apply inner = inner)
      (hresult : (markRouteBindRelayEnqueued inner key.1 key.2).result = .ok .settledByReply)

/-- Every mark is one of these. -/
theorem marked (key : ControlKey) : Marked inner key := by
  cases hp : inner.pendingRelays.get key with
  | some entry =>
    have hcontains : inner.pendingRelays.contains key = true := by
      rw [contains_eq, hp]
      rfl
    refine .pending entry hp ?_ ?_ ?_ <;>
      simp only [Op.apply, markRouteBindRelayEnqueued, hcontains, if_true]
  | none =>
    have hcontains : inner.pendingRelays.contains key = false := by
      rw [contains_eq, hp]
      rfl
    by_cases hmem : key ∈ inner.relaysReleasedBeforeEnqueue
    · refine .released hp hmem ?_ ?_ ?_ <;>
        simp only [Op.apply, markRouteBindRelayEnqueued, hcontains, Bool.false_eq_true, if_false,
          hmem, if_true]
    · refine .settled hp hmem ?_ ?_ <;>
        simp only [Op.apply, markRouteBindRelayEnqueued, hcontains, Bool.false_eq_true, if_false,
          hmem]

/-- The GOODBYE an open finds it has to send. -/
def markGoodbyes (w : World) (o : RouteOpen) : List Goodbye :=
  match (markRouteBindRelayEnqueued w.table o.relay.endpoint o.relay.corr).result with
  | .ok .releasedWithoutReply => [o.goodbye]
  | _ => []

/-- A mark owes a GOODBYE where its relay was released without a reply. -/
theorem markGoodbyes_eq
    (hresult : (markRouteBindRelayEnqueued w.table o.key.1 o.key.2).result = .ok found) :
    markGoodbyes w o = if found = .releasedWithoutReply then [o.goodbye] else [] := by
  change (match (markRouteBindRelayEnqueued w.table o.key.1 o.key.2).result with
    | .ok .releasedWithoutReply => [o.goodbye]
    | _ => []) = _
  rw [hresult]
  cases found <;> rfl

/-- An open's own GOODBYE is meant for its handle. -/
theorem goodbye_handle (o : RouteOpen) : o.goodbye.handle = some o.allocation.moduleHandle := rfl

/-- Marking concerns the open that marks. -/
theorem concerns_mark (ho : w.opens.get id = some o) :
    Concerns w (.markRouteBindRelayEnqueued o.key.1 o.key.2) (markGoodbyes w o) (· = o.key) := by
  have hmeant : ∀ goodbye ∈ markGoodbyes w o, Meant w (· = o.key) goodbye := by
    intro goodbye hgoodbye
    unfold markGoodbyes at hgoodbye
    split at hgoodbye
    · cases mem_singleton.mp hgoodbye
      exact ⟨id, o, ho, rfl, goodbye_handle o, rfl⟩
    · cases hgoodbye
  cases marked w.table o.key with
  | pending entry hp hpending hreleased =>
    refine .of_key (.inl hreleased) hmeant ?_ ?_ (by simp [settlements])
    · intro other hne
      rw [hpending, get_modify, if_neg hne]
    intro entry' hp'
    rw [hpending, get_modify, if_pos rfl] at hp'
    obtain ⟨entry₀, hp₀, rfl⟩ := Option.map_eq_some_iff.mp hp'
    exact ⟨entry₀, hp₀, rfl, rfl, rfl⟩
  | released hp hmem hpending hreleased => exact .of_same (.inr hreleased) hmeant hpending rfl
  | settled hp hmem hsame => exact .of_same (.inl (by rw [hsame])) hmeant (by rw [hsame]) rfl

/-- Marking is a move of the open that marks. -/
theorem mark_moves (h : Coherent w)
    (ho : w.opens.get id = some o) (hsound : Sound (view w id o)) (hphase : o.phase = .sent)
    (honce : (created (w.calls ++ [.markRouteBindRelayEnqueued o.key.1 o.key.2])).Nodup) :
    Moves (view w id o)
      { view (callWith w (.markRouteBindRelayEnqueued o.key.1 o.key.2) (markGoodbyes w o)) id o with
        phase := .waiting } := by
  set op : Op := .markRouteBindRelayEnqueued o.key.1 o.key.2 with hop
  have hlose := moves_lose (view w id o) (lost_callWith h (markGoodbyes w o) honce ho)
  have hsettled : settlements w.table op = [] := rfl
  rw [view_callWith, hsettled]
  simp only [filter_nil, map_nil, append_nil]
  cases marked w.table o.key with
  | pending entry hp hpending hreleased hresult =>
    have hmark : (view w id o).mark = some entry.relayEnqueued := by simp [view, hp]
    have hunmarked : entry.relayEnqueued = false := by
      rw [(hsound.mark_phase _ hmark).2]
      exact congrArg Phase.awaits hphase
    have hgoodbyes : markGoodbyes w o = [] := markGoodbyes_eq hresult
    rw [hpending, hreleased, hgoodbyes, get_modify, if_pos rfl, hp]
    rw [hunmarked] at hmark
    rw [hgoodbyes] at hlose
    exact hlose.tail (.markPending { view w id o with lost := _ } hphase hmark)
  | released hp hmem hpending hreleased hresult =>
    have hmark : (view w id o).mark = none := by simp [view, hp]
    have hgoodbyes : markGoodbyes w o = [o.goodbye] := markGoodbyes_eq hresult
    rw [hpending, hreleased, hgoodbyes]
    rw [hgoodbyes] at hlose
    simp only [Finset.mem_erase, ne_eq, not_true_eq_false, false_and, decide_false, map_cons,
      map_nil, goodbye_handle, count_singleton_self]
    exact hlose.tail (.markReleased { view w id o with lost := _ } hphase hmark
      (decide_eq_true hmem))
  | settled hp hmem hsame hresult =>
    have hmark : (view w id o).mark = none := by simp [view, hp]
    have hgoodbyes : markGoodbyes w o = [] := markGoodbyes_eq hresult
    rw [hsame, hgoodbyes]
    rw [hgoodbyes] at hlose
    exact hlose.tail (.markSettled { view w id o with lost := _ } hphase hmark
      (decide_eq_false hmem))

/-- The ways a reply on a connection the registry still has can end. -/
inductive Replied (inner : ForwardingInner) (connectionId : ConnectionId) (corr : UInt64)
    (outcome : RouteBindRelayOutcome) (reads : CompletionReads) : Prop where
  | unknown (hp : repliedRelay inner connectionId corr = none)
      (hsame : (Op.completePendingRelay connectionId corr outcome reads).apply inner = inner)
      (hsettled : settlements inner (.completePendingRelay connectionId corr outcome reads) = [])
      (htargets : abandoned inner (.completePendingRelay connectionId corr outcome reads) = [])
      (hpublished : published inner connectionId corr outcome reads = [])
      (hresult : ∃ completion,
        (completePendingRelay inner connectionId corr outcome reads).result = .ok completion)
  /-- The relay is ended by a refusal, and only a bind the module accepted is
  taken back. -/
  | refused (endpoint : ModuleEndpointId) (entry : PendingRouteBindRelayEntry)
      (answer : RouteBindRelayOutcome)
      (hrole : inner.endpointByConnection.get connectionId = some endpoint)
      (hanswer : answer ≠ .accepted)
      (htaken : Taken inner (.completePendingRelay connectionId corr outcome reads) (endpoint, corr)
        entry answer (decide (outcome = .accepted)))
      (hshrinks : Shrinks inner
        ((Op.completePendingRelay connectionId corr outcome reads).apply inner))
      (hpublished : published inner connectionId corr outcome reads = [])
      (hresult : ∃ completion,
        (completePendingRelay inner connectionId corr outcome reads).result = .ok completion)
  /-- The route is published and its response queued. -/
  | opened (endpoint : ModuleEndpointId) (entry : PendingRouteBindRelayEntry) (moduleId : String)
      (module : ModuleConnection) (frame : Frame)
      (hrole : inner.endpointByConnection.get connectionId = some endpoint)
      (htaken : Taken inner (.completePendingRelay connectionId corr outcome reads) (endpoint, corr)
        entry .accepted false)
      (hpublishable : Publishable inner (endpoint, corr) entry outcome reads moduleId module)
      (hframe : publishedFrame entry = .ok frame)
      (htable : (Op.completePendingRelay connectionId corr outcome reads).apply inner =
        installBinding (takeRelay inner (endpoint, corr) entry)
          (committedBinding entry moduleId module reads))
      (hpublished : published inner connectionId corr outcome reads = [frame])
      (hresult : ∃ completion,
        (completePendingRelay inner connectionId corr outcome reads).result = .ok completion)

/-- The lock section of such a reply ends without an error. -/
theorem Replied.result (h : Replied inner connectionId corr outcome reads) :
    ∃ completion,
      (completePendingRelay inner connectionId corr outcome reads).result = .ok completion := by
  cases h <;> assumption

/-- A reply that publishes ends in an open route, or in none when no writer is left. -/
theorem replied_published {inner : ForwardingInner}
    (hrole : inner.endpointByConnection.get connectionId = some endpoint)
    (hp : inner.pendingRelays.get (endpoint, corr) = some entry)
    (hpublishable : Publishable inner (endpoint, corr) entry outcome reads moduleId module)
    (hframe : publishedFrame entry = .ok frame)
    (hcompleted : completePendingRelay inner connectionId corr outcome reads =
      (let committed := publishRoute (takeRelay inner (endpoint, corr) entry) entry
        (committedBinding entry moduleId module reads) frame reads
      ⟨committed.inner, committed.result.map fun target => ⟨true, target⟩, committed.effects⟩)) :
    Replied inner connectionId corr outcome reads := by
  have htarget : abandonedRouteTarget (installBinding (takeRelay inner (endpoint, corr) entry)
      (committedBinding entry moduleId module reads)) entry.reservation =
      abandonedRouteTarget inner entry.reservation :=
    abandonedRouteTarget_congr rfl rfl rfl rfl
  cases hwriter : reads.writerClosed with
  | true =>
    rw [publishRoute, if_pos hwriter] at hcompleted
    refine .refused endpoint entry (.moduleGone "client egress closed during route publication")
      hrole (by simp) ⟨hp, ?_, ?_, ?_, ?_⟩ ?_ ?_ ?_
    · simp only [Op.apply, hcompleted]
      rfl
    · simp only [Op.apply, hcompleted]
      rfl
    · simp only [settlements, hcompleted]
      cases (committedBinding entry moduleId module reads).scope <;> rfl
    · rw [if_pos (decide_eq_true hpublishable.accepted)]
      simp only [abandoned, hcompleted, htarget]
      rfl
    · simp only [Op.apply, hcompleted]
      exact retractBinding_shrinks inner _ entry
    · simp only [published, hwriter, if_true]
    · exact ⟨_, by rw [hcompleted]; rfl⟩
  | false =>
    rw [publishRoute, if_neg (by simp [hwriter])] at hcompleted
    refine .opened endpoint entry moduleId module frame hrole ⟨hp, ?_, ?_, ?_, ?_⟩ hpublishable
      hframe ?_ ?_ ?_
    · simp only [Op.apply, hcompleted]
      rfl
    · simp only [Op.apply, hcompleted]
      rfl
    · simp only [settlements, hcompleted]
      cases (committedBinding entry moduleId module reads).scope <;> rfl
    · simp only [abandoned, hcompleted]
      rfl
    · simp only [Op.apply, hcompleted]
    · simp only [published, hwriter, hcompleted]
      cases (committedBinding entry moduleId module reads).scope <;> rfl
    · exact ⟨_, by rw [hcompleted]; rfl⟩

/-- Every reply on a connection whose relays are on slotted endpoints. -/
theorem replied {inner : ForwardingInner} (h : TableInv inner) (connectionId : ConnectionId)
    (corr : UInt64) (outcome : RouteBindRelayOutcome) (reads : CompletionReads)
    (hslotted : ∀ endpoint entry, inner.endpointByConnection.get connectionId = some endpoint →
      inner.pendingRelays.get (endpoint, corr) = some entry → Slotted inner endpoint) :
    Replied inner connectionId corr outcome reads := by
  rcases completePendingRelay_cases h with
    ⟨heq, hnone⟩ | ⟨endpoint, entry, hrole, hp, hcompleted⟩
  · refine .unknown ?_ ?_ ?_ ?_ ?_ ⟨_, by rw [heq]⟩
    · cases hrole : inner.endpointByConnection.get connectionId with
      | none => simp [repliedRelay, hrole]
      | some endpoint => simp [repliedRelay, hrole, hnone endpoint hrole]
    · simp only [Op.apply, heq]
    · simp only [settlements, heq, filterMap_nil]
    · simp only [abandoned, heq]
      rfl
    · simp only [published, heq, filterMap_nil, ite_self]
  · generalize hstep : completePendingRelay inner connectionId corr outcome reads = step
      at hcompleted
    cases hcompleted with
    | refused answer hanswer =>
      refine .refused endpoint entry answer hrole hanswer ⟨hp, ?_, ?_, ?_, ?_⟩ ?_ ?_
        ⟨_, by rw [hstep]⟩
      · simp only [Op.apply, hstep]
        rfl
      · simp only [Op.apply, hstep]
        rfl
      · simp only [settlements, hstep]
        rfl
      · simp only [abandoned, hstep, decide_eq_true_eq]
        split <;> rfl
      · simp only [Op.apply, hstep]
        exact dropRelay_shrinks inner _ entry
      · simp only [published, hstep, filterMap_cons, filterMap_nil, ite_self]
    | stale haccepted hcurrent hreplaced =>
      rcases hslotted endpoint entry hrole hp with ⟨moduleId, module, hactive, hendpoint⟩ |
        ⟨module, hsuperseded, -⟩
      · exact absurd hendpoint (hreplaced moduleId module hactive)
      · rw [hcurrent] at hsuperseded
        cases hsuperseded
    | published moduleId module frame hpublishable hframe =>
      exact replied_published hrole hp hpublishable hframe hstep

/-- A reply without an error of its lock section. -/
theorem complete_eq
    (hresult : ∃ completion,
      (completePendingRelay w.table connectionId corr outcome reads).result = .ok completion) :
    w.complete connectionId corr outcome reads =
      { callWith w (.completePendingRelay connectionId corr outcome reads)
          (handedOut w.table (.completePendingRelay connectionId corr outcome reads)) with
        replies := w.replies ++ ((repliedRelay w.table connectionId corr).map
          (·.sender)).toList.map fun id => (id, outcome)
        answers := w.answers ++ ((repliedRelay w.table connectionId corr).map
          (·.sender)).toList.flatMap fun id =>
            (published w.table connectionId corr outcome reads).map
              fun frame => (id, .opened frame) } := by
  obtain ⟨completion, hok⟩ := hresult
  simp only [World.complete, hok]
  rfl

/-- The registry still has the connection, so its relays are on slotted endpoints. -/
theorem reply_slotted (h : Coherent w) (hlive : connectionId ∉ w.deregistered) :
    ∀ endpoint entry, w.table.endpointByConnection.get connectionId = some endpoint →
      w.table.pendingRelays.get (endpoint, corr) = some entry → Slotted w.table endpoint := by
  intro endpoint entry hrole hp
  rcases h.slotted _ _ hp with hslotted | hderegistered
  · exact hslotted
  · rw [(h.inv.endpoint_registered _ _ hrole).1] at hderegistered
    exact absurd hderegistered hlive

section

variable (h : Coherent w) (hrole : w.table.endpointByConnection.get connectionId = some endpoint)
  (hlive : connectionId ∉ w.deregistered)
include h hrole hlive

/-- A reply concerns the open of the key it names. -/
theorem concerns_complete :
    Concerns w (.completePendingRelay connectionId corr outcome reads)
      (handedOut w.table (.completePendingRelay connectionId corr outcome reads))
      (· = (endpoint, corr)) := by
  cases replied h.inv connectionId corr outcome reads (reply_slotted h hlive) with
  | unknown hp hsame hsettled htargets =>
    exact .of_same (.inl (by rw [hsame])) (by simp [handedOut, htargets]) (by rw [hsame]) hsettled
  | refused _ _ _ hrole' _ htaken | opened _ _ _ _ _ hrole' htaken =>
    rw [hrole] at hrole'
    cases hrole'
    exact htaken.concerns h

/-- A reply keeps the world coherent. -/
theorem coherent_complete (honce : EndpointsOnce (w.complete connectionId corr outcome reads)) :
    Coherent (w.complete connectionId corr outcome reads) := by
  have hsection := (concerns_complete h hrole hlive).coherent h honce nofun
  have hknown : ∀ id ∈ ((repliedRelay w.table connectionId corr).map (·.sender)).toList,
      id < w.nextSender := by
    intro id hid
    obtain ⟨entry, hentry, rfl⟩ := Option.map_eq_some_iff.mp (Option.mem_toList.mp hid)
    rw [repliedRelay, hrole] at hentry
    obtain ⟨o, ho, -⟩ := h.pending _ _ hentry
    exact (h.known _ o ho).1
  rw [complete_eq (replied h.inv _ _ _ _ (reply_slotted h hlive)).result]
  refine { hsection with
    replies := forall_mem_append.mpr ⟨h.replies, forall_mem_map.mpr hknown⟩
    answers := forall_mem_append.mpr ⟨h.answers, ?_⟩ }
  intro x hnew
  obtain ⟨id, hid, hmem⟩ := mem_flatMap.mp hnew
  obtain ⟨frame, -, rfl⟩ := mem_map.mp hmem
  exact hknown id hid

end

/-- The bind a module answers is the bind of the relay's open. -/
theorem binds_pos (h : Coherent w) (hbind : w.bindQueued key = true) (ho : w.opens.get id = some o)
    (hkey : o.key = key) : 0 < (view w id o).binds := by
  obtain ⟨frame, hframe, htest⟩ := any_eq_true.mp hbind
  cases frame with
  | goodbye => cases htest
  | routeBind handle corr =>
    obtain ⟨id', o', ho', hhandle, hcorr⟩ := h.queued handle corr hframe
    have hkey' : o'.key = key := by
      rw [← of_decide_eq_true htest, hhandle, hcorr]
      rfl
    obtain ⟨-, rfl⟩ := h.same ho' ho (.inl (hkey'.trans hkey.symm))
    apply count_pos_iff.mpr
    exact mem_filterMap.mpr ⟨_, hframe, by rw [hhandle]; rfl⟩

/-- A reply adds to the replies and answers of the open it finds. -/
theorem view_complete (hfound : repliedRelay w.table connectionId corr = some entry)
    (hpublished : published w.table connectionId corr outcome reads = frames)
    (hresult : ∃ completion,
      (completePendingRelay w.table connectionId corr outcome reads).result = .ok completion)
    (id : SenderId) :
    view (w.complete connectionId corr outcome reads) id o =
      { view (callWith w (.completePendingRelay connectionId corr outcome reads)
          (handedOut w.table (.completePendingRelay connectionId corr outcome reads))) id o with
        replies := (view w id o).replies ++ if entry.sender = id then [outcome] else []
        answers := (view w id o).answers ++
          if entry.sender = id then frames.map .opened else [] } := by
  have hreplies : ([(entry.sender, outcome)].filter fun x => x.1 = id).map (·.2) =
      if entry.sender = id then [outcome] else [] := by
    by_cases heq : entry.sender = id <;> simp [heq]
  have hanswers : ((frames.map fun frame => (entry.sender, Answer.opened frame)).filter
      fun x => x.1 = id).map (·.2) = if entry.sender = id then frames.map .opened else [] := by
    by_cases heq : entry.sender = id <;> simp [heq, filter_map, Function.comp_def]
  rw [complete_eq hresult, hfound, hpublished]
  simp only [Option.map_some, Option.toList_some, map_cons, map_nil, flatMap_cons,
    flatMap_nil, append_nil]
  simp only [view, filter_append, map_append, hreplies, hanswers]
  rfl

/-- A reply is a move of the open it finds and none of the others. -/
theorem complete_moves (h : Coherent w)
    (hrole : w.table.endpointByConnection.get connectionId = some endpoint)
    (hlive : connectionId ∉ w.deregistered) (hbind : w.bindQueued (endpoint, corr) = true)
    (hnow : reads.now = w.now) (honce : EndpointsOnce (w.complete connectionId corr outcome reads))
    (ho : w.opens.get id = some o) :
    Moves (view w id o) (view (w.complete connectionId corr outcome reads) id o) := by
  set op : Op := .completePendingRelay connectionId corr outcome reads with hop
  have honce' : (created (w.calls ++ [op])).Nodup := honce
  have hlose := moves_lose (view w id o) (lost_callWith h (handedOut w.table op) honce' ho)
  have hother : ∀ entry, w.table.pendingRelays.get (endpoint, corr) = some entry →
      entry.sender ≠ id → Moves (view w id o) (view (callWith w op (handedOut w.table op)) id o) :=
    fun entry hp hsender => (concerns_complete h hrole hlive).moves h honce' ho
      fun heq => hsender ((h.sender_iff ho hp).mpr heq.symm)
  have hfound : ∀ entry, w.table.pendingRelays.get (endpoint, corr) = some entry →
      repliedRelay w.table connectionId corr = some entry := by
    intro entry hp
    simp [repliedRelay, hrole, hp]
  cases replied h.inv connectionId corr outcome reads (reply_slotted h hlive) with
  | unknown hp hsame hsettled htargets hpublished hresult =>
    rw [complete_eq hresult, hp, hpublished, handedOut, htargets]
    simp only [Option.map_none, Option.toList_none, map_nil, flatMap_nil, append_nil]
    exact (Concerns.nothing (by rw [hsame]) (by rw [hsame]) hsettled).moves h honce' ho not_false
  | refused endpoint' entry answer hrole' hanswer htaken hshrinks hpublished hresult =>
    rw [hrole] at hrole'
    cases hrole'
    rw [view_complete (hfound entry htaken.found) hpublished hresult]
    by_cases hsender : entry.sender = id
    · have hkey := (h.sender_iff ho htaken.found).mp hsender
      rw [htaken.view_callWith h ho hkey, if_pos hsender, if_pos hsender]
      simp only [map_nil, append_nil]
      exact hlose.tail (.refuse { view w id o with lost := _ } entry.relayEnqueued _ outcome answer
        w.now (htaken.mark id hkey) (binds_pos h hbind ho hkey.symm) hanswer
        (htaken.lost h ho hkey honce'))
    · rw [if_neg hsender, if_neg hsender, append_nil, append_nil]
      exact hother entry htaken.found hsender
  | opened endpoint' entry moduleId module frame hrole' htaken hpublishable hframe htable hpublished
      hresult =>
    rw [hrole] at hrole'
    cases hrole'
    rw [view_complete (hfound entry htaken.found) hpublished hresult]
    by_cases hsender : entry.sender = id
    · have hkey := (h.sender_iff ho htaken.found).mp hsender
      have htime : w.now < (view w id o).deadline := by
        obtain ⟨o', ho', -, -, hdeadline⟩ := h.pending _ _ htaken.found
        rw [hsender, ho] at ho'
        cases ho'
        have hin := hpublishable.inTime
        rw [hnow, hdeadline] at hin
        exact hin
      have hreplies : (view w id o).replies ++ [outcome] = (view w id o).replies ++ [.accepted] := by
        rw [hpublishable.accepted]
      rw [htaken.view_callWith h ho hkey, if_pos hsender, if_pos hsender, hreplies]
      exact hlose.tail (.publish { view w id o with lost := _ } entry.relayEnqueued frame w.now
        (htaken.mark id hkey) (binds_pos h hbind ho hkey.symm) htime)
    · rw [if_neg hsender, if_neg hsender, append_nil, append_nil]
      exact hother entry htaken.found hsender

/-- A refused reservation concerns no open. -/
theorem concerns_beginRefused
    (hrefused : RefusedOnly w.table (beginRouteBindRelayInner w.table request).inner) :
    Concerns w (.beginRouteBindRelay request) [] fun _ => False :=
  .nothing (by rw [Op.apply, hrefused]) (by rw [Op.apply, hrefused]) rfl

/-- The open of a reservation. -/
def openOf (request : RelayRequest) (relay : PendingRouteBindRelay) : RouteOpen :=
  ⟨request, relay, .sending⟩

/-- The key and the handle of a reservation are new. -/
theorem reserved_new (h : Coherent w)
    (hok : (beginRouteBindRelayInner w.table request).result = .ok relay)
    (ho : w.opens.get id = some o) :
    o.key ≠ (openOf request relay).key ∧
      o.allocation.moduleHandle ≠ (openOf request relay).allocation.moduleHandle := by
  constructor
  · intro heq
    obtain ⟨module, htarget, hendpoint, -⟩ := (reserved_of_ok h.inv hok).target
    have hactive := (relayTargetLocked_ok htarget).2.1
    have hsame : o.relay.endpoint = relay.endpoint := congrArg Prod.fst heq
    have hregistered : Registered w.table o.relay.endpoint := by
      rw [hsame, hendpoint]
      exact ⟨request.moduleId, h.inv.active_registered _ _ hactive⟩
    have hbelow := h.corr_below id o ho hregistered
    rw [heq] at hbelow
    exact ((beginRouteBindRelayInner_registry w.table request).2 relay hok).1 hbelow
  · intro heq
    have hfresh : ∀ endpoint, creation? (run w.calls) (.beginRouteBindRelay request) =
        some endpoint → endpoint ∉ created w.calls := by
      nofun
    have horder := (h.handles.snoc hfresh).order
    rw [allocations_snoc, ← h.table_eq, allocation?_reserved hok] at horder
    have hlt := (pairwise_append.mp horder).2.2 _ (h.known id o ho).2 _
      (mem_singleton.mpr rfl) (congrArg Prod.fst heq)
    have hepoch : o.allocation.moduleEpoch =
        (relayAllocation request.clientConnectionId relay).moduleEpoch := congrArg Prod.snd heq
    rw [hepoch] at hlt
    exact UInt32.lt_irrefl _ hlt

/-- The world after a reservation. -/
def opened (w : World) (request : RelayRequest) (relay : PendingRouteBindRelay) : World :=
  { callWith w (.beginRouteBindRelay request) [] with
    opens := w.opens.insert w.nextSender (openOf request relay)
    nextSender := w.nextSender + 1 }

section Reservation

/-- The opens of the new world are the old ones and the new one. -/
theorem opened_get (h : Coherent w) (id : SenderId) (o : RouteOpen) :
    (opened w request relay).opens.get id = some o ↔
      id = w.nextSender ∧ o = openOf request relay ∨ w.opens.get id = some o := by
  simp only [opened, get_insert]
  by_cases heq : id = w.nextSender
  · rw [if_pos heq]
    constructor
    · intro hsome
      cases hsome
      exact .inl ⟨heq, rfl⟩
    · rintro (⟨-, rfl⟩ | hold)
      · rfl
      · exact absurd (h.known id o hold).1 (by simp [heq])
  · rw [if_neg heq]
    exact ⟨.inr, fun hor => hor.resolve_left fun hnew => heq hnew.1⟩

/-- A reservation keeps the world coherent. -/
theorem coherent_opened (h : Coherent w) (hsender : request.sender = w.nextSender)
    (hok : (beginRouteBindRelayInner w.table request).result = .ok relay)
    (honce : (created (w.calls ++ [.beginRouteBindRelay request])).Nodup) :
    Coherent (opened w request relay) := by
  have hregistry := beginRouteBindRelayInner_registry w.table request
  have hreserved := reserved_of_ok h.inv hok
  obtain ⟨module, htarget, hendpoint, -, frame, -, hinsert⟩ := hreserved.target
  have hactive := (relayTargetLocked_ok htarget).2.1
  have hget := @opened_get w request relay h
  have hold : ∀ id o, w.opens.get id = some o → (opened w request relay).opens.get id = some o :=
    fun id o ho => (hget id o).mpr (.inr ho)
  have hnew := fun id o (ho : w.opens.get id = some o) => reserved_new h hok ho
  constructor
  case table_eq =>
    change (Op.beginRouteBindRelay request).apply w.table = run (w.calls ++ [_])
    rw [run_snoc, ← h.table_eq]
  case handles =>
    apply h.handles.snoc
    nofun
  case known =>
    intro id o ho
    change id < w.nextSender + 1 ∧ o.allocation ∈ allocations (w.calls ++ [_])
    rw [allocations_snoc, ← h.table_eq, allocation?_reserved hok]
    rcases (hget id o).mp ho with ⟨rfl, rfl⟩ | hbefore
    · exact ⟨Nat.lt_succ_self _, mem_append_right _ (mem_singleton.mpr rfl)⟩
    · obtain ⟨hlt, hmem⟩ := h.known id o hbefore
      exact ⟨Nat.lt_succ_of_lt hlt, mem_append_left _ hmem⟩
  case corr_below =>
    intro id o ho hregistered
    rcases (hget id o).mp ho with ⟨rfl, rfl⟩ | hbefore
    · exact (hregistry.2 relay hok).2
    have hfresh := creation?_fresh h honce hbefore
    exact corr_call h.inv hfresh hregistered
      (h.corr_below id o hbefore (registered_back h.inv hfresh hregistered))
  case apart =>
    intro id₁ o₁ id₂ o₂ ho₁ ho₂ hsame
    rcases (hget id₁ o₁).mp ho₁ with ⟨rfl, rfl⟩ | hbefore₁ <;>
      rcases (hget id₂ o₂).mp ho₂ with ⟨rfl, rfl⟩ | hbefore₂
    · rfl
    · exact (hsame.elim (fun heq => (hnew _ _ hbefore₂).1 heq.symm)
        fun heq => (hnew _ _ hbefore₂).2 heq.symm).elim
    · exact (hsame.elim (hnew _ _ hbefore₁).1 (hnew _ _ hbefore₁).2).elim
    · exact h.apart _ _ _ _ hbefore₁ hbefore₂ hsame
  case pending =>
    intro key entry hp
    change (beginRouteBindRelayInner w.table request).inner.pendingRelays.get key = _ at hp
    rw [hinsert] at hp
    rcases of_get_insert hp with ⟨hkey, rfl⟩ | ⟨-, hp⟩
    · refine ⟨openOf request relay, (hget _ _).mpr (.inl ⟨hsender, rfl⟩), hkey.symm, ?_, rfl⟩
      simp only [reservationAllocation, RelayRequest.entry, RouteOpen.allocation, openOf,
        relayAllocation, hendpoint]
    · obtain ⟨o, ho, hrest⟩ := h.pending key entry hp
      exact ⟨o, hold _ _ ho, hrest⟩
  case slotted =>
    intro key entry hp
    change (beginRouteBindRelayInner w.table request).inner.pendingRelays.get key = _ at hp
    rw [hinsert] at hp
    rcases of_get_insert hp with ⟨hkey, -⟩ | ⟨-, hp⟩
    · left
      apply hregistry.1.slotted
      rw [hkey]
      exact .inl ⟨request.moduleId, module, hactive, hendpoint.symm⟩
    · exact (h.slotted key entry hp).imp_left (hregistry.1.slotted key.1)
  case released =>
    intro key hkey
    change key ∈ (beginRouteBindRelayInner w.table request).inner.relaysReleasedBeforeEnqueue
      at hkey
    rw [hreserved.rest] at hkey
    obtain ⟨id, o, ho, hrest⟩ := h.released key hkey
    exact ⟨id, o, hold _ _ ho, hrest⟩
  case settled =>
    refine forall_mem_append.mpr ⟨?_, forall_mem_nil _⟩
    exact fun entry hbefore => Nat.lt_succ_of_lt (h.settled entry hbefore)
  case replies => exact fun entry hentry => Nat.lt_succ_of_lt (h.replies entry hentry)
  case answers => exact fun entry hentry => Nat.lt_succ_of_lt (h.answers entry hentry)
  case goodbyes =>
    refine forall_mem_append.mpr ⟨?_, forall_mem_nil _⟩
    intro goodbye hbefore
    obtain ⟨id, o, ho, hrest⟩ := h.goodbyes goodbye hbefore
    exact ⟨id, o, hold _ _ ho, hrest⟩
  case queued =>
    intro handle corr hbind
    obtain ⟨id, o, ho, hrest⟩ := h.queued handle corr hbind
    exact ⟨id, o, hold _ _ ho, hrest⟩

section

variable (h : Coherent w) (hok : (beginRouteBindRelayInner w.table request).result = .ok relay)
include h hok

/-- A reservation is nothing to the opens before it. -/
theorem opened_moves (honce : (created (w.calls ++ [.beginRouteBindRelay request])).Nodup)
    (ho : w.opens.get id = some o) : Moves (view w id o) (view (opened w request relay) id o) := by
  have hreserved := reserved_of_ok h.inv hok
  obtain ⟨hkey, -⟩ := reserved_new h hok ho
  obtain ⟨module, -, -, -, frame, -, hinsert⟩ := hreserved.target
  have huntouched : Untouched w (.beginRouteBindRelay request) [] id o := by
    refine ⟨?_, ?_, rfl, rfl⟩
    · change (beginRouteBindRelayInner w.table request).inner.pendingRelays.get o.key = _
      rw [hinsert, get_insert]
      exact if_neg hkey
    · change o.key ∈ (beginRouteBindRelayInner w.table request).inner.relaysReleasedBeforeEnqueue ↔
        _
      rw [hreserved.rest]
  exact huntouched.moves h honce ho

/-- The new open starts fresh. -/
theorem opened_fresh :
    Fresh (view (opened w request relay) w.nextSender (openOf request relay)) := by
  have hreserved := reserved_of_ok h.inv hok
  have hnew := fun id o (ho : w.opens.get id = some o) => reserved_new h hok ho
  obtain ⟨module, -, -, -, frame, -, hinsert⟩ := hreserved.target
  have hnone : ∀ {α : Type} (l : List (SenderId × α)), (∀ entry ∈ l, entry.1 < w.nextSender) →
      (l.filter fun entry => entry.1 = w.nextSender) = [] := by
    intro α l hl
    apply filter_eq_nil_iff.mpr
    intro entry hentry heq
    exact absurd (of_decide_eq_true heq) (Nat.ne_of_lt (hl entry hentry))
  constructor
  case phase => rfl
  case mark =>
    change ((beginRouteBindRelayInner w.table request).inner.pendingRelays.get
      (relay.endpoint, relay.corr)).map (·.relayEnqueued) = some false
    rw [hinsert, get_insert, if_pos rfl]
    rfl
  case released =>
    apply decide_eq_false
    intro hmem
    change (openOf request relay).key ∈
      (beginRouteBindRelayInner w.table request).inner.relaysReleasedBeforeEnqueue at hmem
    rw [hreserved.rest] at hmem
    obtain ⟨id, o, ho, hkey⟩ := h.released _ hmem
    exact (hnew id o ho).1 hkey
  case binds =>
    apply count_eq_zero.mpr
    intro hmem
    obtain ⟨frame', hframe', hhandle⟩ := mem_filterMap.mp hmem
    cases frame' with
    | goodbye => cases hhandle
    | routeBind handle corr =>
      cases hhandle
      obtain ⟨id, o, ho, hsame, -⟩ := h.queued _ corr hframe'
      exact (hnew id o ho).2 hsame.symm
  case outcomes =>
    change ((w.settled ++ []).filter _).map _ = []
    rw [append_nil, hnone _ h.settled, map_nil]
  case replies =>
    change (w.replies.filter _).map _ = []
    rw [hnone _ h.replies, map_nil]
  case goodbyes =>
    change ((w.goodbyes ++ []).map Goodbye.handle).count _ = 0
    rw [append_nil]
    apply count_eq_zero.mpr
    intro hmem
    obtain ⟨goodbye, hgoodbye, hhandle⟩ := mem_map.mp hmem
    obtain ⟨id, o, ho, hmeant, -⟩ := h.goodbyes goodbye hgoodbye
    rw [hmeant, Option.some.injEq] at hhandle
    exact (hnew id o ho).2 hhandle
  case answers =>
    change (w.answers.filter _).map _ = []
    rw [hnone _ h.answers, map_nil]

end

end Reservation

end Subconscious.RelaySteps
