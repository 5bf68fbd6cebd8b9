import Subconscious.RelayRefinement

/-!
# What a route.open is answered

A relay is settled once, and its client is told once: the response that opens
the route is queued in the very lock section that enters the binding into both
route indexes, and whoever ends the relay otherwise leaves neither a binding
nor a reservation of its handles. A client whose connection is over may be
told nothing.
-/

namespace Subconscious.RelayAnswers

open HashMaps HashMap Protocol ForwardingState ForwardingRelays ForwardingRuns ForwardingInvariant
open List
open ForwardingConsistency ForwardingSteps ForwardingEndings ForwardingHandles RouteOpenProtocol
open RelayWorld RelayCoherence RelaySteps RelayRefinement

variable {inner : ForwardingInner}

/-- What the one-shot of an open was given. -/
def outcomesOf (w : World) (id : SenderId) : List (RouteBindRelayOutcome × Instant) :=
  (w.settled.filter fun entry => entry.1 = id).map fun entry => entry.2

/-- What the client of an open was sent for it. -/
def answersOf (w : World) (id : SenderId) : List Answer :=
  (w.answers.filter fun entry => entry.1 = id).map fun entry => entry.2

/-- The frame is a response to the open that names its client channel and epoch. -/
def Names (o : RouteOpen) (frame : Frame) : Prop :=
  frame.header.ty = .response ∧ frame.header.corr = o.request.clientCorr ∧
    ∃ requestWindow watchWindow, frame.body = routeOpenBody o.relay.slots.clientChannel
      o.relay.slots.clientEpoch requestWindow watchWindow

/-- Both route indexes hold a binding with the handles. -/
def Bound (inner : ForwardingInner) (a : Allocation) : Prop :=
  ∃ route, inner.clientToModule.get a.clientKey = some route ∧
    inner.moduleToClient.get a.moduleKey = some route ∧ routeAllocation route = a

/-- Neither route index holds a binding with the handles. -/
structure Unbound (inner : ForwardingInner) (a : Allocation) : Prop where
  client : ∀ key route, inner.clientToModule.get key = some route → routeAllocation route ≠ a
  module : ∀ key route, inner.moduleToClient.get key = some route → routeAllocation route ≠ a

variable {id : SenderId} {o : RouteOpen} {w : World}

/-- A frame that was built carries what it was built from. -/
theorem buildWithVersion_fields
    (h : Frame.buildWithVersion ver ty flags channel epoch corr body = .ok frame) :
    frame.header.ty = ty ∧ frame.header.corr = corr ∧ frame.body = body := by
  unfold Frame.buildWithVersion at h
  split at h
  case isTrue => cases h
  case isFalse =>
    cases h
    exact ⟨rfl, rfl, rfl⟩

/-- The response a relay is published with names what its prepared one does. -/
theorem names_published (hentry : reservationAllocation entry.reservation = o.allocation)
    (hnames : Names o entry.routeOpenFrame) (hframe : publishedFrame entry = .ok frame) :
    Names o frame := by
  have hchannel : entry.reservation.clientKey.channel = o.relay.slots.clientChannel :=
    congrArg (fun a : Allocation => a.clientKey.channel) hentry
  have hepoch : entry.reservation.clientEpoch = o.relay.slots.clientEpoch :=
    congrArg Allocation.clientEpoch hentry
  unfold publishedFrame at hframe
  split at hframe
  case isTrue =>
    obtain ⟨hty, hcorr, hbody⟩ := buildWithVersion_fields hframe
    refine ⟨hty, hcorr.trans hnames.2.1, some entry.requestWindow, entry.watchWindow, ?_⟩
    rw [hbody, hchannel, hepoch]
  case isFalse =>
    cases hframe
    exact hnames

/-- A route of the client index is a binding of both. -/
theorem bound_of_route (h : RouteIndexes inner)
    (hroute : inner.clientToModule.get key = some route) : Bound inner (routeAllocation route) := by
  obtain ⟨hkey, hmodule⟩ := h.bindings.ofLeft key route hroute
  subst hkey
  exact ⟨route, hroute, hmodule, rfl⟩

/-- Handles without a binding in both indexes have one in neither. -/
theorem unbound_of_not_bound (h : RouteIndexes inner) (hbound : ¬ Bound inner a) :
    Unbound inner a := by
  constructor
  · intro key route hroute heq
    exact hbound (heq ▸ bound_of_route h hroute)
  intro key route hroute heq
  obtain ⟨-, hclient⟩ := h.bindings.ofRight key route hroute
  exact hbound (heq ▸ bound_of_route h hclient)

/-- Every relay of the second table was one of the first, perhaps without its mark. -/
def RelaysKept (inner inner' : ForwardingInner) : Prop :=
  ∀ key entry', inner'.pendingRelays.get key = some entry' →
    ∃ entry, inner.pendingRelays.get key = some entry ∧ entry'.sender = entry.sender ∧
      entry'.reservation = entry.reservation ∧ entry'.routeOpenFrame = entry.routeOpenFrame

/-- One relay was added, for an open that its prepared response names. -/
def RelayAdded (w w' : World) : Prop :=
  ∃ key entry o, w.table.pendingRelays.get key = none ∧
    w'.table.pendingRelays = w.table.pendingRelays.insert key entry ∧
    w'.opens.get entry.sender = some o ∧ o.key = key ∧ Names o entry.routeOpenFrame

/-- A step that opens no route. -/
structure Quiet (w w' : World) : Prop where
  relays : RelaysKept w.table w'.table ∨ RelayAdded w w'
  routes : w'.table.clientToModule.Within w.table.clientToModule
  settled : ∃ more, w'.settled = w.settled ++ more
  answers : ∃ refusals : List (SenderId × String),
    w'.answers = w.answers ++ refusals.map fun refusal => (refusal.1, .refused refusal.2)

/-- What a step does to routes and answers. -/
inductive AnswerStep (w : World) (w' : World) : Prop where
  | quiet (h : Quiet w w')
  /-- A reply turns its relay into a route and answers the open. -/
  | opened (key : ControlKey) (entry : PendingRouteBindRelayEntry) (binding : RouteBinding)
      (frame : Frame) (hp : w.table.pendingRelays.get key = some entry)
      (hframe : publishedFrame entry = .ok frame)
      (hbinding : routeAllocation binding = reservationAllocation entry.reservation)
      (htable : w'.table = installBinding (takeRelay w.table key entry) binding)
      (hsettled : w'.settled = w.settled ++ [(entry.sender, .accepted, w.now)])
      (hanswers : w'.answers = w.answers ++ [(entry.sender, .opened frame)])
      (hopens : w'.opens = w.opens)

/-- A table keeps its own relays. -/
theorem RelaysKept.refl (inner : ForwardingInner) : RelaysKept inner inner :=
  fun _ entry hp => ⟨entry, hp, rfl, rfl, rfl⟩

/-- A step that leaves the table alone. -/
theorem Quiet.ofTable (htable : w'.table = w.table) (hsettled : w'.settled = w.settled)
    (hanswers : w'.answers = w.answers) : Quiet w w' := by
  refine ⟨.inl ?_, ?_, ⟨[], by simp [hsettled]⟩, ⟨[], by simp [hanswers]⟩⟩
  · rw [htable]
    exact .refl _
  intro key route hroute
  rw [htable] at hroute
  exact hroute

section

variable {op : Op} (hbegin : ∀ request, op ≠ .beginRouteBindRelay request)
  (hcomplete : ∀ connectionId corr outcome reads,
    op ≠ .completePendingRelay connectionId corr outcome reads)
include hbegin hcomplete

/-- Of all lock sections only reserving and replying add relays or routes. -/
theorem apply_kept (h : TableInv inner) :
    RelaysKept inner (op.apply inner) ∧
      (op.apply inner).clientToModule.Within inner.clientToModule := by
  have horigins := Op.apply_origins h op
  constructor
  · intro key entry' hp
    rcases horigins.relays key entry' hp with ⟨entry, hold, heq⟩ | ⟨request, _, _, _, hop, -⟩
    · rcases heq with rfl | rfl
      · exact ⟨entry', hold, rfl, rfl, rfl⟩
      · exact ⟨entry, hold, rfl, rfl, rfl⟩
    · exact absurd hop (hbegin request)
  · intro key route hroute
    rcases horigins.routes key route hroute with hold | ⟨_, _, _, _, _, _, _, _, hop, -⟩
    · exact hold
    · exact absurd hop (hcomplete _ _ _ _)

/-- A step around a lock section that neither reserves nor replies. -/
theorem Quiet.ofCall {w w' : World} (h : TableInv w.table)
    (htable : w'.table = op.apply w.table) (hsettled : ∃ more, w'.settled = w.settled ++ more)
    (hanswers : ∃ refusals : List (SenderId × String),
      w'.answers = w.answers ++ refusals.map fun refusal => (refusal.1, .refused refusal.2)) :
    Quiet w w' := by
  obtain ⟨hrelays, hroutes⟩ := apply_kept hbegin hcomplete h
  refine ⟨.inl ?_, ?_, hsettled, hanswers⟩
  · rw [htable]
    exact hrelays
  · rw [htable]
    exact hroutes

end

/-- A handler that gives up refuses at most. -/
theorem Quiet.release (h : TableInv w.table) (id : SenderId) (o : RouteOpen)
    (codes : List String) : Quiet w (w.releaseAndFinish id o (codes.map Answer.refused)) := by
  refine @Quiet.ofCall (.abortPendingRelay _ _ _) (by simp) (by simp) _ _ h rfl ⟨_, rfl⟩ ?_
  by_cases hended : o.client ∈ w.ended
  · refine ⟨[], ?_⟩
    change w.answers ++ (if o.client ∈ w.ended then [] else _) = _
    rw [if_pos hended]
    rfl
  · refine ⟨codes.map fun code => (id, code), ?_⟩
    change w.answers ++ (if o.client ∈ w.ended then [] else _) = _
    rw [if_neg hended, map_map, map_map]
    rfl

/-- A refused route.open leaves relays and routes alone. -/
theorem Quiet.beginRefused
    (hrefused : RefusedOnly w.table (beginRouteBindRelayInner w.table request).inner) :
    Quiet w (callWith w (.beginRouteBindRelay request) []) := by
  have hrelays := congrArg ForwardingInner.pendingRelays hrefused
  have hroutes := congrArg ForwardingInner.clientToModule hrefused
  refine ⟨.inl ?_, ?_, ⟨_, rfl⟩, ⟨[], by simp [callWith, World.invoke]⟩⟩
  · exact fun key entry hp => ⟨entry, hrelays ▸ hp, rfl, rfl, rfl⟩
  · exact fun key route hroute => hroutes ▸ hroute

/-- A route.open adds its own relay at most. -/
theorem Quiet.opened (hsender : request.sender = w.nextSender)
    (hreserved : Reserved w.table request relay (beginRouteBindRelayInner w.table request).inner) :
    Quiet w (RelaySteps.opened w request relay) := by
  have hroutes := congrArg ForwardingInner.clientToModule hreserved.rest
  obtain ⟨module, -, hendpoint, -, frame, hframe, hinsert⟩ := hreserved.target
  obtain ⟨hty, hcorr, hbody⟩ := buildWithVersion_fields hframe
  refine ⟨.inr ?_, ?_, ⟨_, rfl⟩, ⟨[], by simp [RelaySteps.opened, callWith, World.invoke]⟩⟩
  · refine ⟨_, _, openOf request relay, hreserved.fresh, hinsert, ?_, rfl, hty, hcorr, none, none,
      hbody⟩
    exact (get_insert _ _ _ _).trans (if_pos hsender)
  · exact fun key route hroute => hroutes ▸ hroute

/-- A reply opens a route or is quiet. -/
theorem reply_answers (h : Coherent w) (hlive : connectionId ∉ w.deregistered)
    (outcome : RouteBindRelayOutcome) :
    AnswerStep w (w.complete connectionId corr outcome reads) := by
  cases replied h.inv connectionId corr outcome reads (reply_slotted h hlive) with
  | unknown hp hsame hsettled htargets hpublished hresult =>
    rw [complete_eq hresult, hp]
    refine .quiet (.ofTable hsame ?_ ?_)
    · simp [callWith, World.invoke, hsettled]
    · simp
  | refused endpoint entry answer hrole hanswer htaken hshrinks hpublished hresult =>
    rw [complete_eq hresult, hpublished]
    refine .quiet ⟨.inl ?_, hshrinks.routes, ⟨_, rfl⟩, ⟨[], by simp⟩⟩
    intro key entry' hp'
    exact ⟨entry', hshrinks.relays key entry' hp', rfl, rfl, rfl⟩
  | opened endpoint entry moduleId module frame hrole htaken hpublishable hframe htable hpublished
      hresult =>
    have hfound : repliedRelay w.table connectionId corr = some entry := by
      simp [repliedRelay, hrole, htaken.found]
    rw [complete_eq hresult, hfound, hpublished]
    refine .opened (endpoint, corr) entry (committedBinding entry moduleId module reads) frame
      htaken.found hframe rfl htable ?_ rfl rfl
    simp [callWith, World.invoke, htaken.settled]

/-- Every step opens one route or none. -/
theorem answers_of_stepped (h : Coherent w) (hstep : Stepped w w') : AnswerStep w w' := by
  cases hstep with
  | refused request err herr =>
    exact .quiet (.beginRefused (refused_of_error h.inv herr))
  | opened request relay hsender hok =>
    exact .quiet (.opened hsender (reserved_of_ok h.inv hok))
  | gaveUp id o codes => exact .quiet (.release h.inv id o codes)
  | accepted =>
    exact .quiet (.ofTable rfl rfl (by simp [World.finish, World.setPhase]))
  | marked =>
    exact .quiet (@Quiet.ofCall (.markRouteBindRelayEnqueued _ _) (by simp) (by simp) _ _ h.inv
      rfl ⟨_, rfl⟩ ⟨[], by simp [World.setPhase, callWith, World.invoke]⟩)
  | replied connectionId endpoint corr outcome reads hrole hlive =>
    exact reply_answers h hlive outcome
  | called op extra hcallable =>
    have hother := relayCall_of_callable hcallable
    refine .quiet (@Quiet.ofCall op ?_ ?_ _ _ h.inv rfl ⟨_, rfl⟩
      ⟨[], by simp [callWith, World.invoke]⟩)
    · rintro request rfl
      cases hother
    · rintro connectionId corr outcome reads rfl
      cases hother
  | shutdown =>
    exact .quiet (@Quiet.ofCall .beginDaemonDrain (by simp) (by simp) _ _ h.inv rfl ⟨_, rfl⟩
      ⟨[], by simp [World.perform, World.invoke]⟩)
  | _ => exact .quiet (.ofTable rfl rfl rfl)

/-- Every prepared response, every route and every opening answer belongs to an
open, and the open of a route is committed. -/
structure Accounted (w : World) : Prop where
  relays : ∀ key entry, w.table.pendingRelays.get key = some entry →
    ∃ o, w.opens.get entry.sender = some o ∧ Names o entry.routeOpenFrame
  routes : ∀ key route, w.table.clientToModule.get key = some route →
    ∃ id o, w.opens.get id = some o ∧ routeAllocation route = o.allocation ∧ Committed w id
  answers : ∀ id frame, (id, .opened frame) ∈ w.answers →
    ∃ o, w.opens.get id = some o ∧ Names o frame

/-- Before the first event there is nothing to account for. -/
theorem accounted_initial : Accounted World.initial := by
  constructor <;> simp [World.initial, ForwardingInner.default]

variable {o' : RouteOpen}

/-- What a frame names depends on request and relay. -/
theorem Names.congr (h : Names o frame) (hrequest : o'.request = o.request)
    (hrelay : o'.relay = o.relay) : Names o' frame := by
  unfold Names
  rw [hrequest, hrelay]
  exact h

/-- So do the handles of an open. -/
theorem allocation_congr (hrequest : o'.request = o.request) (hrelay : o'.relay = o.relay) :
    o'.allocation = o.allocation := by
  unfold RouteOpen.allocation
  rw [hrequest, hrelay]

/-- A step without a new route. -/
theorem Quiet.accounted (h : Accounted w) (hq : Quiet w w') (hr : Refines w w') : Accounted w' := by
  have hnamed : ∀ id frame, (∃ o, w.opens.get id = some o ∧ Names o frame) →
      ∃ o, w'.opens.get id = some o ∧ Names o frame := by
    rintro id frame ⟨o, ho, hnames⟩
    obtain ⟨o', ho', hrequest, hrelay, -⟩ := hr.old _ _ ho
    exact ⟨o', ho', hnames.congr hrequest hrelay⟩
  constructor
  case relays =>
    intro key entry' hp
    rcases hq.relays with hkept | ⟨added, entry, o, -, hinsert, ho, -, hnames⟩
    · obtain ⟨entry, hp', hsender, -, hframe⟩ := hkept key entry' hp
      rw [hsender, hframe]
      exact hnamed _ _ (h.relays key entry hp')
    rw [hinsert] at hp
    rcases of_get_insert hp with ⟨-, rfl⟩ | ⟨-, hp⟩
    · exact ⟨o, ho, hnames⟩
    · exact hnamed _ _ (h.relays key entry' hp)
  case routes =>
    intro key route hroute
    obtain ⟨id, o, ho, hallocation, time, hcommitted⟩ := h.routes key route (hq.routes key route hroute)
    obtain ⟨o', ho', hrequest, hrelay, -⟩ := hr.old _ _ ho
    obtain ⟨more, hsettled⟩ := hq.settled
    refine ⟨id, o', ho', hallocation.trans (allocation_congr hrequest hrelay).symm, time, ?_⟩
    rw [hsettled]
    exact mem_append_left _ hcommitted
  case answers =>
    intro id frame hmem
    obtain ⟨refusals, hanswers⟩ := hq.answers
    rw [hanswers] at hmem
    rcases mem_append.mp hmem with hin | hnew
    · exact hnamed id frame (h.answers id frame hin)
    · obtain ⟨refusal, -, heq⟩ := mem_map.mp hnew
      cases heq

/-- Every step keeps the accounts. -/
theorem AnswerStep.accounted (hc : Coherent w) (h : Accounted w) (hstep : AnswerStep w w')
    (hr : Refines w w') : Accounted w' := by
  cases hstep with
  | quiet hq => exact hq.accounted h hr
  | opened key entry binding frame hp hframe hbinding htable hsettled hanswers hopens =>
    obtain ⟨o, ho, hkey, hallocation, -⟩ := hc.pending key entry hp
    constructor
    case relays =>
      intro key' entry' hp'
      rw [htable] at hp'
      rw [hopens]
      exact h.relays key' entry' ((takeRelay_shrinks key entry).relays key' entry' hp')
    case routes =>
      intro key' route hroute
      rw [htable] at hroute
      simp only [installBinding, get_insert] at hroute
      rw [hopens]
      split at hroute
      case isTrue =>
        cases hroute
        refine ⟨entry.sender, o, ho, hbinding.trans hallocation, w.now, ?_⟩
        rw [hsettled]
        exact mem_append_right _ mem_cons_self
      case isFalse =>
        obtain ⟨id, o', ho', hroute', time, hcommitted⟩ := h.routes key' route hroute
        refine ⟨id, o', ho', hroute', time, ?_⟩
        rw [hsettled]
        exact mem_append_left _ hcommitted
    case answers =>
      intro id frame' hmem
      rw [hanswers] at hmem
      rw [hopens]
      rcases mem_append.mp hmem with hin | hnew
      · exact h.answers id frame' hin
      cases mem_singleton.mp hnew
      obtain ⟨o', ho', hnames⟩ := h.relays key entry hp
      rw [ho] at ho'
      cases ho'
      exact ⟨o, ho, names_published hallocation hnames hframe⟩

/-- In every run routes and answers are accounted for. -/
theorem run_accounted (honce : EndpointsOnce (World.run events)) :
    Accounted (World.run events) := by
  induction events using List.reverseRecOn with
  | nil => exact accounted_initial
  | append_singleton events event ih =>
    rw [run_snoc_step] at honce ⊢
    have hbefore := endpointsOnce_before honce
    obtain ⟨hcoherent, hsound⟩ := run_sound events hbefore
    exact (answers_of_stepped hcoherent (stepped _ event)).accounted hcoherent (ih hbefore)
      ((stepped _ event).refines hcoherent hsound honce)

/-- The client was sent the response that opens the route. -/
def IsOpened (w : World) (id : SenderId) : Prop := ∃ frame, .opened frame ∈ answersOf w id

/-- A client is told of the acceptance, and of nothing else that opens. -/
theorem isOpened_iff (h : Sound (view w id o)) : IsOpened w id ↔ Committed w id :=
  h.opened_iff.trans (committed_iff w id o).symm

/-- The answers of an open are those queued under its id. -/
theorem mem_answersOf : answer ∈ answersOf w id ↔ (id, answer) ∈ w.answers := by
  constructor
  · intro hmem
    obtain ⟨⟨sender, given⟩, hentry, rfl⟩ := mem_map.mp hmem
    obtain ⟨hanswers, hid⟩ := mem_filter.mp hentry
    cases of_decide_eq_true hid
    exact hanswers
  · intro hmem
    exact mem_map.mpr ⟨(id, answer), mem_filter.mpr ⟨hmem, by simp⟩, rfl⟩

/-- An open whose handles are bound is committed. -/
theorem committed_of_bound (hc : Coherent w) (h : Accounted w) (ho : w.opens.get id = some o)
    (hbound : Bound w.table o.allocation) : Committed w id := by
  obtain ⟨route, hroute, -, hallocation⟩ := hbound
  obtain ⟨id', o', ho', hroute', hcommitted⟩ := h.routes _ route hroute
  obtain ⟨rfl, -⟩ := hc.same ho' ho (.inr (by rw [← hroute', hallocation]))
  exact hcommitted

/-- A step without a new route opens nothing and binds nothing. -/
theorem Quiet.unopened (hc : Coherent w) (hq : Quiet w w') (id : SenderId) (a : Allocation) :
    (IsOpened w' id → IsOpened w id) ∧ (Bound w'.table a → Bound w.table a) := by
  constructor
  · rintro ⟨frame, hframe⟩
    obtain ⟨refusals, hanswers⟩ := hq.answers
    rw [mem_answersOf, hanswers] at hframe
    rcases mem_append.mp hframe with hold | hnew
    · exact ⟨frame, mem_answersOf.mpr hold⟩
    · obtain ⟨refusal, -, heq⟩ := mem_map.mp hnew
      cases heq
  · rintro ⟨route, hroute, -, rfl⟩
    exact bound_of_route hc.inv.toRouteIndexes (hq.routes _ route hroute)

/-- The opening answer of an open is queued in the step that binds its handles,
and in no other. -/
theorem AnswerStep.opened_iff (hc : Coherent w) (h : Accounted w) (hsound : OpensSound w)
    (hstep : AnswerStep w w') (ho : w'.opens.get id = some o) :
    ¬ IsOpened w id ∧ IsOpened w' id ↔
      ¬ Bound w.table o.allocation ∧ Bound w'.table o.allocation := by
  cases hstep with
  | quiet hq =>
    obtain ⟨hopened, hbound⟩ := hq.unopened hc id o.allocation
    exact ⟨fun hnew => absurd (hopened hnew.2) hnew.1, fun hnew => absurd (hbound hnew.2) hnew.1⟩
  | opened key entry binding frame hp hframe hbinding htable hsettled hanswers hopens =>
    rw [hopens] at ho
    obtain ⟨sender, hsender, hkey, hallocation, -⟩ := hc.pending key entry hp
    have hclient : binding.clientKey = sender.allocation.clientKey :=
      congrArg Allocation.clientKey (hbinding.trans hallocation)
    have hmodule : binding.moduleKey = sender.allocation.moduleKey :=
      congrArg Allocation.moduleKey (hbinding.trans hallocation)
    by_cases hid : id = entry.sender
    · subst hid
      rw [hsender] at ho
      cases ho
      have hpending : (view w entry.sender o).mark = some entry.relayEnqueued := by
        simp [view, hkey, hp]
      have hnot : ¬ Committed w entry.sender := by
        rw [committed_iff w entry.sender o]
        rintro ⟨time, hmem⟩
        rw [((hsound _ _ hsender).untouched hpending).1] at hmem
        cases hmem
      have hbefore : ¬ IsOpened w entry.sender := mt (isOpened_iff (hsound _ _ hsender)).mp hnot
      have hafter : IsOpened w' entry.sender := by
        refine ⟨frame, mem_answersOf.mpr ?_⟩
        rw [hanswers]
        exact mem_append_right _ mem_cons_self
      have hunbound : ¬ Bound w.table o.allocation := mt (committed_of_bound hc h hsender) hnot
      have hbound : Bound w'.table o.allocation := by
        refine ⟨binding, ?_, ?_, hbinding.trans hallocation⟩
        · rw [htable, ← hclient]
          exact (get_insert _ _ _ _).trans (if_pos rfl)
        · rw [htable, ← hmodule]
          exact (get_insert _ _ _ _).trans (if_pos rfl)
      exact ⟨fun _ => ⟨hunbound, hbound⟩, fun _ => ⟨hbefore, hafter⟩⟩
    · have hopened : IsOpened w' id → IsOpened w id := by
        rintro ⟨frame', hmem⟩
        rw [mem_answersOf, hanswers] at hmem
        rcases mem_append.mp hmem with hold | hnew
        · exact ⟨frame', mem_answersOf.mpr hold⟩
        · cases mem_singleton.mp hnew
          exact absurd rfl hid
      have hbound : Bound w'.table o.allocation → Bound w.table o.allocation := by
        rintro ⟨route, hroute, -, hhandles⟩
        rw [htable] at hroute
        rcases of_get_insert hroute with ⟨-, rfl⟩ | ⟨-, hroute⟩
        · have hsame : sender.allocation = o.allocation :=
            (hbinding.trans hallocation).symm.trans hhandles
          exact absurd (hc.same ho hsender (.inr (by rw [hsame]))).1 hid
        · rw [← hhandles]
          exact bound_of_route hc.inv.toRouteIndexes hroute
      exact ⟨fun hnew => absurd (hopened hnew.2) hnew.1, fun hnew => absurd (hbound hnew.2) hnew.1⟩

/-- A relay that is gone has left no reservation of its pair. -/
theorem released_of_gone (h : RouteIndexes inner)
    (h' : RouteIndexes inner') (hkept : RelaysKept inner inner')
    (hp : inner.pendingRelays.get key = some entry) (hgone : inner'.pendingRelays.get key = none) :
    inner'.reservedClient.get entry.reservation.clientKey = none ∧
      inner'.reservedModule.get entry.reservation.moduleKey = none := by
  have hback : ∀ clientKey moduleKey, inner'.reservedClient.get clientKey = some moduleKey →
      inner.reservedClient.get clientKey = some moduleKey ∧
        (clientKey, moduleKey) ≠ (entry.reservation.clientKey, entry.reservation.moduleKey) := by
    intro clientKey moduleKey hreserved
    obtain ⟨key', entry', hp', hclient, hmodule⟩ :=
      (h'.reserved_iff clientKey moduleKey).mp hreserved
    obtain ⟨old, hold, -, hreservation, -⟩ := hkept key' entry' hp'
    have hpair : RelayPair inner key' clientKey moduleKey :=
      ⟨old, hold, hreservation ▸ hclient, hreservation ▸ hmodule⟩
    refine ⟨(h.reserved_iff clientKey moduleKey).mpr ⟨key', hpair⟩, ?_⟩
    intro heq
    cases heq
    have hsame := h.relay_unique key' key _ _ hpair ⟨entry, hp, rfl, rfl⟩
    rw [hsame, hgone] at hp'
    cases hp'
  have hown : inner.reservedClient.get entry.reservation.clientKey =
      some entry.reservation.moduleKey := (h.reserved_iff _ _).mpr ⟨key, entry, hp, rfl, rfl⟩
  constructor
  · cases hreserved : inner'.reservedClient.get entry.reservation.clientKey with
    | none => rfl
    | some =>
      obtain ⟨hold, hother⟩ := hback _ _ hreserved
      rw [hown] at hold
      cases hold
      exact absurd rfl hother
  · cases hreserved : inner'.reservedModule.get entry.reservation.moduleKey with
    | none => rfl
    | some =>
      obtain ⟨hold, hother⟩ := hback _ _ ((h'.reservations _ _).mpr hreserved)
      have hfirst := (h.reservations _ _).mp hown
      have hsecond := (h.reservations _ _).mp hold
      rw [hfirst] at hsecond
      cases hsecond
      exact absurd rfl hother

/-- The step that ends a relay gives back its reservation. -/
theorem AnswerStep.released (hc : Coherent w) (hc' : Coherent w') (hstep : AnswerStep w w')
    (ho : w.opens.get id = some o) (hpending : w.table.pendingRelays.get o.key ≠ none)
    (hgone : w'.table.pendingRelays.get o.key = none) :
    w'.table.reservedClient.get o.allocation.clientKey = none ∧
      w'.table.reservedModule.get o.allocation.moduleKey = none := by
  obtain ⟨entry, hp⟩ := Option.ne_none_iff_exists'.mp hpending
  have hallocation : reservationAllocation entry.reservation = o.allocation := by
    obtain ⟨o', ho', hkey, hallocation, -⟩ := hc.pending _ entry hp
    obtain ⟨-, rfl⟩ := hc.same ho' ho (.inl hkey)
    exact hallocation
  have hclient : entry.reservation.clientKey = o.allocation.clientKey :=
    congrArg Allocation.clientKey hallocation
  have hmodule : entry.reservation.moduleKey = o.allocation.moduleKey :=
    congrArg Allocation.moduleKey hallocation
  have hkept : RelaysKept w.table w'.table := by
    cases hstep with
    | quiet hq =>
      rcases hq.relays with hkept | ⟨key, added, sender, hfresh, hinsert, -⟩
      · exact hkept
      rw [hinsert, get_insert] at hgone
      split at hgone
      case isTrue => cases hgone
      case isFalse => exact absurd hgone hpending
    | opened key opened binding frame hp' hframe hbinding htable =>
      intro key' entry' hp''
      rw [htable] at hp''
      exact ⟨entry', (takeRelay_shrinks key opened).relays key' entry' hp'', rfl, rfl, rfl⟩
  have hreleased := released_of_gone hc.inv.toRouteIndexes hc'.inv.toRouteIndexes hkept hp hgone
  rw [hclient, hmodule] at hreleased
  exact hreleased

/-- An open that is finished. -/
def HasFinished (w : World) (id : SenderId) : Prop :=
  ∃ o, w.opens.get id = some o ∧ o.phase = .finished

/-- A handler that returns is finished. -/
theorem finished_of_finish : HasFinished (w.finish id o answers) id :=
  ⟨{ o with phase := .finished }, (get_insert _ _ _ _).trans (if_pos rfl), rfl⟩

/-- A timer that has run out finishes a handler that looks at it. -/
theorem finishes_at_timer (ho : w.opens.get id = some o) (hphase : o.phase = .polled)
    (hdeadline : o.request.deadline ≤ w.now) : HasFinished (w.step (.timeOut id)) id := by
  simp only [World.step, ho, if_pos hphase, if_pos hdeadline]
  exact finished_of_finish

/-- Once its deadline has come, an open that waits is finished when it looks at
its one-shot and, if that is not ready, at its timer. -/
theorem finishes_at_deadline (ho : w.opens.get id = some o) (hphase : o.phase = .waiting)
    (hdeadline : o.request.deadline ≤ w.now) :
    HasFinished (w.step (.wake id)) id ∨ HasFinished ((w.step (.poll id)).step (.timeOut id)) id := by
  cases houtcome : w.outcomeOf id with
  | some outcome =>
    left
    simp only [World.step, ho, if_pos hphase, houtcome]
    split
    · exact finished_of_finish
    · exact finished_of_finish
    case h_3 hnone => cases hnone
  | none =>
    by_cases hpending : w.table.pendingRelays.contains o.key = true
    · right
      have hpolled : w.step (.poll id) = w.setPhase id o .polled := by
        simp only [World.step, ho]
        rw [if_pos ⟨hphase, houtcome, hpending⟩]
      rw [hpolled]
      exact @finishes_at_timer id { o with phase := .polled } (w.setPhase id o .polled)
        ((get_insert _ _ _ _).trans (if_pos rfl)) rfl hdeadline
    · left
      simp only [World.step, ho, if_pos hphase, houtcome, if_neg hpending]
      exact finished_of_finish

/-- The open was accepted after its handler had looked at the one-shot and before
it looked at its timer, which had run out. -/
def AcceptedAtTimeout (events : List Event) (id : SenderId) : Prop :=
  ∃ earlier later o, events = earlier ++ later ∧ (World.run earlier).opens.get id = some o ∧
    o.phase = .polled ∧ o.request.deadline ≤ (World.run earlier).now ∧
    IsOpened (World.run earlier) id

/-- A step adds opening answers, or the refusals of a handler that gives up. -/
theorem answers_added (hstep : Stepped w w') :
    (∃ frames : List (SenderId × Frame),
      w'.answers = w.answers ++ frames.map fun entry => (entry.1, .opened entry.2)) ∨
    ∃ id o codes, w.opens.get id = some o ∧ GivesUp w id o codes ∧
      w'.answers = w.answers ++ codes.map fun code => (id, .refused code) := by
  cases hstep with
  | gaveUp id o codes ho hwhy =>
    by_cases hended : o.client ∈ w.ended
    · refine .inl ⟨[], ?_⟩
      simp [World.releaseAndFinish, World.finish, World.setPhase, World.perform, World.invoke,
        hended]
    · refine .inr ⟨id, o, codes, ho, hwhy, ?_⟩
      simp [World.releaseAndFinish, World.finish, World.setPhase, World.perform, World.invoke,
        hended]
  | accepted => exact .inl ⟨[], by simp [World.finish, World.setPhase]⟩
  | replied connectionId endpoint corr outcome reads =>
    refine .inl ⟨(repliedRelay w.table connectionId corr).toList.flatMap fun entry =>
      (published w.table connectionId corr outcome reads).map fun frame => (entry.sender, frame), ?_⟩
    simp only [World.complete]
    congr 1
    cases repliedRelay w.table connectionId corr with
    | none => rfl
    | some entry => simp
  | _ => exact .inl ⟨[], by simp [World.setPhase, World.setGoodbye, callWith, World.perform,
      World.invoke, RelaySteps.opened]⟩

/-- What a step adds to the answers of an open. -/
theorem answersOf_append (hanswers : w'.answers = w.answers ++ added) :
    answersOf w' id = answersOf w id ++ (added.filter fun entry => entry.1 = id).map Prod.snd := by
  rw [answersOf, hanswers, filter_append, map_append]
  rfl

/-- Two answers are an opening answer and a time-out that came after it. -/
theorem run_answeredTwice (events : List Event) (honce : EndpointsOnce (World.run events))
    (htwo : answersOf (World.run events) id = [.opened frame, .refused code]) :
    AcceptedAtTimeout events id := by
  induction events using List.reverseRecOn with
  | nil => cases htwo
  | append_singleton events event ih =>
    rw [run_snoc_step] at honce htwo
    have hbefore := endpointsOnce_before honce
    have hold : answersOf (World.run events) id = [.opened frame, .refused code] →
        AcceptedAtTimeout (events ++ [event]) id := by
      intro hsame
      obtain ⟨earlier, later, o, hsplit, hraced⟩ := ih hbefore hsame
      exact ⟨earlier, later ++ [event], o, by rw [hsplit, append_assoc], hraced⟩
    rcases answers_added (stepped (World.run events) event) with
      ⟨frames, hanswers⟩ | ⟨id', o, codes, ho, hwhy, hanswers⟩
    · rw [answersOf_append hanswers] at htwo
      rcases eq_nil_or_concat (frames.filter fun entry => entry.1 = id) with hnone | ⟨init, last, hlast⟩
      · exact hold (by simpa [filter_map, Function.comp_def, hnone] using htwo)
      · simp only [filter_map, Function.comp_def, hlast, concat_eq_append, map_append, map_map,
          ← append_assoc] at htwo
        have hrefused := (append_inj' (htwo.trans (singleton_append ▸ rfl :
          _ = [Answer.opened frame] ++ [.refused code])) rfl).2
        cases hrefused
    · rw [answersOf_append hanswers] at htwo
      by_cases hid : id' = id
      case neg => exact hold (by simpa [filter_map, Function.comp_def, hid] using htwo)
      subst hid
      obtain ⟨hcoherent, hsound⟩ := run_sound events hbefore
      have hopened : IsOpened (World.run events) id' := by
        refine ⟨frame, ?_⟩
        cases hanswered : answersOf (World.run events) id' with
        | nil => cases codes <;> simp [hanswered] at htwo
        | cons first rest =>
          rw [hanswered, cons_append] at htwo
          rw [(List.cons.inj htwo).1]
          exact mem_cons_self
      have haccepted := (hsound id' o ho).opened_iff.mp hopened
      rcases hwhy.of_accepted (hsound id' o ho) haccepted with rfl | ⟨hphase, hdeadline⟩
      · exact hold (by simpa using htwo)
      · exact ⟨events, [event], o, rfl, ho, hphase, hdeadline, hopened⟩

/-- What a run promises about the route.opens that reserved a relay. -/
structure OpensAnswered (events : List Event) : Prop where
  /-- A relay that is gone was settled once, a pending one not yet. -/
  settled_once : ∀ id o, (World.run events).opens.get id = some o →
    (outcomesOf (World.run events) id).length =
      if ((World.run events).table.pendingRelays.get o.key).isSome then 0 else 1
  /-- What was settled or answered stays. -/
  stays : ∀ earlier later, events = earlier ++ later → ∀ id,
    (∃ more, outcomesOf (World.run events) id = outcomesOf (World.run earlier) id ++ more) ∧
      ∃ more, answersOf (World.run events) id = answersOf (World.run earlier) id ++ more
  /-- A client is answered at most once, unless its open is accepted between its
  handler's looks at the one-shot and at a timer that has run out. -/
  answered : ∀ id o, (World.run events).opens.get id = some o →
    (answersOf (World.run events) id).length ≤ 1 ∨ AcceptedAtTimeout events id ∧
      ∃ frame, answersOf (World.run events) id = [.opened frame, .refused "module_timeout"]
  /-- A finished open is settled, and answered unless its client is gone. -/
  finished : ∀ id o, (World.run events).opens.get id = some o → o.phase = .finished →
    (World.run events).table.pendingRelays.get o.key = none ∧
      (answersOf (World.run events) id ≠ [] ∨ o.client ∈ (World.run events).ended)
  /-- An open can always go on, and finishes at its deadline. -/
  progress : ∀ id o, (World.run events).opens.get id = some o →
    (o.phase = .sending → ∀ code, HasFinished ((World.run events).step (.giveUp id code)) id) ∧
    (o.phase = .sent → ∃ o', ((World.run events).step (.mark id)).opens.get id = some o' ∧
      o'.phase = .waiting) ∧
    (o.phase = .waiting → o.request.deadline ≤ (World.run events).now →
      HasFinished ((World.run events).step (.wake id)) id ∨
        HasFinished (((World.run events).step (.poll id)).step (.timeOut id)) id) ∧
    (o.phase = .polled → o.request.deadline ≤ (World.run events).now →
      HasFinished ((World.run events).step (.timeOut id)) id)
  /-- The opening answer is queued in the step that binds the handles. -/
  opened_iff : ∀ earlier event later, events = earlier ++ event :: later → ∀ id o,
    (World.run (earlier ++ [event])).opens.get id = some o →
    (¬ IsOpened (World.run earlier) id ∧ IsOpened (World.run (earlier ++ [event])) id ↔
      ¬ Bound (World.run earlier).table o.allocation ∧
        Bound (World.run (earlier ++ [event])).table o.allocation)
  opened_names : ∀ id o frame, (World.run events).opens.get id = some o →
    .opened frame ∈ answersOf (World.run events) id → Names o frame
  opened_accepted : ∀ id o, (World.run events).opens.get id = some o →
    (IsOpened (World.run events) id ↔ Committed (World.run events) id)
  accepted_inTime : ∀ id o time, (World.run events).opens.get id = some o →
    (.accepted, time) ∈ outcomesOf (World.run events) id → time < o.request.deadline
  /-- An open that was ended otherwise has no binding and no reservation. -/
  unopened : ∀ id o, (World.run events).opens.get id = some o →
    (World.run events).table.pendingRelays.get o.key = none → ¬ IsOpened (World.run events) id →
    Unbound (World.run events).table o.allocation ∧
      ¬ CarriesRelay (World.run events).table o.allocation
  /-- The step that ends a relay leaves its two keys unreserved. -/
  released : ∀ earlier event later, events = earlier ++ event :: later → ∀ id o,
    (World.run earlier).opens.get id = some o →
    (World.run earlier).table.pendingRelays.get o.key ≠ none →
    (World.run (earlier ++ [event])).table.pendingRelays.get o.key = none →
    (World.run (earlier ++ [event])).table.reservedClient.get o.allocation.clientKey = none ∧
      (World.run (earlier ++ [event])).table.reservedModule.get o.allocation.moduleKey = none

/-- What was settled or answered in a step comes after what was before. -/
theorem AnswerStep.grows (hstep : AnswerStep w w') :
    (∃ more, w'.settled = w.settled ++ more) ∧ ∃ more, w'.answers = w.answers ++ more := by
  cases hstep with
  | quiet hq =>
    obtain ⟨refusals, hanswers⟩ := hq.answers
    exact ⟨hq.settled, _, hanswers⟩
  | opened key entry binding frame hp hframe hbinding htable hsettled hanswers =>
    exact ⟨⟨_, hsettled⟩, _, hanswers⟩

/-- What was settled or answered in a run comes after what was before. -/
theorem run_grows
    (honce : EndpointsOnce (World.run (earlier ++ later))) :
    (∃ more, (World.run (earlier ++ later)).settled = (World.run earlier).settled ++ more) ∧
      ∃ more, (World.run (earlier ++ later)).answers = (World.run earlier).answers ++ more := by
  induction later using List.reverseRecOn with
  | nil => exact ⟨⟨[], by simp⟩, ⟨[], by simp⟩⟩
  | append_singleton later event ih =>
    rw [← append_assoc, run_snoc_step] at honce ⊢
    have hbefore := endpointsOnce_before honce
    obtain ⟨⟨settled, hsettled⟩, answers, hanswers⟩ := ih hbefore
    obtain ⟨⟨settled', hsettled'⟩, answers', hanswers'⟩ :=
      (answers_of_stepped (run_sound _ hbefore).1 (stepped _ event)).grows
    rw [hsettled', hanswers', hsettled, hanswers]
    exact ⟨⟨settled ++ settled', by simp⟩, ⟨answers ++ answers', by simp⟩⟩

/-- A module that accepts, and a client that is told so. -/
def acceptedOpen : List Event :=
  queuedOpen ++ [.tick 10, .reply 1 1 .accepted ⟨0, false, false, 0, 0, false⟩, .wake 0]

/-- A module that accepts after the handler saw no outcome and before it looks at
its timer. -/
def acceptedAtTimeout : List Event :=
  queuedOpen ++ [.tick 99, .poll 0, .reply 1 1 .accepted ⟨0, false, false, 0, 0, false⟩, .tick 1,
    .timeOut 0]

/-- A client that leaves before its open is answered. -/
def clientLeaves : List Event := queuedOpen ++ [.endConnection 2, .cancel 0]

instance (w : World) : Decidable (EndpointsOnce w) := inferInstanceAs (Decidable (List.Nodup _))

end Subconscious.RelayAnswers
