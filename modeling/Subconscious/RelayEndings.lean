import Subconscious.RelayRefinement

/-!
# How a queued route.bind ends

Every route.bind that entered a module's queue ends in one of four ways, and
stays ended: its route is committed, the module refused it, one GOODBYE for
its handle is handed to the module's egress, or the module is gone. A GOODBYE
is queued after its route.bind, at once or when room frees; it is dropped and
counted when none does within the late deadline. The frame names channel and
epoch only, so all of this is about module connections that register once.
-/

namespace Subconscious.RelayEndings

open ForwardingState ForwardingRuns ForwardingEndings ForwardingHandles RouteOpenProtocol List
open RelayWorld RelayCoherence RelaySteps RelayRefinement

/-- No module connection registers a second time. -/
def RegistersOnce (w : World) : Prop :=
  ((created w.calls).map fun endpoint => endpoint.connectionId).Nodup

instance (w : World) : Decidable (RegistersOnce w) :=
  inferInstanceAs (Decidable (List.Nodup _))

variable {id : SenderId} {index : Nat} {goodbye : Goodbye}

/-- A connection that registers once creates one endpoint. -/
theorem RegistersOnce.endpointsOnce (h : RegistersOnce w) : EndpointsOnce w := List.Nodup.of_map _ h

/-- A run whose connections register once does so up to its last step. -/
theorem registersOnce_before (h : RegistersOnce (w.step event)) : RegistersOnce w := by
  obtain ⟨more, hmore⟩ := @created_step w event
  rw [RegistersOnce, hmore, map_append] at h
  exact (nodup_append.mp h).1

/-- The GOODBYE frame for an open's bind. -/
def goodbyeFrame (o : RouteOpen) : ModuleFrame :=
  .goodbye o.relay.endpoint.connectionId o.relay.slots.moduleChannel o.relay.slots.moduleEpoch

/-- The frame a GOODBYE becomes. -/
def Goodbye.frame (goodbye : Goodbye) : ModuleFrame :=
  .goodbye goodbye.target.connectionId goodbye.target.channel goodbye.target.epoch

/-- The GOODBYEs handed out with an open's connection, channel and epoch. -/
def goodbyesOn (w : World) (o : RouteOpen) : List Goodbye :=
  w.goodbyes.filter fun goodbye => Goodbye.frame goodbye = goodbyeFrame o

/-- A GOODBYE meant for an open becomes the open's frame. -/
theorem frame_of_handle (hhandle : goodbye.handle = some o.allocation.moduleHandle)
    (hconnection : goodbye.target.connectionId = o.relay.endpoint.connectionId) :
    Goodbye.frame goodbye = goodbyeFrame o := by
  obtain ⟨endpoint, -, hpair⟩ := Option.map_eq_some_iff.mp hhandle
  have hchannel : goodbye.target.channel = o.relay.slots.moduleChannel :=
    congrArg (fun pair : ModuleRouteKey × UInt32 => pair.1.channel) hpair
  have hepoch : goodbye.target.epoch = o.relay.slots.moduleEpoch := congrArg Prod.snd hpair
  rw [Goodbye.frame, goodbyeFrame, hconnection, hchannel, hepoch]

/-- Where connections register once, channel and epoch tell the opens of a
connection apart. -/
theorem eq_of_goodbyeFrame (h : Coherent w) (honce : RegistersOnce w) (ho : w.opens.get id = some o)
    (ho' : w.opens.get id' = some o') (hframe : goodbyeFrame o = goodbyeFrame o') :
    o.allocation.moduleHandle = o'.allocation.moduleHandle := by
  simp only [goodbyeFrame, ModuleFrame.goodbye.injEq] at hframe
  obtain ⟨hconnection, hchannel, hepoch⟩ := hframe
  have hendpoint : o.relay.endpoint = o'.relay.endpoint :=
    inj_on_of_nodup_map honce (h.endpoint_created ho) (h.endpoint_created ho') hconnection
  simp only [RouteOpen.allocation, relayAllocation, Allocation.moduleHandle, hendpoint, hchannel,
    hepoch]

/-- Counting by channel and epoch is counting by the meant handle. -/
theorem goodbyesOn_length (h : Coherent w) (honce : RegistersOnce w)
    (ho : w.opens.get id = some o) : (goodbyesOn w o).length = (view w id o).goodbyes := by
  have hsame : ∀ goodbye ∈ w.goodbyes, Goodbye.frame goodbye = goodbyeFrame o ↔
      goodbye.handle = some o.allocation.moduleHandle := by
    intro goodbye hgoodbye
    obtain ⟨id', o', ho', hhandle, hconnection⟩ := h.goodbyes goodbye hgoodbye
    have hframe := frame_of_handle hhandle hconnection
    rw [hframe, hhandle, Option.some.injEq]
    constructor
    · exact eq_of_goodbyeFrame h honce ho' ho
    intro heq
    obtain ⟨-, rfl⟩ := h.same ho' ho (.inr heq)
    rfl
  rw [show (view w id o).goodbyes =
    (w.goodbyes.map Goodbye.handle).count (some o.allocation.moduleHandle) from rfl,
    count_eq_length_filter, filter_map, length_map, goodbyesOn]
  congr 1
  apply filter_congr
  intro goodbye hgoodbye
  rw [Bool.eq_iff_iff]
  simp only [decide_eq_true_eq, Function.comp_apply, beq_iff_eq]
  exact hsame goodbye hgoodbye

/-- What the queues and the GOODBYEs promise. -/
structure Sending (w : World) : Prop where
  /-- A GOODBYE in a queue stands behind the route.bind it takes back. -/
  ordered : ∀ before after connectionId channel epoch,
    w.queued = before ++ .goodbye connectionId channel epoch :: after →
    ∃ handle corr, .routeBind handle corr ∈ before ∧
      handle.1.endpoint.connectionId = connectionId ∧ handle.1.channel = channel ∧
      handle.2 = epoch
  /-- The queues hold the GOODBYEs that were queued. -/
  counted : ∀ connectionId channel epoch,
    w.queued.count (.goodbye connectionId channel epoch) =
      (w.goodbyes.filter fun goodbye => Goodbye.frame goodbye =
        .goodbye connectionId channel epoch ∧ goodbye.state = .queued).length
  expired : ∀ goodbye ∈ w.goodbyes, ∀ giveUpAt, goodbye.state = .expired giveUpAt → giveUpAt ≤ w.now
  dropped : ∀ goodbye ∈ w.goodbyes, goodbye.state = .dropped →
    goodbye.target.connectionId ∈ w.ended ∨ w.shuttingDown = true

/-- What a step does to queues and GOODBYEs. -/
inductive SendStep (w : World) : World → Prop where
  /-- It queues route.binds and hands out GOODBYEs. -/
  | more (w' : World) (binds : List ((ModuleRouteKey × UInt32) × UInt64)) (extra : List Goodbye)
      (hqueued : w'.queued = w.queued ++ binds.map fun bind => .routeBind bind.1 bind.2)
      (hgoodbyes : w'.goodbyes = w.goodbyes ++ extra)
      (hheld : ∀ goodbye ∈ extra, goodbye.state = .held)
      (hnow : w.now ≤ w'.now) (hended : w.ended ⊆ w'.ended)
      (hshutting : w.shuttingDown = true → w'.shuttingDown = true) : SendStep w w'
  /-- It moves one GOODBYE on. -/
  | sent (index : Nat) (goodbye : Goodbye) (state : GoodbyeState)
      (hget : w.goodbyes[index]? = some goodbye) (hadvances : Advances w goodbye state) :
      SendStep w (w.setGoodbye index goodbye state)

/-- A lock section hands out GOODBYEs and queues nothing. -/
theorem SendStep.ofSection (extra : List Goodbye) (hheld : ∀ goodbye ∈ extra, goodbye.state = .held)
    (hqueued : w'.queued = w.queued) (hgoodbyes : w'.goodbyes = w.goodbyes ++ extra)
    (hnow : w'.now = w.now) (hended : w'.ended = w.ended)
    (hshutting : w.shuttingDown = true → w'.shuttingDown = true) : SendStep w w' :=
  .more w' [] extra (by simp [hqueued]) hgoodbyes hheld (Nat.le_of_eq hnow.symm)
    (hended ▸ Finset.Subset.refl _) hshutting

/-- A step may do neither. -/
theorem SendStep.refl (w : World) : SendStep w w := .ofSection [] (by simp) rfl (by simp) rfl rfl id

/-- A GOODBYE that is handed out waits for its sender. -/
theorem handedOut_held {inner : ForwardingInner} :
    ∀ goodbye ∈ handedOut inner op, goodbye.state = .held := by
  intro goodbye hgoodbye
  obtain ⟨target, -, rfl⟩ := mem_map.mp hgoodbye
  rfl

/-- Every step does one of the two. -/
theorem sends_of_stepped (hstep : Stepped w w') : SendStep w w' := by
  cases hstep with
  | same => exact .refl w
  | ticked =>
    exact .more _ [] [] (by simp) (by simp) (by simp) (Nat.le_add_right _ _)
      (Finset.Subset.refl _) (fun h => h)
  | refused | opened => exact .ofSection [] (by simp) rfl rfl rfl rfl (fun h => h)
  | gaveUp | replied => exact .ofSection _ handedOut_held rfl rfl rfl rfl (fun h => h)
  | accepted | polled | rested =>
    exact .ofSection [] (by simp) rfl (by simp [World.finish, World.setPhase]) rfl rfl (fun h => h)
  | queuedBind id o =>
    exact .more _ [(o.allocation.moduleHandle, o.relay.corr)] [] rfl (by simp [World.setPhase])
      (by simp) (Nat.le_refl _) (Finset.Subset.refl _) (fun h => h)
  | marked id o =>
    refine .ofSection (markGoodbyes w o) ?_ rfl rfl rfl rfl (fun h => h)
    intro goodbye hgoodbye
    unfold markGoodbyes at hgoodbye
    split at hgoodbye
    · rw [mem_singleton.mp hgoodbye]
      rfl
    · cases hgoodbye
  | called op extra hcallable hextra =>
    refine .ofSection extra ?_ rfl rfl rfl rfl (fun h => h)
    rcases hextra with rfl | ⟨rfl, -⟩
    · exact handedOut_held
    · simp
  | shutdown => exact .ofSection _ handedOut_held rfl rfl rfl rfl (fun _ => rfl)
  | deregistered | sessionOver => exact .ofSection [] (by simp) rfl (by simp) rfl rfl (fun h => h)
  | ended =>
    exact .more _ [] [] (by simp) (by simp) (by simp) (Nat.le_refl _)
      (Finset.subset_insert _ _) (fun h => h)
  | goodbye index goodbye state hget hadvances => exact .sent index goodbye state hget hadvances

/-- A sender is done with a GOODBYE at the last stage. -/
theorem stage_le (state : GoodbyeState) : state.stage ≤ 2 := by
  cases state <;> simp [GoodbyeState.stage]

/-- A GOODBYE that moves on is where it was. -/
theorem get_setGoodbye {w : World} (hget : w.goodbyes[index]? = some goodbye) :
    (w.setGoodbye index goodbye state).goodbyes[index]? = some { goodbye with state := state } := by
  simp only [World.setGoodbye, List.getElem?_set, if_true,
    if_pos (List.getElem?_eq_some_iff.mp hget).1]

/-- A step leaves a GOODBYE where it is or takes it further. -/
theorem SendStep.goodbye_later (hstep : SendStep w w') (hget : w.goodbyes[index]? = some goodbye) :
    ∃ state, w'.goodbyes[index]? = some { goodbye with state := state } ∧
      (state = goodbye.state ∨ goodbye.state.stage < state.stage) := by
  obtain ⟨hlength, -⟩ := List.getElem?_eq_some_iff.mp hget
  cases hstep with
  | more _ binds extra hqueued hgoodbyes =>
    refine ⟨goodbye.state, ?_, .inl rfl⟩
    rw [hgoodbyes, getElem?_append_left hlength, hget]
  | sent moved other state hother hadvances =>
    by_cases heq : moved = index
    · subst heq
      rw [hget] at hother
      cases hother
      exact ⟨state, get_setGoodbye hget, .inr hadvances.later⟩
    · refine ⟨goodbye.state, ?_, .inl rfl⟩
      rw [World.setGoodbye, List.getElem?_set, if_neg heq, hget]

/-- So does a whole run. -/
theorem run_goodbye_later (later : List Event)
    (hget : (World.run earlier).goodbyes[index]? = some goodbye) :
    ∃ state, (World.run (earlier ++ later)).goodbyes[index]? =
        some { goodbye with state := state } ∧
      (state = goodbye.state ∨ goodbye.state.stage < state.stage) := by
  induction later using List.reverseRecOn with
  | nil => exact ⟨goodbye.state, by rw [append_nil, hget], .inl rfl⟩
  | append_singleton later event ih =>
    obtain ⟨state, hstate, hlater⟩ := ih
    rw [← append_assoc, run_snoc_step]
    obtain ⟨state', hstate', hlater'⟩ := (sends_of_stepped (stepped _ event)).goodbye_later hstate
    refine ⟨state', hstate', ?_⟩
    rcases hlater' with rfl | hlater'
    · exact hlater
    · rcases hlater with rfl | hlater
      · exact .inr hlater'
      · exact .inr (Nat.lt_trans hlater hlater')

/-- A GOODBYE its sender is done with stays as it is. -/
theorem run_goodbye_done (later : List Event)
    (hget : (World.run earlier).goodbyes[index]? = some goodbye) (hdone : goodbye.state.stage = 2) :
    (World.run (earlier ++ later)).goodbyes[index]? = some goodbye := by
  obtain ⟨state, hstate, hlater⟩ := run_goodbye_later later hget
  rcases hlater with rfl | hlater
  · exact hstate
  · have hle := stage_le state
    omega

/-- A GOODBYE waits for room from the time its sender found none. -/
theorem run_waited (events : List Event) (hget : (World.run events).goodbyes[index]? = some goodbye)
    (hwaited : goodbye.state = .waiting giveUpAt ∨ goodbye.state = .expired giveUpAt) :
    ∃ earlier later, events = earlier ++ later ∧
      (World.run earlier).goodbyes[index]? = some { goodbye with state := .held } ∧
      giveUpAt = (World.run earlier).now + lateModuleGoodbyeDeadline := by
  induction events using List.reverseRecOn generalizing goodbye with
  | nil => cases hget
  | append_singleton events event ih =>
    rw [run_snoc_step] at hget
    have hbefore : ∀ other, (World.run events).goodbyes[index]? = some other →
        other.state = .waiting giveUpAt ∨ other.state = .expired giveUpAt →
        ∃ earlier later, events ++ [event] = earlier ++ later ∧
          (World.run earlier).goodbyes[index]? = some { other with state := .held } ∧
          giveUpAt = (World.run earlier).now + lateModuleGoodbyeDeadline := by
      intro other hother hstate
      obtain ⟨earlier, later, hsplit, hheld, htime⟩ := ih hother hstate
      exact ⟨earlier, later ++ [event], by rw [hsplit, append_assoc], hheld, htime⟩
    have hstep := sends_of_stepped (stepped (World.run events) event)
    cases hold : (World.run events).goodbyes[index]? with
    | none =>
      exfalso
      have hshort := List.getElem?_eq_none_iff.mp hold
      generalize (World.run events).step event = w' at hstep hget
      cases hstep with
      | more _ binds extra hqueued hgoodbyes hheld =>
        rw [hgoodbyes, getElem?_append_right hshort] at hget
        rw [hheld goodbye (mem_of_getElem? hget)] at hwaited
        rcases hwaited with hwaited | hwaited <;> cases hwaited
      | sent moved other state hother =>
        rw [World.setGoodbye, List.getElem?_eq_none (by simpa using hshort)] at hget
        cases hget
    | some other =>
      generalize (World.run events).step event = w' at hstep hget
      cases hstep with
      | more _ binds extra hqueued hgoodbyes =>
        rw [hgoodbyes, getElem?_append_left (List.getElem?_eq_some_iff.mp hold).1] at hget
        exact hbefore goodbye hget hwaited
      | sent moved other' state hother hadvances =>
        simp only [World.setGoodbye, List.getElem?_set] at hget
        split at hget
        case isFalse => exact hbefore goodbye hget hwaited
        case isTrue heq =>
          subst heq
          rw [hold] at hother
          cases hother
          rw [if_pos (List.getElem?_eq_some_iff.mp hold).1] at hget
          cases hget
          rcases hwaited with rfl | rfl
          · have hheld : other.state = .held := by
              have hlater := hadvances.later
              cases hstate : other.state <;> simp_all [GoodbyeState.stage]
            refine ⟨events, [event], rfl, ?_, hadvances.waiting giveUpAt rfl⟩
            rw [hold, ← hheld]
          · exact hbefore other hold (.inl (hadvances.expired giveUpAt rfl).1)

/-- Replacing one member of a list moves one test from the old to the new. -/
theorem length_filter_set {α : Type} {l : List α} {index : Nat} {a b : α} (p : α → Bool)
    (hget : l[index]? = some a) (ha : p a = false) :
    ((l.set index b).filter p).length = (l.filter p).length + if p b then 1 else 0 := by
  induction l generalizing index with
  | nil => cases hget
  | cons head tail ih =>
    cases index with
    | zero =>
      cases hget
      rw [set_cons_zero, filter_cons, filter_cons, ha]
      cases p b <;> simp
    | succ index =>
      have htail := @ih index hget
      rw [set_cons_succ, filter_cons, filter_cons]
      split
      · rw [length_cons, length_cons, htail]
        omega
      · exact htail

/-- A member that the second of two joined lists lacks stands in the first. -/
theorem append_cons_of_notMem {α : Type} {l m before after : List α} {a : α}
    (h : l ++ m = before ++ a :: after) (ha : a ∉ m) : ∃ rest, l = before ++ a :: rest := by
  rcases append_eq_append_iff.mp h with ⟨rest, -, hm⟩ | ⟨rest, hl, hcons⟩
  · exact absurd (hm ▸ mem_append_right rest mem_cons_self) ha
  cases rest with
  | nil =>
    rw [nil_append] at hcons
    exact absurd (hcons ▸ mem_cons_self) ha
  | cons head rest =>
    rw [cons_append, List.cons.injEq] at hcons
    exact ⟨rest, hcons.1 ▸ hl⟩

/-- A GOODBYE that was handed out is for a queued bind. -/
theorem bind_of_goodbye (h : Coherent w) (hsound : OpensSound w)
    (hgoodbye : goodbye ∈ w.goodbyes) :
    ∃ id o, w.opens.get id = some o ∧ Goodbye.frame goodbye = goodbyeFrame o ∧
      .routeBind o.allocation.moduleHandle o.relay.corr ∈ w.queued := by
  obtain ⟨id, o, ho, hhandle, hconnection⟩ := h.goodbyes goodbye hgoodbye
  refine ⟨id, o, ho, frame_of_handle hhandle hconnection, ?_⟩
  have hpos : 0 < (view w id o).goodbyes :=
    count_pos_iff.mpr (mem_map.mpr ⟨goodbye, hgoodbye, hhandle⟩)
  have hbinds : 0 < (view w id o).binds := by
    rcases Nat.eq_zero_or_pos (view w id o).binds with hzero | hpos'
    · rw [((hsound id o ho).unsent hzero).2] at hpos
      exact absurd hpos (Nat.lt_irrefl 0)
    · exact hpos'
  obtain ⟨frame, hframe, hbind⟩ := mem_filterMap.mp (count_pos_iff.mp hbinds)
  cases frame with
  | goodbye => cases hbind
  | routeBind handle corr =>
    obtain ⟨id', o', ho', hsame, hcorr⟩ := h.queued handle corr hframe
    have hbound : handle = o.allocation.moduleHandle := Option.some.inj hbind
    obtain ⟨-, rfl⟩ := h.same ho' ho (.inr (hsame.symm.trans hbound))
    rw [← hbound, ← hcorr]
    exact hframe

/-- One step keeps the promises. -/
theorem SendStep.sending (h : Coherent w) (hsound : OpensSound w) (hs : Sending w)
    (hstep : SendStep w w') : Sending w' := by
  cases hstep with
  | more _ binds extra hqueued hgoodbyes hheld hnow hended hshutting =>
    have hbinds : ∀ connectionId channel epoch, ModuleFrame.goodbye connectionId channel epoch ∉
        binds.map fun bind => ModuleFrame.routeBind bind.1 bind.2 := by
      intro connectionId channel epoch hmem
      obtain ⟨bind, -, hbind⟩ := mem_map.mp hmem
      cases hbind
    constructor
    · intro before after connectionId channel epoch heq
      rw [hqueued] at heq
      obtain ⟨rest, hold⟩ := append_cons_of_notMem heq (hbinds connectionId channel epoch)
      exact hs.ordered before rest connectionId channel epoch hold
    · intro connectionId channel epoch
      have hcount := count_eq_zero.mpr (hbinds connectionId channel epoch)
      have hextra : extra.filter (fun goodbye => decide (Goodbye.frame goodbye =
          .goodbye connectionId channel epoch ∧ goodbye.state = .queued)) = [] := by
        apply filter_eq_nil_iff.mpr
        intro goodbye hgoodbye
        simp [hheld goodbye hgoodbye]
      rw [hqueued, hgoodbyes, count_append, hcount, filter_append, hextra,
        append_nil, Nat.add_zero]
      exact hs.counted connectionId channel epoch
    · rw [hgoodbyes]
      refine forall_mem_append.mpr ⟨?_, by simp +contextual [hheld]⟩
      intro goodbye hold giveUpAt hstate
      exact Nat.le_trans (hs.expired goodbye hold giveUpAt hstate) hnow
    · rw [hgoodbyes]
      refine forall_mem_append.mpr ⟨?_, by simp +contextual [hheld]⟩
      intro goodbye hold hstate
      exact (hs.dropped goodbye hold hstate).imp (fun hmem => hended hmem) hshutting
  | sent index goodbye state hget hadvances =>
    have hmem := mem_of_getElem? hget
    have hunqueued : goodbye.state ≠ .queued := by
      intro hqueued
      have hopen := hadvances.later
      rw [hqueued] at hopen
      exact absurd (stage_le state) (Nat.not_le.mpr hopen)
    have hback : ∀ other ∈ (w.setGoodbye index goodbye state).goodbyes,
        other ∈ w.goodbyes ∨ other = { goodbye with state := state } := by
      intro other hother
      exact mem_or_eq_of_mem_set hother
    constructor
    · intro before after connectionId channel epoch heq
      simp only [World.setGoodbye] at heq
      split at heq
      case isFalse => exact hs.ordered before after connectionId channel epoch heq
      rcases eq_nil_or_concat after with hnil | ⟨rest, last, hconcat⟩
      · subst hnil
        obtain ⟨hqueue, hframe⟩ := append_inj' heq rfl
        cases hframe
        obtain ⟨id, o, ho, hmeant, hbind⟩ := bind_of_goodbye h hsound hmem
        rw [hqueue] at hbind
        simp only [Goodbye.frame, goodbyeFrame, ModuleFrame.goodbye.injEq] at hmeant
        exact ⟨_, _, hbind, hmeant.1.symm, hmeant.2.1.symm, hmeant.2.2.symm⟩
      · subst hconcat
        rw [concat_eq_append, ← cons_append, ← append_assoc] at heq
        exact hs.ordered before rest connectionId channel epoch (append_inj' heq rfl).1
    · intro connectionId channel epoch
      have hfilter := @length_filter_set _ w.goodbyes index goodbye { goodbye with state := state }
        (fun goodbye => decide (Goodbye.frame goodbye = .goodbye connectionId channel epoch ∧
          goodbye.state = .queued)) hget (by simp [hunqueued])
      simp only [World.setGoodbye]
      rw [hfilter, ← hs.counted]
      by_cases hqueued : state = .queued
      · rw [if_pos hqueued, count_append, count_singleton]
        congr 1
        simp [Goodbye.frame, hqueued]
      · rw [if_neg hqueued]
        simp [hqueued]
    · intro other hother giveUpAt hstate
      rcases hback other hother with hold | rfl
      · exact hs.expired other hold giveUpAt hstate
      · exact (hadvances.expired giveUpAt hstate).2
    · intro other hother hstate
      rcases hback other hother with hold | rfl
      · exact hs.dropped other hold hstate
      · exact hadvances.dropped hstate

/-- Before the first event nothing is queued. -/
theorem sending_initial : Sending World.initial := by
  constructor <;> simp [World.initial]

/-- In every run the GOODBYEs keep their promises. -/
theorem run_sending (honce : EndpointsOnce (World.run events)) : Sending (World.run events) := by
  induction events using List.reverseRecOn with
  | nil => exact sending_initial
  | append_singleton events event ih =>
    rw [run_snoc_step] at honce ⊢
    have hbefore := endpointsOnce_before honce
    obtain ⟨hcoherent, hsound⟩ := run_sound events hbefore
    exact (sends_of_stepped (stepped _ event)).sending hcoherent hsound (ih hbefore)

/-- The route.bind of an open entered its module's queue. -/
def BindQueued (w : World) (o : RouteOpen) : Prop :=
  .routeBind o.allocation.moduleHandle o.relay.corr ∈ w.queued

instance (w : World) (o : RouteOpen) : Decidable (BindQueued w o) :=
  inferInstanceAs (Decidable (_ ∈ w.queued))

/-- The relay is neither pending nor noted as released before its mark. -/
def RelayOver (w : World) (o : RouteOpen) : Prop :=
  w.table.pendingRelays.get o.key = none ∧ o.key ∉ w.table.relaysReleasedBeforeEnqueue

instance (w : World) (o : RouteOpen) : Decidable (RelayOver w o) :=
  inferInstanceAs (Decidable (_ = none ∧ _ ∉ w.table.relaysReleasedBeforeEnqueue))

/-- What becomes of a GOODBYE handed out for an open's bind. -/
structure GoodbyeFate (w : World) (o : RouteOpen) (goodbye : Goodbye) : Prop where
  queued_once : w.queued.count (goodbyeFrame o) = if goodbye.state = .queued then 1 else 0
  after_bind : ∀ before after, w.queued = before ++ goodbyeFrame o :: after →
    .routeBind o.allocation.moduleHandle o.relay.corr ∈ before
  /-- It is dropped when its time to wait for room is over, -/
  expired : ∀ giveUpAt, goodbye.state = .expired giveUpAt → giveUpAt ≤ w.now
  /-- or when the writer is gone, or in the shutdown. -/
  dropped : goodbye.state = .dropped →
    o.relay.endpoint.connectionId ∈ w.ended ∨ w.shuttingDown = true

/-- How the route.bind of an open ended. One that is taken back has its GOODBYE
sent: its sender is done with it. -/
def EndsAs (w : World) (id : SenderId) (o : RouteOpen) : BindEnd → Prop
  | .committed => Committed w id ∧ goodbyesOn w o = []
  | .refused => ¬ Committed w id ∧ RefusedByModule w id ∧ goodbyesOn w o = []
  | .takenBack => ¬ Committed w id ∧ ¬ RefusedByModule w id ∧
      ∃ goodbye, goodbyesOn w o = [goodbye] ∧ goodbye.state.stage = 2 ∧ GoodbyeFate w o goodbye
  | .lost => ¬ Committed w id ∧ ¬ RefusedByModule w id ∧ goodbyesOn w o = [] ∧ lost w o = true

/-- The relay is over, and the sender of its GOODBYE has done its work. -/
def BindOver (w : World) (o : RouteOpen) : Prop :=
  RelayOver w o ∧ ∀ goodbye ∈ goodbyesOn w o, goodbye.state.stage = 2

instance (w : World) (o : RouteOpen) : Decidable (BindOver w o) :=
  inferInstanceAs (Decidable (_ ∧ ∀ goodbye ∈ goodbyesOn w o, _))

/-- What the senders of GOODBYEs do in a run. -/
structure GoodbyesSent (events : List Event) : Prop where
  /-- Once its sender has run, a GOODBYE waits for room or is done with, and it is
  queued where its writer had room. -/
  sender : ∀ earlier later index room runtime goodbye,
    events = earlier ++ .sendModuleRouteGoodbye index room runtime :: later →
    (World.run earlier).goodbyes[index]? = some goodbye →
    ∃ state, (World.run events).goodbyes[index]? = some { goodbye with state := state } ∧
      state ≠ .held ∧
      (goodbye.state = .held → goodbye.target.connectionId ∉ (World.run earlier).ended →
        room = true → state = .queued)
  /-- The task of a late one is done with it when there is room or its time is over. -/
  late : ∀ earlier later index room goodbye giveUpAt,
    events = earlier ++ .resumeLateGoodbye index room :: later →
    (World.run earlier).goodbyes[index]? = some goodbye → goodbye.state = .waiting giveUpAt →
    room = true ∨ giveUpAt ≤ (World.run earlier).now →
    ∃ state, (World.run events).goodbyes[index]? = some { goodbye with state := state } ∧
      state.stage = 2 ∧
      (goodbye.target.connectionId ∉ (World.run earlier).ended → room = true → state = .queued)
  /-- It waits the late deadline from when its sender found no room, no less. -/
  waited : ∀ (index : Nat) (goodbye : Goodbye) giveUpAt, (World.run events).goodbyes[index]? = some goodbye →
    goodbye.state = .waiting giveUpAt ∨ goodbye.state = .expired giveUpAt →
    ∃ earlier later, events = earlier ++ later ∧
      (World.run earlier).goodbyes[index]? = some { goodbye with state := .held } ∧
      giveUpAt = (World.run earlier).now + lateModuleGoodbyeDeadline

/-- What a run promises about the route.binds it queued. -/
structure BindsEnd (events : List Event) : Prop where
  /-- A bind ends in exactly one way when its relay is over and its GOODBYE sent. -/
  ends_once : ∀ id o, (World.run events).opens.get id = some o →
    BindQueued (World.run events) o → BindOver (World.run events) o →
    ∃! ending, EndsAs (World.run events) id o ending
  /-- Until its relay is over the open goes on and no GOODBYE is given out. -/
  pending_quiet : ∀ id o, (World.run events).opens.get id = some o →
    ¬ RelayOver (World.run events) o →
    goodbyesOn (World.run events) o = [] ∧ o.phase ≠ .finished
  /-- From then on one is given out, unless none is owed. -/
  handed_out : ∀ id o, (World.run events).opens.get id = some o →
    BindQueued (World.run events) o → RelayOver (World.run events) o →
    ¬ Committed (World.run events) id → ¬ RefusedByModule (World.run events) id →
    lost (World.run events) o = false → ∃ goodbye, goodbyesOn (World.run events) o = [goodbye]
  senders : GoodbyesSent events
  /-- An ending stays what it is. -/
  stays : ∀ earlier later, events = earlier ++ later → ∀ id o,
    (World.run earlier).opens.get id = some o → RelayOver (World.run earlier) o →
    ∃ o', (World.run events).opens.get id = some o' ∧ RelayOver (World.run events) o' ∧
      ∀ ending, EndsAs (World.run earlier) id o ending → EndsAs (World.run events) id o' ending
  goodbye_fate : ∀ id o, (World.run events).opens.get id = some o →
    ∀ goodbye ∈ goodbyesOn (World.run events) o, GoodbyeFate (World.run events) o goodbye
  /-- No GOODBYE is queued that was not handed out. -/
  goodbye_known : ∀ id o, (World.run events).opens.get id = some o →
    goodbyesOn (World.run events) o = [] → goodbyeFrame o ∉ (World.run events).queued
  /-- A release is noted only between reserving and marking. -/
  released : ∀ key ∈ (World.run events).table.relaysReleasedBeforeEnqueue, ∃ id o,
    (World.run events).opens.get id = some o ∧ o.key = key ∧ (o.phase = .sending ∨ o.phase = .sent)

section

variable (h : Coherent w) (honce : RegistersOnce w) (ho : w.opens.get id = some o)
include h honce ho

/-- The picture of an open counts the GOODBYEs of its bind. -/
theorem goodbyesOn_counted : (goodbyesOn w o = [] ↔ (view w id o).goodbyes = 0) ∧
    ((∃ goodbye, goodbyesOn w o = [goodbye]) ↔ (view w id o).goodbyes = 1) := by
  rw [← goodbyesOn_length h honce ho, length_eq_zero_iff, length_eq_one_iff]
  exact ⟨.rfl, .rfl⟩

/-- A bind that ended did so in the picture of its open. -/
theorem endsAs_view (hends : EndsAs w id o ending) : (view w id o).EndsAs ending := by
  obtain ⟨hnone, hone⟩ := goodbyesOn_counted h honce ho
  cases ending with
  | committed => exact ⟨(committed_iff w id o).mp hends.1, hnone.mp hends.2⟩
  | refused =>
    exact ⟨mt (committed_iff w id o).mpr hends.1, (refusedByModule_iff w id o).mp hends.2.1,
      hnone.mp hends.2.2⟩
  | takenBack =>
    obtain ⟨hcommitted, hrefused, goodbye, hgoodbye, -⟩ := hends
    exact ⟨mt (committed_iff w id o).mpr hcommitted, mt (refusedByModule_iff w id o).mpr hrefused,
      hone.mp ⟨goodbye, hgoodbye⟩⟩
  | lost =>
    exact ⟨mt (committed_iff w id o).mpr hends.1, mt (refusedByModule_iff w id o).mpr hends.2.1,
      hnone.mp hends.2.2.1, hends.2.2.2⟩

/-- What the picture of an open says of its bind has happened once its GOODBYE is sent. -/
theorem endsAs_of_view (hends : (view w id o).EndsAs ending)
    (hsent : ∀ goodbye, goodbyesOn w o = [goodbye] →
      goodbye.state.stage = 2 ∧ GoodbyeFate w o goodbye) : EndsAs w id o ending := by
  obtain ⟨hnone, hone⟩ := goodbyesOn_counted h honce ho
  cases ending with
  | committed => exact ⟨(committed_iff w id o).mpr hends.1, hnone.mpr hends.2⟩
  | refused =>
    exact ⟨mt (committed_iff w id o).mp hends.1, (refusedByModule_iff w id o).mpr hends.2.1,
      hnone.mpr hends.2.2⟩
  | takenBack =>
    obtain ⟨goodbye, hgoodbye⟩ := hone.mpr hends.2.2
    exact ⟨mt (committed_iff w id o).mp hends.1, mt (refusedByModule_iff w id o).mp hends.2.1,
      goodbye, hgoodbye, hsent goodbye hgoodbye⟩
  | lost =>
    exact ⟨mt (committed_iff w id o).mp hends.1, mt (refusedByModule_iff w id o).mp hends.2.1,
      hnone.mpr hends.2.2.1, hends.2.2.2⟩

end

/-- The picture of an open says whether its relay is over. -/
theorem relayOver_iff (id : SenderId) : RelayOver w o ↔ (view w id o).Ended := by
  simp only [RelayOver, View.Ended, view, Option.map_eq_none_iff, decide_eq_false_iff_not]

/-- A GOODBYE frame in the queues is the frame of the one handed out. -/
theorem goodbyeFate (h : Coherent w) (honce : RegistersOnce w) (hsound : OpensSound w)
    (hsending : Sending w) (ho : w.opens.get id = some o) (hgoodbye : goodbye ∈ goodbyesOn w o) :
    GoodbyeFate w o goodbye := by
  obtain ⟨hmem, hframe⟩ := mem_filter.mp hgoodbye
  have hframe : Goodbye.frame goodbye = goodbyeFrame o := of_decide_eq_true hframe
  have hsingle : goodbyesOn w o = [goodbye] := by
    have hlength := goodbyesOn_length h honce ho
    have hle := (hsound id o ho).goodbye_once
    obtain ⟨only, honly⟩ := length_eq_one_iff.mp
      (Nat.le_antisymm (hlength ▸ hle) (length_pos_of_mem hgoodbye))
    rw [honly] at hgoodbye ⊢
    rw [mem_singleton.mp hgoodbye]
  constructor
  case queued_once =>
    have hcounted := hsending.counted o.relay.endpoint.connectionId o.relay.slots.moduleChannel
      o.relay.slots.moduleEpoch
    have hsplit : (w.goodbyes.filter fun goodbye => decide (Goodbye.frame goodbye =
        goodbyeFrame o ∧ goodbye.state = .queued)) =
        (goodbyesOn w o).filter fun goodbye => goodbye.state = .queued := by
      rw [goodbyesOn, filter_filter]
      congr 1
      funext other
      rw [Bool.decide_and, Bool.and_comm]
    rw [show goodbyeFrame o = .goodbye o.relay.endpoint.connectionId o.relay.slots.moduleChannel
      o.relay.slots.moduleEpoch from rfl, hcounted]
    change (w.goodbyes.filter fun goodbye => decide (Goodbye.frame goodbye =
        goodbyeFrame o ∧ goodbye.state = .queued)).length = _
    rw [hsplit, hsingle, filter_singleton]
    split <;> simp_all
  case after_bind =>
    intro before after hqueued
    obtain ⟨handle, corr, hbind, hconnection, hchannel, hepoch⟩ :=
      hsending.ordered before after _ _ _ hqueued
    have hframes : ModuleFrame.routeBind handle corr ∈ w.queued := by
      rw [hqueued]
      exact mem_append_left _ hbind
    obtain ⟨id', o', ho', hsame, hcorr⟩ := h.queued handle corr hframes
    have hmeant : goodbyeFrame o' = goodbyeFrame o := by
      rw [hsame] at hconnection hchannel hepoch
      simp only [goodbyeFrame, ModuleFrame.goodbye.injEq]
      exact ⟨hconnection, hchannel, hepoch⟩
    obtain ⟨-, rfl⟩ := h.same ho' ho (.inr (eq_of_goodbyeFrame h honce ho' ho hmeant))
    rw [← hsame, ← hcorr]
    exact hbind
  case expired =>
    exact hsending.expired goodbye hmem
  intro hstate
  have hconnection : goodbye.target.connectionId = o.relay.endpoint.connectionId := by
    simp only [Goodbye.frame, goodbyeFrame, ModuleFrame.goodbye.injEq] at hframe
    exact hframe.1
  rw [← hconnection]
  exact hsending.dropped goodbye hmem hstate

/-- A queued bind is queued once. -/
theorem binds_of_queued
    (hsound : Sound (view w id o)) (hbind : BindQueued w o) : (view w id o).binds = 1 := by
  have hpos : 0 < (view w id o).binds :=
    count_pos_iff.mpr (mem_filterMap.mpr ⟨_, hbind, rfl⟩)
  have hle := hsound.binds_le
  omega

/-- A run whose connections register once does so up to any point. -/
theorem registersOnce_take (h : RegistersOnce (World.run (earlier ++ later))) :
    RegistersOnce (World.run earlier) := by
  induction later using List.reverseRecOn with
  | nil => rwa [append_nil] at h
  | append_singleton later event ih =>
    rw [← append_assoc, run_snoc_step] at h
    exact ih (registersOnce_before h)

/-- A GOODBYE that takes its bind back does so for good. -/
theorem goodbyesOn_stays (h : Coherent (World.run (earlier ++ later)))
    (honce : RegistersOnce (World.run (earlier ++ later)))
    (ho : (World.run (earlier ++ later)).opens.get id = some o') (hrelay : o'.relay = o.relay)
    (hone : (view (World.run (earlier ++ later)) id o').goodbyes = 1)
    (hgoodbye : goodbyesOn (World.run earlier) o = [goodbye]) (hdone : goodbye.state.stage = 2) :
    goodbyesOn (World.run (earlier ++ later)) o' = [goodbye] := by
  obtain ⟨only, honly⟩ := (goodbyesOn_counted h honce ho).2.mpr hone
  have hmem : goodbye ∈ goodbyesOn (World.run earlier) o := by
    rw [hgoodbye]
    exact mem_singleton.mpr rfl
  obtain ⟨hin, hframe⟩ := mem_filter.mp hmem
  obtain ⟨index, hget⟩ := mem_iff_getElem?.mp hin
  have hlater : goodbye ∈ goodbyesOn (World.run (earlier ++ later)) o' := by
    refine mem_filter.mpr ⟨mem_of_getElem? (run_goodbye_done later hget hdone), ?_⟩
    rw [goodbyeFrame, hrelay]
    exact hframe
  rw [honly] at hlater ⊢
  rw [mem_singleton.mp hlater]

/-- In every run the senders of GOODBYEs do their work. -/
theorem run_goodbyesSent (events : List Event) : GoodbyesSent events := by
  constructor
  case sender =>
    intro earlier later index room runtime goodbye hsplit hget
    rw [← singleton_append, ← append_assoc] at hsplit
    subst hsplit
    have hsent : ∃ state, (World.run (earlier ++ [.sendModuleRouteGoodbye index room
          runtime])).goodbyes[index]? = some { goodbye with state := state } ∧ state ≠ .held ∧
        (goodbye.state = .held → goodbye.target.connectionId ∉ (World.run earlier).ended →
          room = true → state = .queued) := by
      rw [run_snoc_step]
      simp only [World.step, World.sendModuleRouteGoodbye, hget]
      split_ifs with hheld hended hroom hruntime
      · exact ⟨goodbye.state, hget, hheld, fun h => absurd h hheld⟩
      · exact ⟨_, get_setGoodbye hget, by simp, fun _ hopen => absurd hended hopen⟩
      · exact ⟨_, get_setGoodbye hget, by simp, fun _ _ _ => rfl⟩
      · exact ⟨_, get_setGoodbye hget, by simp, fun _ _ htrue => absurd htrue hroom⟩
      · exact ⟨_, get_setGoodbye hget, by simp, fun _ _ htrue => absurd htrue hroom⟩
    obtain ⟨state, hstate, hran, hroom⟩ := hsent
    obtain ⟨state', hstate', hlater⟩ := run_goodbye_later later hstate
    refine ⟨state', hstate', ?_, ?_⟩
    · rintro rfl
      rcases hlater with hsame | hlater
      · exact hran hsame.symm
      · exact absurd hlater (Nat.not_lt_zero _)
    · intro hheld hopen htrue
      have hqueued := hroom hheld hopen htrue
      subst hqueued
      rw [run_goodbye_done later hstate rfl] at hstate'
      exact (congrArg Goodbye.state (Option.some.inj hstate')).symm
  case late =>
    intro earlier later index room goodbye giveUpAt hsplit hget hwaiting hready
    rw [← singleton_append, ← append_assoc] at hsplit
    subst hsplit
    have hsent : ∃ state, (World.run (earlier ++ [.resumeLateGoodbye index
          room])).goodbyes[index]? = some { goodbye with state := state } ∧ state.stage = 2 ∧
        (goodbye.target.connectionId ∉ (World.run earlier).ended → room = true →
          state = .queued) := by
      rw [run_snoc_step]
      simp only [World.step, World.resumeLateGoodbye, hget, hwaiting]
      split_ifs with hended hroom hlate
      · exact ⟨_, get_setGoodbye hget, rfl, fun hopen => absurd hended hopen⟩
      · exact ⟨_, get_setGoodbye hget, rfl, fun _ _ => rfl⟩
      · exact ⟨_, get_setGoodbye hget, rfl, fun _ htrue => absurd htrue hroom⟩
      · exact absurd hready (not_or.mpr ⟨hroom, hlate⟩)
    obtain ⟨state, hstate, hdone, hroom⟩ := hsent
    exact ⟨state, run_goodbye_done later hstate hdone, hdone, hroom⟩
  case waited => exact fun index goodbye giveUpAt => run_waited events

/-- A module that stops reading: its GOODBYE finds no room in time. -/
def wedgedModule : List Event :=
  queuedOpen ++ [.tick 100, .poll 0, .timeOut 0,
   .sendModuleRouteGoodbye 0 false true, .tick 30000, .resumeLateGoodbye 0 false]

/-- A handler still holds the GOODBYE of its connection's first session while
the second session opens a route on the same channel and epoch. -/
def secondSession : List Event :=
  queuedOpen ++ [.tick 100, .poll 0, .timeOut 0,
   .deregister 1, .call (.cleanupConnection 1), .sessionOver 1,
   .call (.registerModuleConnection ⟨1, "aft", 1, .serial, ⟨1⟩, true⟩),
   .openRoute ⟨2, ⟨2⟩, 1, 8, "aft", .direct, none, none, 300, false, 0⟩,
   .queueBind 1, .mark 1, .reply 1 1 .accepted ⟨0, false, false, 0, 0, false⟩, .wake 1,
   .sendModuleRouteGoodbye 0 true true]

end Subconscious.RelayEndings
