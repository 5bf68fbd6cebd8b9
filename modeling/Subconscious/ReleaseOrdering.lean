import Subconscious.ReleaseLaws

/-!
# The order of a run and of a train

A run goes through its phases in the order of the plan and through the effects
of a phase in the order of the approval. An effect that waits for its probe does
not stop the run. In a plan nothing that may refuse follows an irreversible
phase, but a rebind may bring such a phase into a train that has published.
-/

namespace Subconscious.ReleaseOrdering

open Programs ReleaseRecords ReleaseStreams ReleaseJournal ReleaseOrchestrator ReleaseDurability
open ReleaseRuns ReleaseHistories ReleaseLaws

variable [DecidableEq Byte]

/-- The public effects of phases, in the order of the phases. -/
def effectsOf (plan : ReleasePlan) (phases : List PlannedPhase) : List PublicEffect :=
  phases.flatMap fun phase => effectsForPhase plan phase.instanceId

/-- The public effects belong to irreversible phases. -/
def EffectsIrreversible (plan : ReleasePlan) : Prop :=
  ∀ effect ∈ plan.publicEffects, ∀ phase ∈ plan.phases, phase.instanceId = effect.phase →
    classify phase.phaseType = some .irreversible

/-- The effects of earlier phases are due. -/
theorem mem_dueEffects (hplan : EffectsIrreversible plan) (hphases : plan.phases = before ++ after)
    (h : effect ∈ effectsOf plan before) : effect ∈ dueEffects plan before := by
  obtain ⟨phase, hphase, heffect⟩ := List.mem_flatMap.mp h
  obtain ⟨hpublic, hname⟩ := List.mem_filter.mp heffect
  have hmem : phase ∈ plan.phases := by
    rw [hphases]
    exact List.mem_append_left _ hphase
  have hclass := hplan effect hpublic phase hmem (of_decide_eq_true hname).symm
  refine List.mem_flatMap.mpr ⟨phase, hphase, ?_⟩
  rw [if_pos hclass]
  exact heffect

/-- While no probe of a run was undecided, an executor is called, and a phase
without effects is run, only after every effect that comes earlier was executed
or reconciled in that run. -/
theorem run_settles_earlier_effects (moments : List (Moment Byte)) (episode : Episode Byte)
    (hepisode : episode ∈ (historyOf codecs store moments).episodes) (plan : ReleasePlan)
    (hactivity : episode.activity = .execute plan) (hplan : EffectsIrreversible plan)
    (earlier later : Log Byte) (step : Step (machine Byte) (World Byte))
    (hlog : episode.log = earlier ++ step :: later) (hdecided : ¬ Undecided earlier) :
    (∀ admitted, step.call = .execute admitted → ∃ before phase after effects effect rest,
      plan.phases = before ++ phase :: after ∧
        effectsForPhase plan phase.instanceId = effects ++ effect :: rest ∧
        admitted.effect = effectRequest plan effect ∧
        ∀ other ∈ effectsOf plan before ++ effects, SettledBy codecs store plan other earlier) ∧
      ∀ phase, step.call = .runPhase phase → ∃ before after,
        plan.phases = before ++ phase :: after ∧
          ∀ other ∈ effectsOf plan before, SettledBy codecs store plan other earlier := by
  obtain ⟨past, future, hsplit⟩ := List.append_of_mem hepisode
  obtain ⟨js, is, hlawful⟩ := historyOf_lawful hsplit hlog
  rw [hactivity] at hlawful
  refine ⟨?_, ?_⟩
  · intro admitted hcall
    obtain ⟨before, phase, after, effects, effect, rest, hphases, -, heffects, hrequest, hreached⟩ :=
      (hlawful.execute admitted hcall).placed
    refine ⟨before, phase, after, effects, effect, rest, hphases, heffects, hrequest, ?_⟩
    intro other hother
    refine hreached.settled.resolve_left hdecided other ?_
    rcases List.mem_append.mp hother with hmem | hmem
    · exact List.mem_append_left _ (mem_dueEffects hplan hphases hmem)
    · exact List.mem_append_right _ hmem
  · intro phase hcall
    obtain ⟨before, after, hphases, hreached⟩ := hlawful.runPhase phase hcall
    refine ⟨before, after, hphases, ?_⟩
    intro other hother
    exact hreached.settled.resolve_left hdecided other
      (List.mem_append_left _ (mem_dueEffects hplan hphases hother))

/-- The phase instances that were run, in order. -/
def ranPhases (log : Log Byte) : List PhaseInstanceId :=
  log.filterMap fun step => match step.call with
    | .runPhase phase => some phase.instanceId
    | _ => none

/-- A tag and its announcement are pushed, and then a notice is sent. -/
def pairPlan : ReleasePlan :=
  { smallPlan with
    phases := [⟨"tag", "tag", false⟩, ⟨"notice", "notify", false⟩]
    publicEffects := [⟨"tag", "push", none⟩, ⟨"tag", "announce", none⟩] }

/-- The plan is run, and the first probe cannot decide or finds its effect absent. -/
def pairRun (first : ProbeResult) : List (Moment Letter) :=
  let answers := List.replicate 200 (willing (fun request =>
    if request.operation = "push" then first else .absent smallEvidence) fun _ => .ok smallEvidence)
  [(.pin ⟨"first", "text"⟩, answers), (.execute pairPlan, answers)]

/-- What a history ran: the operations invoked, the phases run, and what was returned. -/
def summary (moments : List (Moment Letter)) :
    List (List OperationKey × List PhaseInstanceId × Option Returned) :=
  (smallHistory moments).episodes.map fun episode =>
    (invoked episode.log, ranPhases episode.log, episode.returned)

/-- The first effect waits, and yet the second one is executed and the notice is sent. -/
theorem pair_run_passes_waiting :
    summary (pairRun (.undecidable "slow" 0 0)) =
      [([], [], some (.pinned (.ok ⟨"first", "text"⟩))),
       ([⟨"train", "tag", "tag", "announce", "commit"⟩], ["notice"],
        some (.executed (.ok [.awaitingProbe, .executed smallEvidence])))] := by
  decide +kernel

/-- Whether some probe could not decide. -/
def undecidedIn (log : Log Byte) : Bool :=
  log.any fun step => match step.call, step.answer with
    | .probe _, .ok (.undecidable _ _ _) => true
    | _, _ => false

omit [DecidableEq Byte] in
/-- The test finds an undecided probe. -/
theorem undecidedIn_of_undecided (h : Undecided log) : undecidedIn log = true := by
  obtain ⟨world, request, reason, retry, settle, hmem⟩ := h
  exact List.any_eq_true.mpr ⟨_, hmem, rfl⟩

/-- Before the announcement the tag was settled. -/
theorem run_settles_earlier_effects_pair :
    ∃ episode ∈ (smallHistory (pairRun (.absent smallEvidence))).episodes,
    ∃ earlier step later admitted,
      episode.log = earlier ++ step :: later ∧ step.call = .execute admitted ∧
        admitted.effect.key = ⟨"train", "tag", "tag", "announce", "commit"⟩ ∧
        ∃ before phase after effects effect rest, pairPlan.phases = before ++ phase :: after ∧
          effectsForPhase pairPlan phase.instanceId = effects ++ effect :: rest ∧
          admitted.effect = effectRequest pairPlan effect ∧
          ∀ other ∈ effectsOf pairPlan before ++ effects,
            SettledBy halfCodecs smallStore pairPlan other earlier := by
  have hinvoked : ⟨"train", "tag", "tag", "announce", "commit"⟩ ∈ invoked
      ((smallHistory (pairRun (.absent smallEvidence))).episodes.flatMap Episode.log) := by
    decide +kernel
  have hruns : ∀ episode ∈ (smallHistory (pairRun (.absent smallEvidence))).episodes,
      invoked episode.log ≠ [] → episode.activity = .execute pairPlan ∧ undecidedIn episode.log = false := by
    decide +kernel
  obtain ⟨before, episode, after, hepisodes, hmem⟩ := exists_episode_of_invoked hinvoked
  obtain ⟨earlier, step, later, admitted, hlog, hcall, hkey⟩ := exists_call_of_invoked hmem
  have hepisode : episode ∈ (smallHistory (pairRun (.absent smallEvidence))).episodes := by
    rw [hepisodes]
    exact List.mem_append_right _ List.mem_cons_self
  obtain ⟨hactivity, hdecided⟩ := hruns episode hepisode (List.ne_nil_of_mem hmem)
  refine ⟨episode, hepisode, earlier, step, later, admitted, hlog, hcall, hkey, ?_⟩
  refine (run_settles_earlier_effects _ episode hepisode pairPlan hactivity
    (by unfold EffectsIrreversible; decide) earlier later step hlog ?_).1 admitted hcall
  intro hundecided
  have hany := undecidedIn_of_undecided (hundecided.mono (List.prefix_append earlier (step :: later)))
  rw [← hlog, hdecided] at hany
  cases hany

omit [DecidableEq Byte] in
/-- A phase that was run is among the phases run. -/
theorem mem_ranPhases (h : RanIn phase log) : phase.instanceId ∈ ranPhases log := by
  obtain ⟨world, answer, hmem⟩ := h
  exact List.mem_filterMap.mpr ⟨_, hmem, rfl⟩

/-- After an irreversible phase nothing may refuse. -/
theorem validatePhases_some (h : validatePhases (some first) phases = .ok ()) :
    ∀ phase ∈ phases, classify phase.phaseType ≠ some .refusalCapable := by
  induction phases with
  | nil => nofun
  | cons phase phases ih =>
    unfold validatePhases at h
    cases hclass : classify phase.phaseType with
    | none =>
      rw [hclass] at h
      cases h
    | some phaseClass =>
      rw [hclass] at h
      cases phaseClass with
      | refusalCapable => cases h
      | _ =>
        intro other hother
        rcases List.mem_cons.mp hother with rfl | hmem
        · rw [hclass]
          exact nofun
        · exact ih h other hmem

/-- In a plan the registry accepts, nothing that may refuse follows an irreversible phase. -/
theorem validatePhases_order (h : validatePhases first (before ++ phase :: after) = .ok ())
    (hclass : classify phase.phaseType = some .irreversible) :
    ∀ other ∈ after, classify other.phaseType ≠ some .refusalCapable := by
  induction before generalizing first with
  | nil =>
    rw [List.nil_append] at h
    unfold validatePhases at h
    rw [hclass] at h
    cases first with
    | none | some => exact validatePhases_some h
  | cons head before ih =>
    rw [List.cons_append] at h
    unfold validatePhases at h
    cases hhead : classify head.phaseType with
    | none =>
      rw [hhead] at h
      cases h
    | some phaseClass =>
      rw [hhead] at h
      cases first <;> cases phaseClass
      case some.refusalCapable => cases h
      all_goals exact ih h

/-- Before an executor is called, every phase of the plan that may refuse was run. -/
theorem ran_of_executes {world : World Byte} (h : Executes c earlier world admitted)
    (hphase : phase ∈ c.plan.phases) (hclass : classify phase.phaseType = some .refusalCapable) :
    phase.instanceId ∈ ranPhases earlier := by
  obtain ⟨before, last, after, effects, effect, rest, hphases, hlast, -, -, hreached⟩ := h.placed
  have hvalid := hreached.valid
  unfold validatePlan at hvalid
  rw [hphases] at hphase hvalid
  rcases List.mem_append.mp hphase with hmem | hmem
  · refine mem_ranPhases (hreached.ran phase hmem ?_)
    rw [hclass]
    exact nofun
  rcases List.mem_cons.mp hmem with rfl | hafter
  · rw [hclass] at hlast
    cases hlast
  · exact absurd hclass (validatePhases_order hvalid hlast phase hafter)

/-- A phase instance that may refuse runs for the first time only while the
train has invoked nothing, if every plan under which an earlier run invoked an
executor has the instance too. -/
theorem refusals_first_run_uninvoked (moments : List (Moment Byte))
    (before after : List (Episode Byte)) (episode : Episode Byte) (earlier later : Log Byte)
    (step : Step (machine Byte) (World Byte)) (phase : PlannedPhase)
    (hepisodes : (historyOf codecs store moments).episodes = before ++ episode :: after)
    (hlog : episode.log = earlier ++ step :: later) (hcall : step.call = .runPhase phase)
    (hclass : classify phase.phaseType = some .refusalCapable)
    (hfirst : phase.instanceId ∉ ranPhases (before.flatMap Episode.log ++ earlier))
    (hplans : ∀ other ∈ before, ∀ known, other.activity = .execute known → invoked other.log ≠ [] →
      ∃ same ∈ known.phases, same.instanceId = phase.instanceId ∧
        classify same.phaseType = some .refusalCapable) :
    invoked (before.flatMap Episode.log ++ earlier) = [] := by
  rw [List.eq_nil_iff_forall_not_mem]
  intro key hkey
  rw [invoked_append] at hkey
  refine hfirst ?_
  unfold ranPhases
  rw [List.filterMap_append]
  rcases List.mem_append.mp hkey with hmem | hmem
  · obtain ⟨past, other, between, rfl, hinvoked⟩ := exists_episode_of_invoked hmem
    obtain ⟨first, made, rest, admitted, hmade, hexecute, -⟩ := exists_call_of_invoked hinvoked
    have hsplit : (historyOf codecs store moments).episodes =
        past ++ other :: (between ++ episode :: after) := by
      rw [hepisodes, List.append_assoc]
      rfl
    obtain ⟨js, is, hlawful⟩ := historyOf_lawful hsplit hmade
    have hexecutes := hlawful.execute admitted hexecute
    have hrun := activity_of_executes hexecutes rfl
    obtain ⟨same, hsame, hname, hrefuses⟩ := hplans other
      (List.mem_append_right _ List.mem_cons_self) _ hrun (List.ne_nil_of_mem hinvoked)
    have hran := ran_of_executes hexecutes hsame hrefuses
    rw [hname] at hran
    obtain ⟨call, hcallMem, hcallRan⟩ := List.mem_filterMap.mp hran
    refine List.mem_append_left _ (List.mem_filterMap.mpr ⟨call, ?_, hcallRan⟩)
    refine List.mem_flatMap.mpr ⟨other, List.mem_append_right _ List.mem_cons_self, ?_⟩
    rw [hmade]
    exact List.mem_append_left _ hcallMem
  · obtain ⟨js, is, hlawful⟩ := historyOf_lawful hepisodes hlog
    obtain ⟨front, back, hphases, -⟩ := hlawful.runPhase phase hcall
    obtain ⟨first, made, rest, admitted, rfl, hexecute, -⟩ := exists_call_of_invoked hmem
    have hsplit : episode.log = first ++ made :: (rest ++ step :: later) := by
      rw [hlog, List.append_assoc]
      rfl
    obtain ⟨js', is', hlawful'⟩ := historyOf_lawful hepisodes hsplit
    have hmember : phase ∈ (Activity.plan episode.activity).phases := by
      rw [hphases]
      exact List.mem_append_right _ List.mem_cons_self
    have hran := ran_of_executes (hlawful'.execute admitted hexecute) hmember hclass
    obtain ⟨call, hcallMem, hcallRan⟩ := List.mem_filterMap.mp hran
    exact List.mem_append_right _
      (List.mem_filterMap.mpr ⟨call, List.mem_append_left _ hcallMem, hcallRan⟩)

/-- The check of the small train runs before anything is invoked. -/
theorem refusals_first_run_uninvoked_small : ∃ before episode after earlier step later phase,
    (smallHistory (smallRun publishing)).episodes = before ++ episode :: after ∧
      episode.log = earlier ++ step :: later ∧
      step.call = .runPhase phase ∧ phase.instanceId = "check" ∧
      invoked (before.flatMap Episode.log ++ earlier) = [] := by
  have hran : ranPhases ((smallHistory (smallRun publishing)).episodes.flatMap Episode.log) =
      ["check"] := by decide +kernel
  have hruns : ∀ episode ∈ (smallHistory (smallRun publishing)).episodes,
      invoked episode.log ≠ [] → episode.activity = .execute smallPlan := by decide +kernel
  have hclasses : (((smallHistory (smallRun publishing)).episodes.flatMap Episode.log).all
        fun step => match step.call with
          | .runPhase phase => classify phase.phaseType == some .refusalCapable
          | _ => true) = true := by decide +kernel
  have hcheck := List.mem_singleton_self "check"
  rw [← hran] at hcheck
  obtain ⟨step, hstep, hname⟩ := List.mem_filterMap.mp hcheck
  obtain ⟨episode, hepisode, hmem⟩ := List.mem_flatMap.mp hstep
  obtain ⟨before, after, hepisodes⟩ := List.append_of_mem hepisode
  obtain ⟨earlier, later, hlog⟩ := List.append_of_mem hmem
  have hclass := List.all_eq_true.mp hclasses step hstep
  split at hname
  case h_2 => cases hname
  rename_i phase hcall
  rw [hcall] at hclass
  have hsame : phase.instanceId = "check" := Option.some.inj hname
  refine ⟨before, episode, after, earlier, step, later, phase, hepisodes, hlog, hcall, hsame, ?_⟩
  refine refusals_first_run_uninvoked _ before after episode earlier later step phase hepisodes
    hlog hcall (beq_iff_eq.mp hclass) ?_ ?_
  · have hparts : ranPhases (before.flatMap Episode.log ++ earlier) ++
        ranPhases (step :: (later ++ after.flatMap Episode.log)) = ["check"] := by
      unfold ranPhases at hran ⊢
      rw [← hran, ← List.filterMap_append, hepisodes, List.flatMap_append, List.flatMap_cons, hlog]
      simp only [List.append_assoc, List.cons_append]
    rcases List.append_eq_singleton_iff.mp hparts with ⟨hnone, -⟩ | ⟨-, hno⟩
    · rw [hnone]
      exact List.not_mem_nil
    unfold ranPhases at hno
    simp only [List.filterMap_cons, hcall] at hno
    cases hno
  · intro other hother known hknown hinvoked
    have hmember : other ∈ before ++ episode :: after := List.mem_append_left _ hother
    rw [← hepisodes] at hmember
    rw [hruns other hmember hinvoked] at hknown
    cases hknown
    exact ⟨⟨"check", "preflight", false⟩, by decide, hsame.symm, rfl⟩

/-- The plan after a rebind that adds a check. -/
def widenedPlan : ReleasePlan :=
  { smallPlan with
    declarationDigest := "second"
    phases := [⟨"check", "preflight", false⟩, ⟨"gates", "gates_local", false⟩, ⟨"tag", "tag", false⟩] }

/-- The small train publishes its tag, is rebound, and the widened plan is run. -/
def widenedRun : List (Moment Letter) :=
  smallRun publishing ++
    [(.confirmRebind ⟨"first", "text", ⟨"second", "other text"⟩⟩ .confirmed, finding),
     (.execute widenedPlan, finding)]

/-- The added check runs for the first time after the tag was pushed. -/
theorem widened_run_checks_late :
    (summary widenedRun).map (fun entry => (entry.1, entry.2.1)) =
      [([], []), ([⟨"train", "tag", "tag", "push", "commit"⟩], ["check"]), ([], []),
       ([], ["check", "gates"])] := by
  decide +kernel

end Subconscious.ReleaseOrdering
