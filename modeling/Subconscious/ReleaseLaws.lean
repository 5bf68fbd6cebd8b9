import Subconscious.ReleaseTrains

/-!
# Laws over the history of a train

The invariant of a history is what a command keeps. From it follow the laws of
the release machine: an operation is invoked at most once, after its intent, and
under an approval of the plan that is run.
-/

namespace Subconscious.ReleaseLaws

open Programs ReleaseRecords ReleaseStreams ReleaseJournal ReleaseOrchestrator ReleaseDurability
open ReleaseSpecs ReleaseRuns ReleaseEffects ReleasePhases ReleaseHistories ReleaseTrains

variable [DecidableEq Byte] (codecs : Codecs Byte) (store : JournalStore)

/-- A plan without public effects, under which nothing is approved. -/
def barren : ReleasePlan where
  repository := ""
  train := ""
  intendedCommit := ""
  declarationDigest := ""
  releaseIdentity := .runId ""
  phases := []
  artifacts := []
  firstPublicTrigger := none
  publicEffects := []
  finalizedArtifacts := []

/-- The plan of a run, and the barren one of another command. -/
def Activity.plan : Activity → ReleasePlan
  | .execute plan => plan
  | _ => barren

/-- What every history keeps. -/
structure Kept (history : History Byte) (js : List JournalRecord) (is : List IntentRecord) :
    Prop where
  journal : Holds codecs.journal js history.world.journal
  intents : Holds codecs.intents is history.world.intents
  once : (invoked history.log).Nodup
  kept : ∀ key ∈ invoked history.log, key ∈ keysOf is
  confirmed : Confirmed codecs history.log history.world.approval js
  lawful : Each (fun before episode => ∃ js is, Each (Lawful ⟨codecs, store,
    Activity.plan episode.activity, before.flatMap Episode.log, js, is⟩) episode.log)
      history.episodes

variable {codecs store}

variable {earlier : Log Byte}

/-- An executor is called by runs only. -/
theorem activity_of_executes (h : Executes c earlier world admitted)
    (hplan : c.plan = Activity.plan activity) : activity = .execute c.plan := by
  have hbuilt := h.approved.built
  rw [hplan] at hbuilt ⊢
  cases activity with
  | execute => rfl
  | _ => cases hbuilt

/-- The course of the next command. -/
abbrev course (codecs : Codecs Byte) (store : JournalStore) (history : History Byte)
    (activity : Activity) (js : List JournalRecord) (is : List IntentRecord) : Course Byte :=
  ⟨codecs, store, Activity.plan activity, history.log, js, is⟩

/-- What a history keeps is what its next command starts from. -/
theorem Kept.sound (h : Kept codecs store history js is) (activity : Activity) :
    Sound (course codecs store history activity js is) js is ⟨history.world, []⟩ := by
  refine ⟨?_, ?_, each_nil, ?_, List.prefix_refl _, [], (List.append_nil _).symm, ?_⟩
  · rw [List.append_nil]
    exact h.once
  · rw [List.append_nil]
    exact h.kept
  · rw [List.append_nil]
    exact h.confirmed
  · nofun

variable (codecs store) in
/-- What one more command keeps, and what it returned if it ended. -/
structure Extended (history : History Byte) (moment : Moment Byte) (js : List JournalRecord)
    (is : List IntentRecord) (js' : List JournalRecord) (is' : List IntentRecord) : Prop where
  kept : Kept codecs store (history.extend codecs store moment) js' is'
  sound : Sound (course codecs store history moment.1 js is) js' is'
    (history.ran codecs store moment).1
  commanded : ∀ returned, finished (history.ran codecs store moment).2 = some returned →
    Commanded (course codecs store history moment.1 js is) is js returned
      (history.ran codecs store moment).1

/-- One more command, finished or not. -/
theorem Kept.extend (h : Kept codecs store history js is) (moment : Moment Byte) :
    ∃ js' is', Extended codecs store history moment js is js' is' := by
  have hsound := h.sound moment.1
  have hdisk : Disk codecs js is (⟨history.world, []⟩ : Now Byte) := ⟨h.journal, h.intents⟩
  have hensures : Ensures perform Eq (Safe (course codecs store history moment.1 js is))
      (moment.1.program codecs store)
      (Commanded (course codecs store history moment.1 js is) is js) ⟨history.world, []⟩ :=
    activity_ensures (fun other hother => by rw [hother]; rfl) hdisk hsound
  obtain ⟨⟨js', is', hdisk', hsound'⟩, hpost⟩ := hensures.run ⟨js, is, hdisk, hsound⟩ moment.2
  refine ⟨js', is', ⟨hdisk'.journal, hdisk'.intents, ?_, ?_, ?_, ?_⟩, hsound', ?_⟩
  · rw [log_extend]
    exact hsound'.once
  · rw [log_extend]
    exact hsound'.kept
  · rw [log_extend]
    exact hsound'.confirmed
  · exact h.lawful.snoc ⟨js, is, hsound'.lawful⟩
  intro returned hfinished
  cases hleft : (history.ran codecs store moment).2 with
  | call made next =>
    rw [hleft] at hfinished
    cases hfinished
  | done other =>
    rw [hleft] at hfinished
    cases hfinished
    exact hpost _ hleft

/-- Every history keeps it. -/
theorem historyOf_kept (codecs : Codecs Byte) :
    ∃ js is, Kept codecs store (historyOf codecs store moments) js is := by
  induction moments using List.reverseRecOn with
  | nil => exact ⟨[], [], holds_lines, holds_lines, List.nodup_nil, nofun, nofun, each_nil⟩
  | append_singleton moments moment ih =>
    obtain ⟨js, is, hkept⟩ := ih
    obtain ⟨js', is', hextended⟩ := hkept.extend moment
    rw [historyOf_snoc]
    exact ⟨js', is', hextended.kept⟩

/-- What has to hold of the steps of an episode. -/
theorem historyOf_lawful
    (hepisodes : (historyOf codecs store moments).episodes = before ++ episode :: after)
    (hlog : episode.log = earlier ++ step :: later) :
    ∃ js is, Lawful ⟨codecs, store, Activity.plan episode.activity, before.flatMap Episode.log, js,
      is⟩ earlier step := by
  obtain ⟨js', is', hkept⟩ := historyOf_kept codecs
  obtain ⟨js, is, hlawful⟩ := hkept.lawful before episode after hepisodes
  exact ⟨js, is, hlawful earlier step later hlog⟩

omit [DecidableEq Byte] in
/-- An invoked operation was called. -/
theorem exists_call_of_invoked {log : Log Byte} (h : key ∈ invoked log) :
    ∃ earlier step later admitted, log = earlier ++ step :: later ∧
      step.call = .execute admitted ∧ admitted.effect.key = key := by
  obtain ⟨step, hstep, hkey⟩ := List.mem_filterMap.mp h
  obtain ⟨earlier, later, hlog⟩ := List.append_of_mem hstep
  split at hkey
  case h_1 admitted hcall =>
    exact ⟨earlier, step, later, admitted, hlog, hcall, Option.some.inj hkey⟩
  case h_2 => cases hkey

omit [DecidableEq Byte] in
/-- An operation that episodes invoked was invoked in one of them. -/
theorem exists_episode_of_invoked {episodes : List (Episode Byte)}
    (h : key ∈ invoked (episodes.flatMap Episode.log)) : ∃ before episode after,
      episodes = before ++ episode :: after ∧ key ∈ invoked episode.log := by
  obtain ⟨step, hstep, hkey⟩ := List.mem_filterMap.mp h
  obtain ⟨episode, hepisode, hlog⟩ := List.mem_flatMap.mp hstep
  obtain ⟨before, after, hbefore⟩ := List.append_of_mem hepisode
  exact ⟨before, episode, after, hbefore, List.mem_filterMap.mpr ⟨step, hlog, hkey⟩⟩

/-- Over every history an operation is invoked at most once. Each invocation is
made by a run, after the probe of that run answered absent, and after an intent
of the operation became durable when neither an intent nor a completion of it
was on disk. -/
theorem history_invokes_once (moments : List (Moment Byte)) :
    (invoked (historyOf codecs store moments).log).Nodup ∧
      ∀ episode ∈ (historyOf codecs store moments).episodes, ∀ earlier step later admitted,
        episode.log = earlier ++ step :: later → step.call = .execute admitted →
          (∃ plan, episode.activity = .execute plan) ∧ Foregone codecs earlier admitted := by
  obtain ⟨js, is, hkept⟩ := historyOf_kept codecs
  refine ⟨hkept.once, ?_⟩
  intro episode hepisode earlier step later admitted hlog hcall
  obtain ⟨before, after, hsplit⟩ := List.append_of_mem hepisode
  obtain ⟨js', is', hlawful⟩ := historyOf_lawful hsplit hlog
  have hexecutes := hlawful.execute admitted hcall
  exact ⟨⟨_, activity_of_executes hexecutes rfl⟩, hexecutes.foregone⟩

/-- The small train invokes its push once. -/
theorem history_invokes_once_small :
    invoked (smallHistory (smallRun publishing)).log =
        [⟨"train", "tag", "tag", "push", "commit"⟩] ∧
      (invoked (smallHistory (smallRun publishing)).log).Nodup :=
  ⟨by decide +kernel, (history_invokes_once _).1⟩

/-- Over every history, an executor is called while the durable approval is the
one of the plan that is run, confirmed through the gate since the last rebind,
and for an effect of the approved list with its approved artifact. -/
theorem history_invokes_approved (moments : List (Moment Byte)) (before after : List (Episode Byte))
    (episode : Episode Byte) (earlier later : List (Step (machine Byte) (World Byte)))
    (step : Step (machine Byte) (World Byte)) (admitted : AdmittedEffect)
    (hepisodes : (historyOf codecs store moments).episodes = before ++ episode :: after)
    (hlog : episode.log = earlier ++ step :: later) (hcall : step.call = .execute admitted) :
    ∃ plan, episode.activity = .execute plan ∧
      Approved codecs plan (before.flatMap Episode.log ++ earlier) step.before admitted := by
  obtain ⟨js, is, hlawful⟩ := historyOf_lawful hepisodes hlog
  have hexecutes := hlawful.execute admitted hcall
  exact ⟨_, activity_of_executes hexecutes rfl, hexecutes.approved⟩

/-- The push of the small train is approved. -/
theorem history_invokes_approved_small : ∃ before episode after earlier step later admitted,
    (smallHistory (smallRun publishing)).episodes = before ++ episode :: after ∧
      episode.log = earlier ++ step :: later ∧
      step.call = .execute admitted ∧ ∃ plan, episode.activity = .execute plan ∧
        Approved halfCodecs plan (before.flatMap Episode.log ++ earlier) step.before admitted := by
  have hinvoked : ⟨"train", "tag", "tag", "push", "commit"⟩ ∈
      invoked (smallHistory (smallRun publishing)).log := by decide +kernel
  obtain ⟨before, episode, after, hepisodes, hmem⟩ := exists_episode_of_invoked hinvoked
  obtain ⟨earlier, step, later, admitted, hlog, hcall, -⟩ := exists_call_of_invoked hmem
  exact ⟨before, episode, after, earlier, step, later, admitted, hepisodes, hlog, hcall,
    history_invokes_approved _ before after episode earlier later step admitted hepisodes hlog
      hcall⟩

/-- The intents that are pending in a world. -/
def pendingIn (codecs : Codecs Byte) (world : World Byte) : List PendingIntent :=
  pendingOf (recovered codecs.intents world.intents) (recovered codecs.journal world.journal)

/-- After a run that ended well and left no effect waiting, an intent is pending only
if it was before and the plan of the run has no effect for it. -/
theorem run_leaves_none_pending (moments : List (Moment Byte)) (plan : ReleasePlan)
    (script : List (Answers (machine Byte))) (outcomes : List EffectOutcome)
    (hreturned : finished (run (I := machine Byte) perform
      (Activity.program codecs store (.execute plan))
      ⟨(historyOf codecs store moments).world, []⟩ script).2 = some (.executed (.ok outcomes)))
    (hdecided : ∀ outcome ∈ outcomes, outcome ≠ .awaitingProbe) :
    ∀ intent ∈ pendingIn codecs
        (historyOf codecs store (moments ++ [(.execute plan, script)])).world,
      intent ∈ pendingIn codecs (historyOf codecs store moments).world ∧
        ∀ phase ∈ plan.phases, ¬ PhaseKey plan phase intent.key := by
  obtain ⟨js, is, hkept⟩ := historyOf_kept codecs
  obtain ⟨final, known, hextended⟩ := hkept.extend (.execute plan, script)
  obtain ⟨js', is', hjournal, hintents, hsettles⟩ :=
    (hextended.commanded _ hreturned).reported outcomes rfl
  unfold pendingIn
  rw [recovered_of_holds hkept.journal, recovered_of_holds hkept.intents, historyOf_snoc]
  unfold History.extend
  rw [hjournal, recovered_of_holds holds_lines, recovered_of_holds hintents]
  intro intent hintent
  obtain ⟨hbefore, hnot⟩ := hsettles intent hintent
  exact ⟨hbefore, fun phase hphase hkey => hnot ⟨hdecided, phase, hphase, hkey⟩⟩

/-- The first call of the small train failed, so its intent is pending. -/
theorem pending_small :
    (pendingIn halfCodecs (smallHistory (smallRun failing)).world).map PendingIntent.key =
      [⟨"train", "tag", "tag", "push", "commit"⟩] := by decide +kernel

/-- The next run of the small train reconciles it. -/
theorem run_leaves_none_pending_small :
    pendingIn halfCodecs
      (smallHistory (smallRun failing ++ [(.execute smallPlan, finding)])).world = [] := by
  rw [List.eq_nil_iff_forall_not_mem]
  intro intent hpending
  obtain ⟨hintent, hnone⟩ := run_leaves_none_pending _ smallPlan _ [.reconciled smallEvidence]
    (by decide +kernel) (by decide) intent hpending
  have hkey : intent.key ∈ [(⟨"train", "tag", "tag", "push", "commit"⟩ : OperationKey)] := by
    rw [← pending_small]
    exact List.mem_map_of_mem hintent
  rw [List.mem_singleton] at hkey
  refine hnone ⟨"tag", "tag", false⟩ (by decide) ⟨rfl, ⟨"tag", "push", none⟩, by decide, ?_⟩
  rw [hkey]
  rfl

/-- The plan after a rebind that renamed the phase of the tag. -/
def renamedPlan : ReleasePlan :=
  { smallPlan with
    declarationDigest := "second"
    phases := [⟨"check", "preflight", false⟩, ⟨"retag", "tag", false⟩]
    firstPublicTrigger := some ⟨"retag", "push", none⟩
    publicEffects := [⟨"retag", "push", none⟩] }

/-- The small train is rebound after its call failed, and the renamed plan is run. -/
def renamedRun : List (Moment Letter) :=
  smallRun failing ++
    [(.confirmRebind ⟨"first", "text", ⟨"second", "other text"⟩⟩ .confirmed, finding),
     (.execute renamedPlan, finding)]

/-- A run that reports its only effect reconciled, while the intent of the
renamed phase is still pending. -/
theorem renamed_run_leaves_pending :
    ((smallHistory renamedRun).episodes.map Episode.returned).getLast? =
        some (some (.executed (.ok [.reconciled smallEvidence]))) ∧
      (pendingIn halfCodecs (smallHistory renamedRun).world).map PendingIntent.key =
        [⟨"train", "tag", "tag", "push", "commit"⟩] := by
  decide +kernel

end Subconscious.ReleaseLaws
