import Subconscious.ReleasePhases

/-!
# The history of a train

Every command keeps both streams readable and every approval traceable, however
it ends. So over a whole history an operation is invoked at most once, only for
an approved plan, and only after its intent became durable.
-/

namespace Subconscious.ReleaseTrains

open Programs ReleaseRecords ReleaseStreams ReleaseJournal ReleaseOrchestrator ReleaseDurability
open ReleaseSpecs ReleaseRuns ReleaseEffects ReleasePhases ReleaseHistories

/-- A ceremony ended the declaration that the records bind. -/
inductive Ended (js : List JournalRecord) : List JournalRecord → Prop where
  | abandoned (state : TrainTerminalState) : Ended js (js ++ [.terminalized state])
  | rebound {current replacement : DeclarationBinding} (previous : DeclarationDigest)
      (hbound : boundDeclaration js = some current) (hdigest : current.digest ≠ replacement.digest) :
      Ended js (js ++ [.declarationRebound previous replacement])

section ceremonies

variable [DecidableEq Byte] {c : Course Byte} {start : Now Byte}

section appends

variable (hready : Ready c js is start)

include hready

/-- A record that is no rebind, or one that follows the end of the approval. -/
theorem appendJournal_leads
    (h : rebounds [record] = [] ∨ start.state.approval = none) :
    Leads c (appendJournal c.codecs c.store record) start
      fun _ js' is' _ => js' = js ++ [record] ∧ is' = is := by
  have hafter : ∀ now, Quietly start now → Sound c (js ++ [record]) is now := by
    intro now hquiet
    obtain ⟨steps, hlog, hsteps⟩ := hquiet.log
    refine hready.sound.harmless hlog (fun step hstep => harmless_of_fileCall (hsteps step hstep)) ?_
      (List.prefix_append _ _)
    rw [hquiet.approval]
    rcases h with hsame | hnone
    · rw [hlog, ← List.append_assoc]
      refine hready.sound.confirmed.mono ?_
      unfold rebounds at hsame ⊢
      rw [List.filter_append, hsame, List.append_nil]
    rw [hnone]
    nofun
  have hsafe : ∀ now, Quietly start now ∧
      (Failed c.codecs js is now ∨ At c.codecs (js ++ [record]) is now) →
      Safe c now := by
    rintro now ⟨hquiet, hfailed | hwhole⟩
    · exact ⟨js, is, hfailed.disk, hready.sound.quietly hquiet (Grown.refl _)⟩
    · exact ⟨js ++ [record], is, hwhole.disk, hafter now hquiet⟩
  refine ((appendJournal_ensures hready.whole).weaken hsafe).mono ?_
  rintro (error | ⟨⟩) now ⟨hquiet, hfile, hok⟩
  · exact hsafe now ⟨hquiet, hfile⟩
  · exact ⟨js ++ [record], is, ⟨hok rfl, hafter now hquiet⟩, rfl, rfl⟩

/-- A ceremony finds a declaration or refuses. -/
theorem ceremonyPinned_leads :
    Leads c (ceremonyPinned c.codecs c.store) start
      fun _ js' is' now => is' = is ∧ js' = js ∧ Quietly start now := by
  refine (Leads.of_quiet (pinnedDeclaration_quiet hready.torn).rephrase hready.sound).bind ?_
  rintro pinned js1 is1 now1 hready1 - ⟨rfl, hquiet, -, rfl⟩
  cases pinned with
  | some => exact LeadsOr.pure hready1 ⟨rfl, rfl, hquiet⟩
  | none => exact Leads.refused hready1

/-- An invalidated approval is gone. -/
theorem invalidate_steady :
    Steady c invalidate start js is fun _ now => now.state.approval = none := by
  refine (removeApproval_steady hready).bind ?_
  intro removed now hready' hnone
  split
  case isTrue =>
    refine (syncApproval_steady hready').bind ?_
    intro synced later hlater hsame
    exact Steady.pure hlater (hsame.trans hnone)
  case isFalse => exact Steady.pure hready' hnone

/-- The record of a rebind, on a train without an approval. -/
theorem rebindDeclaration_leads (hnone : start.state.approval = none)
    (replacement : ParsedDeclaration) :
    Leads c (rebindDeclaration c.codecs c.store expected replacement) start
      fun _ js' _ _ => Ended js js' := by
  refine (Leads.of_quiet (ensureActive_quiet hready.torn) hready.sound).bind ?_
  rintro - js1 is1 now1 hready1 - ⟨-, hquiet1, -, rfl⟩
  refine (Leads.of_quiet (requirePinned_quiet hready1.torn) hready1.sound).bind ?_
  rintro binding js2 is2 now2 hready2 - ⟨-, hquiet2, hbound, rfl⟩
  split
  case isTrue => exact Leads.refused hready2
  split
  case isTrue => exact Leads.refused hready2
  case isFalse hdigest =>
    have hnone' := (hquiet1.trans hquiet2).approval.trans hnone
    refine (appendJournal_leads hready2 (.inr hnone')).bind ?_
    rintro - js3 is3 now3 hready3 - ⟨rfl, -⟩
    exact LeadsOr.pure hready3 (.rebound _ hbound hdigest)

end appends

section whole

variable (hdisk : Disk c.codecs js is start) (hsound : Sound c js is start)

include hdisk hsound

/-- A declaration is pinned once. -/
theorem pinDeclaration_leads :
    Leads c (pinDeclaration c.codecs c.store declaration) start fun _ _ _ _ => True := by
  refine (Leads.of_quiet (ensureActive_quiet (.torn hdisk)) hsound).bind ?_
  rintro - js1 is1 now1 hready1 - -
  refine (Leads.of_quiet (pinnedDeclaration_quiet hready1.torn) hready1.sound).bind ?_
  rintro pinned js2 is2 now2 hready2 - -
  cases pinned with
  | some binding =>
    change Leads c (if binding.digest = declaration.digest then _ else _) now2 _
    split
    case isTrue => exact LeadsOr.pure hready2 trivial
    case isFalse => exact Leads.refused hready2
  | none =>
    refine (appendJournal_leads hready2 (.inl rfl)).bind ?_
    rintro - js3 is3 now3 hready3 - -
    exact LeadsOr.pure hready3 trivial

/-- A ceremony refuses a train that ended. -/
theorem refuseTerminal_leads :
    Leads c (refuseTerminal c.codecs c.store) start
      fun _ js' is' now => is' = is ∧ js' = js ∧ Quietly start now := by
  refine (Leads.of_quiet (terminalState_quiet (.torn hdisk)).rephrase hsound).bind ?_
  rintro terminal js1 is1 now1 hready1 - ⟨rfl, hquiet, -, rfl⟩
  cases terminal with
  | some => exact Leads.refused hready1
  | none => exact LeadsOr.pure hready1 ⟨rfl, rfl, hquiet⟩

/-- Abandoning a train ends its declaration. -/
theorem abandon_leads : Leads c (abandon c.codecs c.store) start fun _ js' _ _ => Ended js js' := by
  refine (refuseTerminal_leads hdisk hsound).bind ?_
  rintro - js1 is1 now1 hready1 - ⟨-, rfl, -⟩
  refine LeadsOr.rephrase ?_
  refine (Leads.of_quiet (ensureActive_quiet hready1.torn) hready1.sound).bind ?_
  rintro - js2 is2 now2 hready2 - ⟨-, -, -, rfl⟩
  refine (Leads.of_quiet (requirePinned_quiet hready2.torn) hready2.sound).bind ?_
  rintro binding js3 is3 now3 hready3 - ⟨-, -, -, rfl⟩
  refine (appendJournal_leads hready3 (.inl rfl)).bind ?_
  rintro - js4 is4 now4 hready4 - ⟨rfl, -⟩
  exact LeadsOr.pure hready4 (.abandoned _)

/-- A preview changes nothing. -/
theorem prepareRebind_leads :
    Leads c (prepareRebind c.codecs c.store activeDeclaration) start fun _ _ _ _ => True := by
  refine (refuseTerminal_leads hdisk hsound).bind ?_
  rintro - js1 is1 now1 hready1 - -
  refine (ceremonyPinned_leads hready1).bind ?_
  rintro binding js2 is2 now2 hready2 - -
  split
  case isTrue => exact Leads.refused hready2
  case isFalse => exact LeadsOr.pure hready2 trivial

/-- A rebind finds no approval left when its record is appended. -/
theorem confirmRebind_leads :
    Leads c (confirmRebind c.codecs c.store preview confirmation) start
      fun _ js' _ _ => Ended js js' := by
  unfold confirmRebind
  split
  case isTrue => exact ⟨js, is, hdisk, hsound⟩
  refine (refuseTerminal_leads hdisk hsound).bind ?_
  rintro - js1 is1 now1 hready1 - ⟨-, rfl, -⟩
  refine (ceremonyPinned_leads hready1).bind ?_
  rintro current js2 is2 now2 hready2 - ⟨-, rfl, -⟩
  split
  case isTrue => exact Leads.refused hready2
  refine (Leads.of_safely (invalidate_steady hready2).rephrase.safely).bind ?_
  rintro invalidated js3 is3 now3 hready3 - ⟨rfl, -, hnone⟩
  refine (rebindDeclaration_leads hready3 hnone _).rephrase.bind ?_
  intro binding js4 is4 now4 hready4 hlog4 hended
  exact LeadsOr.pure hready4 hended

/-- Reading the pending intents of streams that may have unfinished lines. -/
theorem pendingIntents_leads :
    Leads c (pendingIntents c.codecs c.store) start fun _ _ _ _ => True := by
  have hkeeps : ∀ now, Recovering c.codecs.intents .intents start is now →
      Disk c.codecs js is now ∧ Quietly start now := by
    intro now hnow
    refine ⟨⟨?_, hnow.holds hdisk.intents⟩, .of_since hnow.1⟩
    rw [Since.journal_eq hnow.1]
    exact hdisk.journal
  have hsafe : ∀ now, Recovering c.codecs.intents .intents start is now → Safe c now := by
    intro now hnow
    exact ⟨js, is, (hkeeps now hnow).1, hsound.quietly (hkeeps now hnow).2 (Grown.refl _)⟩
  have hholds : Holds c.codecs.intents is (start.state.file .intents) := hdisk.intents
  refine Ensures.attempt_bind (((recoverTornTail_ensures hholds).weaken hsafe).mono ?_)
  rintro result now ⟨hnow, -⟩
  obtain ⟨hdisk', hquiet⟩ := hkeeps now hnow
  cases result with
  | error => exact hsafe now hnow
  | ok =>
    refine (Leads.of_quiet (readJournal_quiet (.torn hdisk'))
      (hsound.quietly hquiet (Grown.refl _))).bind ?_
    rintro records js1 is1 now1 hready1 - -
    exact LeadsOr.pure hready1 trivial

end whole

/-- What a run that ends well leaves of the intents that were pending. -/
def Reported (codecs : Codecs Byte) (plan : ReleasePlan) (is : List IntentRecord)
    (js : List JournalRecord) (outcomes : List EffectOutcome) (world : World Byte) : Prop :=
  ∃ js' is', world.journal = lines codecs.journal js' ∧ Holds codecs.intents is' world.intents ∧
    Settles is js is' js' fun key =>
      Decided outcomes ∧ ∃ phase ∈ plan.phases, PhaseKey plan phase key

/-- A ceremony that succeeded. -/
def Succeeded : Returned → Prop
  | .abandoned (.ok _) | .rebound (.ok _) => True
  | _ => False

/-- A command keeps the train safe. A run also settles intents, and a ceremony
ends the declaration that was bound. -/
structure Commanded (c : Course Byte) (is : List IntentRecord) (js : List JournalRecord)
    (returned : Returned) (now : Now Byte) : Prop where
  safe : Safe c now
  reported : ∀ outcomes, returned = .executed (.ok outcomes) →
    Reported c.codecs c.plan is js outcomes now.state
  ended : Succeeded returned → Ended js (recovered c.codecs.journal now.state.journal)

/-- A command that is no run. -/
theorem returning_ensures {ε α : Type} {wrap : Except ε α → Returned}
    {operation : Attempt (machine Byte) ε α}
    {good : α → List JournalRecord → List IntentRecord → Now Byte → Prop}
    (h : Leads c operation start good)
    (hwrap : ∀ result outcomes, wrap result ≠ .executed (.ok outcomes))
    (hfailed : ∀ error, ¬ Succeeded (wrap (.error error)))
    (hended : ∀ value js' is' now, good value js' is' now → Succeeded (wrap (.ok value)) →
      Ended js js') :
    Ensures perform Eq (Safe c) (returning wrap operation) (Commanded c is js) start := by
  refine Ensures.bind (Ensures.mono h ?_)
  intro result now hresult
  cases result with
  | error => exact ⟨hresult, fun _ hno => absurd hno (hwrap _ _), fun hno => (hfailed _ hno).elim⟩
  | ok value =>
    obtain ⟨js', is', hready, hgood⟩ := hresult
    refine ⟨⟨js', is', hready.whole.disk, hready.sound⟩, fun _ hno => absurd hno (hwrap _ _), ?_⟩
    intro hsucceeded
    rw [hready.whole.journal, recovered_of_holds holds_lines]
    exact hended value js' is' now hgood hsucceeded

/-- The command that invalidates the approval. -/
theorem invalidate_ensures (hdisk : Disk c.codecs js is start) (hsound : Sound c js is start) :
    Ensures perform Eq (Safe c) (returning .invalidated invalidate) (Commanded c is js) start := by
  have hcommanded : ∀ result now, Safe c now → Commanded c is js (.invalidated result) now :=
    fun result now hsafe => ⟨hsafe, nofun, fun hno => hno.elim⟩
  rintro start' rfl removed
  have hremoved := sound_remove hsound removed
  have hsafe : Safe c (perform start .removeApproval removed).1 := by
    cases removed with
    | error | ok => exact ⟨js, is, ⟨hdisk.journal, hdisk.intents⟩, hremoved⟩
  refine ⟨hsafe, ?_⟩
  cases removed with
  | error => exact hcommanded _ _ hsafe
  | ok =>
    change Ensures (I := machine Byte) perform Eq _ (returning .invalidated
      (if start.state.approval.isSome then _ else _)) _ _
    split
    case isTrue =>
      rintro now rfl synced
      have hsafe' := safe_idle hsafe .syncApproval synced trivial rfl
      refine ⟨hsafe', ?_⟩
      cases synced with
      | error | ok => exact hcommanded _ _ hsafe'
    case isFalse => exact hcommanded _ _ hsafe

/-- Every command. -/
theorem activity_ensures {activity : Activity}
    (hplan : ∀ other, activity = .execute other → other = c.plan)
    (hdisk : Disk c.codecs js is start) (hsound : Sound c js is start) :
    Ensures perform Eq (Safe c) (activity.program c.codecs c.store) (Commanded c is js) start := by
  cases activity with
  | pin declaration =>
    exact returning_ensures (pinDeclaration_leads hdisk hsound)
      nofun (fun _ hno => hno) fun _ _ _ _ _ hno => hno.elim
  | abandon =>
    exact returning_ensures (abandon_leads hdisk hsound) nofun
      (fun _ hno => hno) fun _ _ _ _ hended _ => hended
  | prepareRebind activeDeclaration =>
    exact returning_ensures (prepareRebind_leads hdisk hsound)
      nofun (fun _ hno => hno) fun _ _ _ _ _ hno => hno.elim
  | confirmRebind preview confirmation =>
    exact returning_ensures (confirmRebind_leads hdisk hsound)
      nofun (fun _ hno => hno) fun _ _ _ _ hended _ => hended
  | invalidate => exact invalidate_ensures hdisk hsound
  | pendingIntents =>
    exact returning_ensures (pendingIntents_leads hdisk hsound) nofun
      (fun _ hno => hno) fun _ _ _ _ _ hno => hno.elim
  | execute other =>
    obtain rfl := hplan other rfl
    refine Ensures.bind (Ensures.mono (execute_leads hdisk hsound) ?_)
    intro result now hresult
    cases result with
    | error => exact ⟨hresult, nofun, fun hno => hno.elim⟩
    | ok =>
      obtain ⟨js', is', hready, hsettles⟩ := hresult
      refine ⟨hready.safe, ?_, fun hno => hno.elim⟩
      rintro reported ⟨⟩
      exact ⟨js', is', hready.whole.journal, hready.whole.intents, hsettles⟩

end ceremonies

end Subconscious.ReleaseTrains
