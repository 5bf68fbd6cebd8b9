import Subconscious.ReleaseLaws

/-!
# What a ceremony ends

The journal only grows, so what a ceremony wrote stays. A run calls executors
and adds intents only while the journal pins their declaration. When commands
follow one another, nothing is therefore done under a declaration that a
ceremony ended, unless the train is bound to it again. A ceremony takes no lease
and may come between the last check of a run and its call.
-/

namespace Subconscious.ReleaseCeremonies

open Programs ReleaseRecords ReleaseStreams ReleaseJournal ReleaseDurability List
open ReleaseSpecs ReleaseRuns ReleaseHistories ReleaseTrains ReleaseLaws

/-- What is bound is folded over the records. -/
theorem boundDeclaration_append (js more : List JournalRecord) :
    boundDeclaration (js ++ more) = more.foldl
      (fun binding record => (JournalRecord.binds record).or binding) (boundDeclaration js) :=
  foldl_append

/-- What is bound was bound before or is bound by one of the records. -/
theorem bound_append (h : boundDeclaration (js ++ more) = some binding) :
    boundDeclaration js = some binding ∨
      ∃ record ∈ more, JournalRecord.binds record = some binding := by
  induction more using List.reverseRecOn with
  | nil =>
    rw [append_nil] at h
    exact .inl h
  | append_singleton more last ih =>
    rw [← append_assoc, boundDeclaration_append] at h
    change (JournalRecord.binds last).or (boundDeclaration (js ++ more)) = some binding at h
    cases hlast : JournalRecord.binds last with
    | some =>
      rw [hlast] at h
      exact .inr ⟨last, mem_append_right _ (mem_singleton_self _), hlast.trans h⟩
    | none =>
      rw [hlast] at h
      rcases ih h with hold | ⟨record, hrecord, hbinds⟩
      · exact .inl hold
      · exact .inr ⟨record, mem_append_left _ hrecord, hbinds⟩

/-- A record after the first ones binds a declaration with the digest. -/
def BoundAgain (js js' : List JournalRecord) (digest : DeclarationDigest) : Prop :=
  ∃ record ∈ js'.drop js.length, ∃ binding, JournalRecord.binds record = some binding ∧
    binding.digest = digest

/-- What is bound again stays so in a longer journal. -/
theorem BoundAgain.mono (h : BoundAgain js js' digest) (hgrown : js' <+: js'') :
    BoundAgain js js'' digest := by
  obtain ⟨record, hrecord, hbinds⟩ := h
  obtain ⟨more, rfl⟩ := hgrown
  refine ⟨record, ?_, hbinds⟩
  rw [drop_append]
  exact mem_append_left _ hrecord

/-- The declaration that a ceremony ended is pinned only once it is bound again. -/
theorem boundAgain_of_ended (h : Ended js js') (hbound : boundDeclaration js = some binding)
    (hgrown : js' <+: js'') (hpinned : PinnedTo js'' binding.digest) :
    BoundAgain js' js'' binding.digest := by
  obtain ⟨more, rfl⟩ := hgrown
  obtain ⟨hactive, other, hother, hdigest⟩ := hpinned
  unfold BoundAgain
  rw [drop_left]
  cases h with
  | abandoned state =>
    unfold terminalOf at hactive
    rw [List.findSome?_eq_none_iff] at hactive
    have hterminal : JournalRecord.terminalized state ∈ (js ++ [.terminalized state]) ++ more :=
      mem_append_left _ (mem_append_right _ (mem_singleton_self _))
    cases hactive _ hterminal
  | @rebound current replacement previous hcurrent hreplaced =>
    rw [hbound] at hcurrent
    obtain rfl := Option.some.inj hcurrent
    rcases bound_append hother with hold | ⟨record, hrecord, hbinds⟩
    · rw [boundDeclaration_append] at hold
      obtain rfl : replacement = other := Option.some.inj hold
      exact absurd hdigest.symm hreplaced
    · exact ⟨record, hrecord, other, hbinds, hdigest⟩

section onward

variable [DecidableEq Byte] (codecs : Codecs Byte) (store : JournalStore)

/-- The executors of later episodes are called while a longer journal pins the declaration. -/
def CalledPinned (js : List JournalRecord) (episodes : List (Episode Byte)) : Prop :=
  ∀ episode ∈ episodes, ∀ step ∈ episode.log, ∀ admitted, step.call = .execute admitted →
    js <+: recovered codecs.journal step.before.journal ∧
      PinnedTo (recovered codecs.journal step.before.journal) admitted.effect.declarationDigest

/-- What a train keeps from one point of its history on. -/
structure Onward (first second : List (Moment Byte)) (js : List JournalRecord)
    (is : List IntentRecord) (js' : List JournalRecord) (is' : List IntentRecord) : Prop where
  kept : Kept codecs store (historyOf codecs store (first ++ second)) js' is'
  grown : js <+: js'
  added : Added (course codecs store (historyOf codecs store first) .abandon js is) js' is'
  called : ∃ episodes, (historyOf codecs store (first ++ second)).episodes =
    (historyOf codecs store first).episodes ++ episodes ∧ CalledPinned codecs js episodes

variable {codecs store}

/-- Every later point of the history keeps it. -/
theorem historyOf_onward (hkept : Kept codecs store (historyOf codecs store first) js is)
    (second : List (Moment Byte)) : ∃ js' is', Onward codecs store first second js is js' is' := by
  induction second using List.reverseRecOn with
  | nil =>
    refine ⟨js, is, ?_, prefix_refl _, ⟨[], (append_nil _).symm, ?_⟩, [], ?_, ?_⟩
    · rw [append_nil]
      exact hkept
    · intro record hno
      cases hno
    · rw [append_nil, append_nil]
    · intro episode hno
      cases hno
  | append_singleton second moment ih =>
    obtain ⟨js1, is1, hkept1, hgrown1, ⟨more1, his1, hmore1⟩, episodes, hepisodes, hcalled⟩ := ih
    obtain ⟨js2, is2, hextended⟩ := hkept1.extend moment
    obtain ⟨more2, his2, hmore2⟩ := hextended.sound.added
    obtain ⟨last, hlast, hnext⟩ : ∃ last : Episode Byte,
        last.log = ((historyOf codecs store (first ++ second)).ran codecs store moment).1.log ∧
        ((historyOf codecs store (first ++ second)).extend codecs store moment).episodes =
          (historyOf codecs store (first ++ second)).episodes ++ [last] := ⟨_, rfl, rfl⟩
    refine ⟨js2, is2, ?_, hgrown1.trans hextended.sound.grown, ⟨more1 ++ more2, ?_, ?_⟩,
      episodes ++ [last], ?_, ?_⟩
    · rw [← append_assoc, historyOf_snoc]
      exact hextended.kept
    · rw [his2, his1]
      exact append_assoc _ _ _
    · intro record hrecord
      rcases mem_append.mp hrecord with hmem | hmem
      · obtain ⟨records, hstart, hend, hpinned⟩ := hmore1 record hmem
        exact ⟨records, hstart, hend.trans hextended.sound.grown, hpinned⟩
      · obtain ⟨records, hstart, hend, hpinned⟩ := hmore2 record hmem
        exact ⟨records, hgrown1.trans hstart, hend, hpinned⟩
    · rw [← append_assoc, historyOf_snoc, ← append_assoc, ← hepisodes]
      exact hnext
    intro episode hepisode step hstep admitted hcall
    rcases mem_append.mp hepisode with hmem | hmem
    · exact hcalled episode hmem step hstep admitted hcall
    rw [mem_singleton] at hmem
    rw [hmem, hlast] at hstep
    obtain ⟨earlier, later, hlog⟩ := append_of_mem hstep
    have hexecutes := (hextended.sound.lawful earlier step later hlog).execute admitted hcall
    exact ⟨hgrown1.trans hexecutes.grown, hexecutes.pinned⟩

/-- When no command runs during another one: after a ceremony succeeded, an
executor is called and an intent is added under the declaration that was bound
before it only once the train is bound to that declaration again. -/
theorem ceremony_ends_declaration (first second : List (Moment Byte)) (ceremony : Moment Byte)
    (returned : Returned) (binding : DeclarationBinding)
    (hreturned : finished (run (I := machine Byte) perform (ceremony.1.program codecs store)
      ⟨(historyOf codecs store first).world, []⟩ ceremony.2).2 = some returned)
    (hsucceeded : Succeeded returned)
    (hbound : boundDeclaration (recovered codecs.journal
      (historyOf codecs store first).world.journal) = some binding) :
    (∃ episodes, (historyOf codecs store (first ++ [ceremony] ++ second)).episodes =
      (historyOf codecs store (first ++ [ceremony])).episodes ++ episodes ∧
        ∀ episode ∈ episodes, ∀ step ∈ episode.log, ∀ admitted, step.call = .execute admitted →
          admitted.effect.declarationDigest = binding.digest →
          BoundAgain (recovered codecs.journal
            (historyOf codecs store (first ++ [ceremony])).world.journal)
            (recovered codecs.journal step.before.journal) binding.digest) ∧
      ∃ more, recovered codecs.intents
          (historyOf codecs store (first ++ [ceremony] ++ second)).world.intents =
        recovered codecs.intents
          (historyOf codecs store (first ++ [ceremony])).world.intents ++ more ∧
        ∀ record ∈ more, record.intent.declarationDigest = binding.digest →
          BoundAgain (recovered codecs.journal
            (historyOf codecs store (first ++ [ceremony])).world.journal)
            (recovered codecs.journal
              (historyOf codecs store (first ++ [ceremony] ++ second)).world.journal)
            binding.digest := by
  obtain ⟨js, is, hkept⟩ := historyOf_kept codecs
  rw [recovered_of_holds hkept.journal] at hbound
  obtain ⟨js', is', hextended⟩ := hkept.extend ceremony
  have hended := (hextended.commanded returned hreturned).ended hsucceeded
  have hkept' := hextended.kept
  have hjournal : recovered codecs.journal ((historyOf codecs store first).ran codecs store
      ceremony).1.state.journal = js' := recovered_of_holds hkept'.journal
  rw [hjournal] at hended
  rw [← historyOf_snoc] at hkept'
  obtain ⟨final, known, honward⟩ := historyOf_onward hkept' second
  rw [recovered_of_holds hkept'.journal, recovered_of_holds hkept'.intents,
    recovered_of_holds honward.kept.journal, recovered_of_holds honward.kept.intents]
  refine ⟨?_, ?_⟩
  · obtain ⟨episodes, hepisodes, hcalled⟩ := honward.called
    refine ⟨episodes, hepisodes, ?_⟩
    intro episode hepisode step hstep admitted hcall hdigest
    obtain ⟨hgrown, hpinned⟩ := hcalled episode hepisode step hstep admitted hcall
    rw [hdigest] at hpinned
    exact boundAgain_of_ended hended hbound hgrown hpinned
  · obtain ⟨more, hmore, hadded⟩ := honward.added
    refine ⟨more, hmore, ?_⟩
    intro record hrecord hdigest
    obtain ⟨records, hstart, hend, hpinned⟩ := hadded record hrecord
    rw [hdigest] at hpinned
    exact (boundAgain_of_ended hended hbound hstart hpinned).mono hend

/-- What was read back of the streams is read back first at every later time. Beside it the
streams hold at most one unfinished line each. -/
structure StreamsGrow (codecs : Codecs Byte) (before after : World Byte) : Prop where
  journal : recovered codecs.journal before.journal <+: recovered codecs.journal after.journal
  intents : recovered codecs.intents before.intents <+: recovered codecs.intents after.intents
  journalHeld : Holds codecs.journal (recovered codecs.journal after.journal) after.journal
  intentsHeld : Holds codecs.intents (recovered codecs.intents after.intents) after.intents

/-- Along every history the streams grow. -/
theorem history_streamsGrow (first second : List (Moment Byte)) :
    StreamsGrow codecs (historyOf codecs store first).world
      (historyOf codecs store (first ++ second)).world := by
  obtain ⟨js, is, hkept⟩ := @historyOf_kept _ _ store first codecs
  obtain ⟨js', is', honward⟩ := historyOf_onward hkept second
  obtain ⟨more, hmore, -⟩ := honward.added
  have hjournal := recovered_of_holds honward.kept.journal
  have hintents := recovered_of_holds honward.kept.intents
  refine ⟨?_, ?_, hjournal ▸ honward.kept.journal, hintents ▸ honward.kept.intents⟩
  · rw [hjournal, recovered_of_holds hkept.journal]
    exact honward.grown
  · rw [hintents, recovered_of_holds hkept.intents]
    exact ⟨more, hmore.symm⟩

end onward

/-- The train is published, abandoned and run again. -/
theorem ceremony_ends_declaration_small :
    ∃ episodes, (smallHistory (smallRun publishing ++ [(.abandon, publishing)] ++
        [(.execute smallPlan, publishing)])).episodes =
      (smallHistory (smallRun publishing ++ [(.abandon, publishing)])).episodes ++ episodes ∧
        ∀ episode ∈ episodes, ∀ step ∈ episode.log, ∀ admitted, step.call = .execute admitted →
          admitted.effect.declarationDigest = "first" →
          BoundAgain (recovered halfCodecs.journal
              (smallHistory (smallRun publishing ++ [(.abandon, publishing)])).world.journal)
            (recovered halfCodecs.journal step.before.journal) "first" :=
  (ceremony_ends_declaration _ _ _ (.abandoned (.ok (.abandoned "first"))) ⟨"first", "text"⟩
    (by decide +kernel) trivial (by decide +kernel)).1

/-- The small plan is run for some calls, the train is abandoned, and the run
goes on. What is left: what the ceremony returned, the digests of the intents on
disk when it returned, and afterwards those digests and the operations invoked
since. -/
def overlapped (calls : Nat) : Option Returned × List DeclarationDigest × List DeclarationDigest ×
    List OperationKey :=
  let answers := publishing
  let pinned := (smallHistory [(.pin ⟨"first", "text"⟩, answers)]).world
  let paused := run (I := machine Letter) perform
    (Activity.program halfCodecs smallStore (.execute smallPlan)) ⟨pinned, []⟩ (answers.take calls)
  let ended := run (I := machine Letter) perform (Activity.program halfCodecs smallStore .abandon)
    ⟨paused.1.state, []⟩ answers
  let resumed := run (I := machine Letter) perform paused.2 ⟨ended.1.state, []⟩ answers
  let digests := fun world : World Letter =>
    (recovered halfCodecs.intents world.intents).map fun record => record.intent.declarationDigest
  (finished ended.2, digests ended.1.state, digests resumed.1.state, invoked resumed.1.log)

/-- After the abandonment returned, an intent is appended and the tag is pushed. -/
theorem overlapped_run_invokes :
    overlapped 25 = (some (.abandoned (.ok (.abandoned "first"))), [], ["first"],
      [⟨"train", "tag", "tag", "push", "commit"⟩]) := by
  decide +kernel

end Subconscious.ReleaseCeremonies
