import Subconscious.ScopeStaging

/-!
# The rounds of link settling

One round looks at the queued records and then for cycles. It changes link
states only, or it refuses one more record. What the rounds keep is one
invariant: the set has its form for the refusals so far, a link state belongs
to a record that is not refused, and every new link outside the queue has one.
The rounds stop before the fuel does, with an empty queue and no cycle found.
-/

namespace Subconscious.ScopeSettling

open HashMaps TreeMaps ScopeRecords ScopeTables ScopeChecks ScopeParents ScopeSync ScopeStaging

/-- A record that makes a link and is not refused. -/
structure MakesLink (context : LinkContext) (refusals : HashMap Nat RecordRefusal) (index : Nat)
    (record : ScopeRecord) : Prop where
  sent : context.records[index]? = some record
  accepted : refusals.get index = none
  newLink : newLink context.live record = true

variable (context : LinkContext)

/-- A new link names a parent. -/
theorem newLink_parent (h : newLink live record = true) :
    ∃ parent, record.parent = some parent := by
  unfold newLink at h
  cases hparent : record.parent with
  | none =>
    rw [hparent] at h
    cases h
  | some parent => exact ⟨parent, rfl⟩

/-- What a pass over the queue leaves. -/
structure Checked (context : LinkContext) (settling : LinkSettling) (pending : List Nat)
    (out : LinkSettling × Option (Nat × String)) : Prop where
  next : out.1.next = settling.next
  refusals : out.1.refusals = settling.refusals
  states : ∀ scopeRef state, out.1.newLinkStates.get scopeRef = some state →
    settling.newLinkStates.get scopeRef = some state ∨
      ∃ index record parent, MakesLink context settling.refusals index record ∧
        record.scopeRef = scopeRef ∧ record.parent = some parent ∧
        checkNewLink context.table context.owner parent settling.next = .ok state
  kept : ∀ scopeRef, settling.newLinkStates.get scopeRef ≠ none →
    out.1.newLinkStates.get scopeRef ≠ none
  processed : ∀ index ∈ pending, index ∉ out.1.pending →
    (∀ message, out.2 ≠ some (index, message)) →
    ∀ record, MakesLink context settling.refusals index record →
      out.1.newLinkStates.get record.scopeRef ≠ none
  rejected : ∀ index message, out.2 = some (index, message) →
    ∃ record, MakesLink context settling.refusals index record
  finished : out.2 = none → out.1.pending = []

/-- A pass that skips its first record. -/
theorem Checked.skip {context : LinkContext} (h : Checked context popped rest out)
    (hnext : popped.next = settling.next) (hrefusals : popped.refusals = settling.refusals)
    (hstates : popped.newLinkStates = settling.newLinkStates)
    (hskip : ∀ record, ¬ MakesLink context settling.refusals index record) :
    Checked context settling (index :: rest) out where
  next := h.next.trans hnext
  refusals := h.refusals.trans hrefusals
  states := by
    rw [← hnext, ← hrefusals, ← hstates]
    exact h.states
  kept := by
    rw [← hstates]
    exact h.kept
  processed := by
    intro found hmem hnot hother record hmakes
    rcases List.mem_cons.mp hmem with rfl | hmem
    · exact absurd hmakes (hskip record)
    · rw [← hrefusals] at hmakes
      exact h.processed found hmem hnot hother record hmakes
  rejected := by
    rw [← hrefusals]
    exact h.rejected
  finished := h.finished

/-- The pass over the queue is such a pass. -/
theorem checkPending_checked (pending : List Nat) (settling : LinkSettling) :
    Checked context settling pending (checkPending context pending settling) := by
  induction pending generalizing settling with
  | nil =>
    exact ⟨rfl, rfl, fun _ _ h => .inl h, fun _ h => h, fun _ h => absurd h List.not_mem_nil,
      fun _ _ h => absurd h (Option.some_ne_none _).symm, fun _ => rfl⟩
  | cons index rest ih =>
    unfold checkPending
    split
    case h_1 hnone =>
      refine (ih _).skip rfl rfl rfl ?_
      intro record hmakes
      rw [hmakes.sent] at hnone
      cases hnone
    rename_i record hrecord
    split
    case isTrue hskip =>
      refine (ih _).skip rfl rfl rfl ?_
      intro found hmakes
      have hfound := hmakes.sent
      rw [hrecord] at hfound
      cases hfound
      rw [HashMap.contains_eq, hmakes.accepted, hmakes.newLink] at hskip
      cases hskip
    case isFalse hlooked =>
      rw [Bool.not_eq_true, Bool.or_eq_false_iff, Bool.not_eq_false'] at hlooked
      have hmakes : MakesLink context settling.refusals index record :=
        ⟨hrecord, by simpa using hlooked.1, hlooked.2⟩
      obtain ⟨parent, hparent⟩ := newLink_parent hmakes.newLink
      rw [hparent]
      dsimp only
      split
      case h_1 state hchecked =>
        have h := ih { settling with
          queued := settling.queued.erase index
          newLinkStates := settling.newLinkStates.insert record.scopeRef state }
        refine ⟨h.next, h.refusals, ?_, ?_, ?_, h.rejected, h.finished⟩
        · intro scopeRef found hfound
          rcases h.states scopeRef found hfound with hheld | hmade
          · rcases HashMap.of_get_insert hheld with ⟨href, rfl⟩ | ⟨-, hheld⟩
            · exact .inr ⟨index, record, parent, hmakes, href.symm, hparent, hchecked⟩
            · exact .inl hheld
          · exact .inr hmade
        · intro scopeRef hheld
          refine h.kept scopeRef ?_
          rw [HashMap.get_insert]
          split
          case isTrue => exact Option.some_ne_none _
          case isFalse => exact hheld
        intro found hmem hnot hother sent hsent
        rcases List.mem_cons.mp hmem with rfl | hmem
        · have hsame := hsent.sent
          rw [hrecord] at hsame
          cases hsame
          refine h.kept record.scopeRef ?_
          rw [HashMap.get_insert, if_pos rfl]
          exact Option.some_ne_none _
        · exact h.processed found hmem hnot hother sent hsent
      case h_2 message hrefused =>
        refine ⟨rfl, rfl, fun _ _ h => .inl h, fun _ h => h, ?_, ?_, nofun⟩
        · intro found hmem hnot hother
          rcases List.mem_cons.mp hmem with rfl | hmem
          · exact absurd rfl (hother message)
          · exact absurd hmem hnot
        · intro found text heq
          cases heq
          exact ⟨record, hmakes⟩

/-- A found cycle is that of a record with a linked state. -/
theorem cyclePass_some {context : LinkContext}
    (h : cyclePass context settling entries cache = some index) :
    ∃ record, (record, index) ∈ entries ∧
      settling.newLinkStates.get record.scopeRef = some .linked := by
  induction entries generalizing cache with
  | nil => cases h
  | cons entry rest ih =>
    obtain ⟨record, found⟩ := entry
    unfold cyclePass at h
    split at h
    case h_1 parent hlinked hparent =>
      dsimp only at h
      split at h
      case isTrue =>
        cases h
        exact ⟨record, List.mem_cons_self, hlinked⟩
      case isFalse =>
        obtain ⟨sent, hmem, hstate⟩ := ih h
        exact ⟨sent, List.mem_cons_of_mem _ hmem, hstate⟩
    case h_2 =>
      obtain ⟨sent, hmem, hstate⟩ := ih h
      exact ⟨sent, List.mem_cons_of_mem _ hmem, hstate⟩

/-- Queueing again touches the queue alone. -/
theorem foldl_requeue {indexes : List Nat} (settling : LinkSettling) :
    (indexes.foldl requeue settling).next = settling.next ∧
      (indexes.foldl requeue settling).refusals = settling.refusals ∧
      (indexes.foldl requeue settling).newLinkStates = settling.newLinkStates ∧
      ∀ index ∈ settling.pending, index ∈ (indexes.foldl requeue settling).pending := by
  induction indexes generalizing settling with
  | nil => exact ⟨rfl, rfl, rfl, fun _ h => h⟩
  | cons first rest ih =>
    obtain ⟨hnext, hrefusals, hstates, hpending⟩ := ih (requeue settling first)
    have hrequeue : (requeue settling first).next = settling.next ∧
        (requeue settling first).refusals = settling.refusals ∧
        (requeue settling first).newLinkStates = settling.newLinkStates ∧
        ∀ index ∈ settling.pending, index ∈ (requeue settling first).pending := by
      unfold requeue
      split
      case isTrue => exact ⟨rfl, rfl, rfl, fun _ h => h⟩
      case isFalse => exact ⟨rfl, rfl, rfl, fun _ h => List.mem_append_left _ h⟩
    rw [List.foldl_cons]
    exact ⟨hnext.trans hrequeue.1, hrefusals.trans hrequeue.2.1, hstates.trans hrequeue.2.2.1,
      fun index h => hpending index (hrequeue.2.2.2 index h)⟩

/-- The set after a refused link. -/
def restoredNext (context : LinkContext) (next : TreeMap String ScopeRecord) (scopeRef : String) :
    TreeMap String ScopeRecord :=
  match context.live[scopeRef]? with
  | some held => next.insert scopeRef held.record
  | none => next.erase scopeRef

/-- A refused link puts back what was held. -/
theorem get_restoredNext (other : String) :
    (restoredNext context next scopeRef)[other]? =
      if other = scopeRef then context.live[scopeRef]?.map LiveScope.record else next[other]? := by
  unfold restoredNext
  cases context.live[scopeRef]? with
  | some => exact get_insert _ _ _ _
  | none => exact get_erase _ _

/-- A refused link: the record refused, what was held put back, no state. -/
theorem rejectLink_fields
    {message : String} : let rejected := rejectLink context settling index record message
    rejected.next = restoredNext context settling.next record.scopeRef ∧
      rejected.refusals = settling.refusals.insert index ("scope_parent_not_permitted", message) ∧
      rejected.newLinkStates = settling.newLinkStates.remove record.scopeRef ∧
      ∀ i ∈ settling.pending, i ∈ rejected.pending :=
  foldl_requeue _

/-- What every round keeps. -/
structure Settling (context : LinkContext) (start : TreeMap String ScopeRecord)
    (staging : Nat → Option RecordRefusal) (settling : LinkSettling) : Prop where
  form : NextForm context.live start context.records settling.refusals settling.next
  staged : ∀ index refusal, staging index = some refusal →
    settling.refusals.get index = some refusal
  refused : ∀ index refusal, settling.refusals.get index = some refusal →
    staging index = some refusal ∨
      ∃ message record, refusal = ("scope_parent_not_permitted", message) ∧
        context.records[index]? = some record ∧ newLink context.live record = true
  states : ∀ scopeRef state, settling.newLinkStates.get scopeRef = some state →
    ∃ index record parent next, MakesLink context settling.refusals index record ∧
      record.scopeRef = scopeRef ∧ record.parent = some parent ∧
      checkNewLink context.table context.owner parent next = .ok state
  covered : ∀ index record, index ∉ settling.pending →
    MakesLink context settling.refusals index record →
      settling.newLinkStates.get record.scopeRef ≠ none

section rounds

variable {context : LinkContext}

section

variable (h : Settling context start staging settling)
  (hout : Checked context settling settling.pending out)
include h hout

/-- A pass over the queue keeps everything but that its rejected record has no state yet. -/
theorem Settling.checked :
    NextForm context.live start context.records out.1.refusals out.1.next ∧
    (∀ scopeRef state, out.1.newLinkStates.get scopeRef = some state →
      ∃ index record parent next, MakesLink context out.1.refusals index record ∧
        record.scopeRef = scopeRef ∧ record.parent = some parent ∧
        checkNewLink context.table context.owner parent next = .ok state) ∧
    ∀ index record, index ∉ out.1.pending → (∀ message, out.2 ≠ some (index, message)) →
      MakesLink context out.1.refusals index record →
        out.1.newLinkStates.get record.scopeRef ≠ none := by
  rw [hout.refusals, hout.next]
  refine ⟨h.form, ?_, ?_⟩
  · intro scopeRef state hstate
    rcases hout.states scopeRef state hstate with hheld | hmade
    · exact h.states scopeRef state hheld
    · obtain ⟨index, record, parent, hmakes, href, hparent, hchecked⟩ := hmade
      exact ⟨index, record, parent, settling.next, hmakes, href, hparent, hchecked⟩
  · intro index record hnot hother hmakes
    by_cases hmem : index ∈ settling.pending
    · exact hout.processed index hmem hnot hother record hmakes
    · exact hout.kept _ (h.covered index record hmem hmakes)

/-- A finished pass keeps the invariant. -/
theorem Settling.finished (hnone : out.2 = none) : Settling context start staging out.1 := by
  obtain ⟨hform, hstates, hcovered⟩ := h.checked hout
  refine ⟨hform, ?_, ?_, hstates, ?_⟩
  · rw [hout.refusals]
    exact h.staged
  · rw [hout.refusals]
    exact h.refused
  intro index record hnot hmakes
  refine hcovered index record hnot ?_ hmakes
  intro message heq
  rw [hnone] at heq
  cases heq

end

/-- Refusing one more link keeps the invariant. -/
theorem Settling.reject (hrefs : (context.records.map ScopeRecord.scopeRef).Nodup)
    (h : Settling context start staging settling)
    (hout : Checked context settling settling.pending out)
    (hmakes : MakesLink context settling.refusals index record)
    (hrejected : ∀ other message, out.2 = some (other, message) → other = index) :
    Settling context start staging (rejectLink context out.1 index record message) := by
  obtain ⟨hform, hstates, hcovered⟩ := h.checked hout
  obtain ⟨hnext, hrefusals, hremoved, hpending⟩ := rejectLink_fields context
  have hout' : out.1.refusals.get index = none := by
    rw [hout.refusals]
    exact hmakes.accepted
  have hother : ∀ (i : Nat) sent, context.records[i]? = some sent →
      sent.scopeRef ≠ record.scopeRef → i ≠ index := by
    intro i sent hsent hne heq
    subst heq
    rw [hmakes.sent] at hsent
    cases hsent
    exact hne rfl
  have hsameIndex : ∀ (i : Nat) sent, context.records[i]? = some sent →
      sent.scopeRef = record.scopeRef → i = index := fun i sent hsent heq =>
    index_eq_of_ref hrefs hsent hmakes.sent heq
  refine ⟨⟨?_, ?_⟩, ?_, ?_, ?_, ?_⟩
  · intro i sent hsent
    rw [hnext, get_restoredNext, hrefusals, HashMap.get_insert]
    by_cases href : sent.scopeRef = record.scopeRef
    · rw [if_pos href, if_pos (hsameIndex i sent hsent href), href]
      rfl
    · rw [if_neg href, if_neg (hother i sent hsent href)]
      exact hform.named i sent hsent
  · intro scopeRef hnot
    rw [hnext, get_restoredNext, if_neg]
    · exact hform.unnamed scopeRef hnot
    · rintro rfl
      exact hnot (mem_refs_of_getElem? hmakes.sent)
  · intro i refusal hstaging
    have hheld := h.staged i refusal hstaging
    rw [hrefusals, HashMap.get_insert, if_neg, hout.refusals]
    · exact hheld
    rintro rfl
    rw [hmakes.accepted] at hheld
    cases hheld
  · intro i refusal hrefusal
    rw [hrefusals] at hrefusal
    rcases HashMap.of_get_insert hrefusal with ⟨hi, rfl⟩ | ⟨-, hrefusal⟩
    · subst hi
      exact .inr ⟨message, record, rfl, hmakes.sent, hmakes.newLink⟩
    · rw [hout.refusals] at hrefusal
      exact h.refused i refusal hrefusal
  · intro scopeRef state hstate
    rw [hremoved] at hstate
    obtain ⟨hne, hstate⟩ := HashMap.of_get_remove hstate
    obtain ⟨i, sent, parent, next, hsent, href, hparent, hchecked⟩ := hstates scopeRef state hstate
    refine ⟨i, sent, parent, next, ⟨hsent.sent, ?_, hsent.newLink⟩, href, hparent, hchecked⟩
    rw [hrefusals, HashMap.get_insert, if_neg (hother i sent hsent.sent (href ▸ hne))]
    exact hsent.accepted
  · intro i sent hnot hsent
    have haccepted := hsent.accepted
    rw [hrefusals, HashMap.get_insert] at haccepted
    split at haccepted
    case isTrue => cases haccepted
    case isFalse hi =>
      have hne : sent.scopeRef ≠ record.scopeRef := fun href => hi (hsameIndex i sent hsent.sent href)
      rw [hremoved, HashMap.get_remove, if_neg hne]
      refine hcovered i sent (fun hmem => hnot (hpending i hmem)) ?_
        ⟨hsent.sent, haccepted, hsent.newLink⟩
      intro text heq
      exact hi (hrejected i text heq)

/-- The records no refusal stands against. -/
def unrefused (context : LinkContext) (refusals : HashMap Nat RecordRefusal) : Finset Nat :=
  (Finset.range context.records.length).filter fun index => refusals.get index = none

/-- A new refusal leaves one record less. -/
theorem unrefused_insert_lt (hmakes : MakesLink context refusals index record)
    (refusal : RecordRefusal) :
    (unrefused context (refusals.insert index refusal)).card <
      (unrefused context refusals).card := by
  refine Finset.card_lt_card ⟨?_, ?_⟩
  · intro i hi
    unfold unrefused at hi ⊢
    rw [Finset.mem_filter, HashMap.get_insert] at hi
    rw [Finset.mem_filter]
    refine ⟨hi.1, ?_⟩
    have hget := hi.2
    split at hget
    case isTrue => cases hget
    case isFalse => exact hget
  · intro hsubset
    have hmem : index ∈ unrefused context refusals := by
      unfold unrefused
      rw [Finset.mem_filter, Finset.mem_range]
      exact ⟨(List.getElem?_eq_some_iff.mp hmakes.sent).1, hmakes.accepted⟩
    have hgone := hsubset hmem
    unfold unrefused at hgone
    rw [Finset.mem_filter, HashMap.get_insert, if_pos rfl] at hgone
    cases hgone.2

section

variable (hrefs : (context.records.map ScopeRecord.scopeRef).Nodup)
include hrefs

/-- A round that refuses a link refuses that of an accepted record. -/
theorem refusedLink_some (h : Settling context start staging settling)
    (hout : Checked context settling settling.pending out)
    (hrefused : refusedLink context out.1 out.2 = some (index, message)) :
    ∃ record, MakesLink context settling.refusals index record ∧
      ∀ other text, out.2 = some (other, text) → other = index := by
  unfold refusedLink at hrefused
  split at hrefused
  case h_1 rejected hrejected =>
    cases hrefused
    obtain ⟨record, hmakes⟩ := hout.rejected index message hrejected
    refine ⟨record, hmakes, ?_⟩
    intro other text heq
    rw [hrejected] at heq
    cases heq
    rfl
  case h_2 hnone =>
    obtain ⟨found, hfound, heq⟩ := Option.map_eq_some_iff.mp hrefused
    cases heq
    obtain ⟨record, hmem, hlinked⟩ := cyclePass_some hfound
    obtain ⟨-, hstates, -⟩ := h.checked hout
    obtain ⟨i, sent, -, -, hmakes, href, -⟩ := hstates _ _ hlinked
    have hrecord : context.records[index]? = some record := List.mem_zipIdx_iff_getElem?.mp hmem
    have hindex := index_eq_of_ref hrefs hmakes.sent hrecord href
    subst hindex
    rw [hout.refusals] at hmakes
    refine ⟨sent, hmakes, ?_⟩
    intro other text heq
    rw [hnone] at heq
    cases heq

/-- With fuel for every record that could still be refused, the rounds end with
an empty queue and no cycle found. -/
theorem settleLinks_settling (h : Settling context start staging settling)
    (hfuel : (unrefused context settling.refusals).card < fuel) :
    Settling context start staging (settleLinks context fuel settling) ∧
      (settleLinks context fuel settling).pending = [] ∧
      cyclePass context (settleLinks context fuel settling) context.records.zipIdx .default =
        none := by
  induction fuel generalizing settling with
  | zero => omega
  | succ fuel ih =>
    have hout := checkPending_checked context settling.pending settling
    unfold settleLinks
    dsimp only
    set out := checkPending context settling.pending settling with houtEq
    cases hrefused : refusedLink context out.1 out.2 with
    | none =>
      unfold refusedLink at hrefused
      cases hrejected : out.2 with
      | some =>
        rw [hrejected] at hrefused
        cases hrefused
      | none =>
        rw [hrejected] at hrefused
        exact ⟨h.finished hout hrejected, hout.finished hrejected,
          Option.map_eq_none_iff.mp hrefused⟩
    | some rejected =>
      obtain ⟨index, message⟩ := rejected
      obtain ⟨record, hmakes, hother⟩ := refusedLink_some hrefs h hout hrefused
      dsimp only
      rw [hmakes.sent]
      refine ih (h.reject hrefs hout hmakes hother) ?_
      rw [(rejectLink_fields context).2.1, hout.refusals]
      have hlt := unrefused_insert_lt hmakes ("scope_parent_not_permitted", message)
      omega

end

end rounds

section call

variable (table : ScopeTable) (request : ScopeChange) (reads : ScopeReads)

/-- Why a record of the call is refused before links are looked at. -/
def stagingRefusals (index : Nat) : Option RecordRefusal :=
  match request.records[index]? with
  | some record =>
    stagingRefusal (ScopeRuns.sweptOwner table request reads).1
      (decide (request.owner ∈ table.authorityOwners)) reads request.refusals record index
  | none => request.refusals.get index

/-- What the links of the call settle in. -/
def linkContext : LinkContext :=
  ⟨ScopeRuns.others table request, request.owner, (ScopeRuns.sweptOwner table request reads).1.live,
    request.records⟩

/-- The set the call starts from. -/
def callStart : TreeMap String ScopeRecord :=
  startingSet (ScopeRuns.sweptOwner table request reads).1.live request.ends

variable {request table reads} in
/-- The settled set of a call whose checks pass: its form, an empty queue, and
no cycle through a new link. -/
theorem settled_settling (hrefs : (request.records.map ScopeRecord.scopeRef).Nodup) :
    Settling (linkContext table request reads) (callStart table request reads)
        (stagingRefusals table request reads) (ScopeRuns.settled table request reads) ∧
      (ScopeRuns.settled table request reads).pending = [] ∧
      cyclePass (linkContext table request reads) (ScopeRuns.settled table request reads)
        request.records.zipIdx .default = none := by
  have hheld : ∀ scopeRef : String,
      (ScopeRuns.sweptOwner table request reads).1.live[scopeRef]? = none →
        (callStart table request reads)[scopeRef]? = none := by
    intro scopeRef hnone
    cases hstart : (callStart table request reads)[scopeRef]? with
    | none => rfl
    | some =>
      obtain ⟨held, hlive, -⟩ := startingSet_held hstart
      rw [hnone] at hlive
      cases hlive
  obtain ⟨hform, hrefused, hlater⟩ := staged_form reads request.refusals hheld hrefs
  have hstaging : ∀ index, (staged (ScopeRuns.sweptOwner table request reads).1
      (decide (request.owner ∈ table.authorityOwners)) reads request.refusals
      (callStart table request reads) request.records).refusals.get index =
        stagingRefusals table request reads index := by
    intro index
    unfold stagingRefusals
    cases hrecord : request.records[index]? with
    | some record => exact hrefused index record hrecord
    | none => exact hlater index (List.getElem?_eq_none_iff.mp hrecord)
  refine settleLinks_settling hrefs ?_ ?_
  · refine ⟨hform, ?_, ?_, ?_, ?_⟩
    · intro index refusal h
      exact (hstaging index).trans h
    · intro index refusal h
      exact .inl ((hstaging index).symm.trans h)
    · nofun
    intro index record hnot hmakes
    refine absurd ?_ hnot
    exact List.mem_range.mpr (List.getElem?_eq_some_iff.mp hmakes.sent).1
  · have hcard := Finset.card_filter_le (Finset.range request.records.length)
      fun index => (startSettling (stageRecords (ScopeRuns.sweptOwner table request reads).1
        (decide (request.owner ∈ table.authorityOwners)) reads request)
        request.records).refusals.get index = none
    rw [Finset.card_range] at hcard
    exact Nat.lt_succ_of_le hcard

end call

end Subconscious.ScopeSettling
