import Subconscious.ScopeWalks
import Subconscious.ScopeTombstones

/-!
# Linked scopes

The links in state linked form no cycle and lead to live parents at every point
of a run. A commit adds only links that the last cycle pass found harmless on
the very set that is committed, and a refresh adds only links whose walk over
the whole table came to nothing. Every other linked link was there before. A
link that ended stays ended for as long as its session keeps its parent, and a
session lasts until a call ends it or comes after its deadline.
-/

namespace Subconscious.ScopeLinks

open OrbitWalks ScopeRecords ScopeChanges ScopeTables ScopeChecks
open ScopeParents ScopeSync ScopeCommits ScopeRuns ScopeVersions ScopeStaging ScopeSettling
open ScopeHoldings ScopeWalks
open ScopeTombstones (crowdedFamily reunion run_crowdedFamily)

/-- A live session is linked to another session. -/
def LinkedTo (table : ScopeTable) (child parent : ScopeLinkKey) : Prop :=
  ∃ scope link, table.live? child.1 child.2.1 = some scope ∧
    scope.record.scopeEpoch = child.2.2 ∧ scope.parentState = some .linked ∧
    scope.record.parent = some link ∧ linkKey link = some parent

/-- No session is linked to itself over any number of links. -/
def Acyclic (table : ScopeTable) : Prop :=
  ∀ key, ¬ Relation.TransGen (LinkedTo table) key key

/-- A link of an owner's scopes leads to a live session. -/
def LiveAt (table : ScopeTable) (owner : String) (link : ScopeParent) : Prop :=
  ∃ up, table.live? owner link.scopeRef = some up ∧ up.record.scopeEpoch = link.scopeEpoch

/-- Every linked link names a supervised module's scope, and outside the given
owners that scope is live at the named epoch. -/
def LiveParents (table : ScopeTable) (except : String → Prop) : Prop :=
  ∀ owner scopeRef scope link, table.live? owner scopeRef = some scope →
    scope.parentState = some .linked → scope.record.parent = some link →
    ∃ parentOwner, link.owner = .reserved parentOwner ∧
      (¬ except parentOwner → LiveAt table parentOwner link)

/-- More owners may be excepted. -/
theorem LiveParents.mono (h : LiveParents table except)
    (hexcept : ∀ owner, except owner → except' owner) : LiveParents table except' := by
  intro owner scopeRef scope link hlive hstate hparent
  obtain ⟨parentOwner, hreserved, hlink⟩ := h owner scopeRef scope link hlive hstate hparent
  exact ⟨parentOwner, hreserved, fun hnot => hlink (mt (hexcept parentOwner) hnot)⟩

/-- A linked link is one the walks follow. -/
theorem LinkedTo.up (h : LinkedTo table child parent) : upLink table none child = some parent := by
  obtain ⟨scope, link, hlive, hepoch, -, hparent, hkey⟩ := h
  have hlookup : lookup table none child.1 child.2.1 = some scope.record := by
    unfold lookup
    rw [hlive]
    rfl
  rw [upLink_eq, climb, hlookup]
  dsimp only
  rw [if_neg (not_not.mpr hepoch), hparent]
  exact hkey

/-- A step keeps the graph free of cycles when every linked link that a walk
leads back from was there before the step. -/
theorem Acyclic.step (h : Acyclic table)
    (hold : ∀ a b, LinkedTo table' a b → OnCycle (upLink table' none) b →
      Reaches (upLink table' none) b a → LinkedTo table a b) : Acyclic table' := by
  intro key hcycle
  have honCycle : OnCycle (upLink table' none) key :=
    Relation.TransGen.mono (fun _ _ => LinkedTo.up) _ _ hcycle
  have hlinked : ∀ a b, Relation.ReflTransGen (LinkedTo table') key a → LinkedTo table' a b →
      LinkedTo table a b := by
    intro a b ha hlink
    have hreach : Reaches (upLink table' none) key a :=
      Relation.ReflTransGen.mono (fun _ _ => LinkedTo.up) _ _ ha
    have hb := hreach.tail hlink.up
    exact hold a b hlink (honCycle.of_reaches hb) ((honCycle.reaches_back hb).trans hreach)
  have hback : ∀ z, Relation.TransGen (LinkedTo table') key z →
      Relation.TransGen (LinkedTo table) key z := by
    intro z hz
    induction hz with
    | single hlink => exact .single (hlinked key _ .refl hlink)
    | tail hpath hlink ih => exact ih.tail (hlinked _ _ hpath.to_reflTransGen hlink)
  exact h key (hback key hcycle)

section commit

/-- The committed table holds the records of the settled set. -/
theorem committed_lookup (owner scopeRef : String) :
    lookup (committed table request reads) none owner scopeRef =
      lookup (others table request) (some (request.owner, (settled table request reads).next)) owner
        scopeRef := by
  unfold lookup ScopeTable.live?
  dsimp only
  rw [committed_owner]
  by_cases howner : owner = request.owner
  · subst howner
    rw [if_pos rfl, if_pos rfl]
    exact commitOwner_records request (table.owner request.owner).live _ _ _ scopeRef
  · rw [if_neg howner, if_neg (fun h => howner h.symm), others_owner, if_neg howner]

/-- The last cycle pass: no new linked link closes a cycle. -/
theorem cyclePass_none (hcache : CacheOk context.table (some (context.owner, settling.next)) cache)
    (h : cyclePass context settling entries cache = none) (hmem : (record, index) ∈ entries)
    (hstate : settling.newLinkStates.get record.scopeRef = some .linked)
    (hparent : record.parent = some parent) (hkey : linkKey parent = some key)
    (hcycle : OnCycle (upLink context.table (some (context.owner, settling.next))) key)
    (hmet : Reaches (upLink context.table (some (context.owner, settling.next))) key met) :
    pair met ≠ (context.owner, record.scopeRef) := by
  induction entries generalizing cache with
  | nil => cases hmem
  | cons entry rest ih =>
    unfold cyclePass at h
    split at h
    case h_1 link hlinked hlink =>
      dsimp only at h
      split at h
      case isTrue => cases h
      case isFalse hfound =>
        obtain ⟨hafter, hfree⟩ := linkClosesCycleCached_false hcache (Bool.eq_false_iff.mpr hfound)
        rcases List.mem_cons.mp hmem with heq | hrest
        · cases heq
          rw [hparent] at hlink
          cases hlink
          exact hfree key hkey hcycle met hmet
        · exact ih hafter h hrest
    case h_2 hnot =>
      rcases List.mem_cons.mp hmem with heq | hrest
      · cases heq
        exact absurd hparent (hnot parent hstate)
      · exact ih hcache h hrest

/-- A commit closes no cycle. -/
theorem committed_acyclic (hrefs : (request.records.map ScopeRecord.scopeRef).Nodup)
    (h : Acyclic table) : Acyclic (committed table request reads) := by
  refine h.step ?_
  intro a b hlink honB hba
  obtain ⟨scope, link, hlive, hepoch, hstate, hparent, hkey⟩ := hlink
  rcases live_of_committed hlive with ⟨-, hother⟩ | ⟨howner, hsynced⟩
  · exact ⟨scope, link, hother, hepoch, hstate, hparent, hkey⟩
  cases committed_link hrefs hsynced with
  | none hnone =>
    rw [hparent] at hnone
    cases hnone
  | kept parent held hheld hsame hheldParent hscopeParent hheldState =>
    rw [hparent] at hscopeParent
    cases hscopeParent
    refine ⟨held, link, ?_, hsame.trans hepoch, hheldState.symm.trans hstate, hheldParent, hkey⟩
    rw [howner]
    exact live_of_expireOwner hheld
  | checked parent state next hscopeParent hscopeState hnew =>
    exfalso
    rw [hparent] at hscopeParent
    cases hscopeParent
    rw [hstate] at hscopeState
    cases hscopeState
    obtain ⟨-, -, hpass⟩ := settled_settling hrefs
    obtain ⟨index, sent, -, -, hmakes, href, hrecord, -⟩ := committed_newLink hrefs hsynced hnew
    have hsame : sent.parent = some link := by
      rw [hrecord] at hparent
      exact hparent
    have hup : upLink (committed table request reads) none =
        upLink (others table request)
          (some (request.owner, (settled table request reads).next)) := by
      funext key
      unfold upLink
      rw [committed_lookup]
    rw [hup] at honB hba
    have hfree := cyclePass_none (CacheOk.default _ _) hpass
      (List.mem_zipIdx_iff_getElem?.mpr hmakes.sent) (href ▸ hnew) hsame hkey honB hba
    refine hfree ?_
    unfold pair
    rw [howner, href]
    rfl

/-- A link that is checked as linked leads to a live session. -/
theorem checkNewLink_linked (h : checkNewLink context owner parent next = .ok .linked) :
    ∃ parentOwner record, parent.owner = .reserved parentOwner ∧
      lookup context (some (owner, next)) parentOwner parent.scopeRef = some record ∧
      record.scopeEpoch = parent.scopeEpoch := by
  unfold checkNewLink at h
  split at h
  case h_1 => cases h
  rename_i parentOwner howner
  dsimp only at h
  split at h
  case isTrue => cases h
  split at h
  case h_1 => cases h
  case h_2 record hlookup =>
    split at h
    case isTrue => cases h
    case isFalse hepoch =>
      exact ⟨parentOwner, record, reservedModuleId_eq howner, hlookup, not_not.mp hepoch⟩

/-- A commit leaves links into the calling owner to the refresh. -/
theorem committed_liveParents (hrefs : (request.records.map ScopeRecord.scopeRef).Nodup)
    (h : LiveParents table fun _ => False) :
    LiveParents (committed table request reads) fun owner => owner = request.owner := by
  have hsame : ∀ owner scopeRef, owner ≠ request.owner →
      (committed table request reads).live? owner scopeRef = table.live? owner scopeRef := by
    intro owner scopeRef hne
    unfold ScopeTable.live?
    rw [committed_owner, if_neg hne]
  have hheld : ∀ owner scopeRef scope link, table.live? owner scopeRef = some scope →
      scope.parentState = some .linked → scope.record.parent = some link →
      ∃ parentOwner, link.owner = .reserved parentOwner ∧ (¬ parentOwner = request.owner →
        LiveAt (committed table request reads) parentOwner link) := by
    intro owner scopeRef scope link hlive hstate hparent
    obtain ⟨parentOwner, howner, hlink⟩ := h owner scopeRef scope link hlive hstate hparent
    refine ⟨parentOwner, howner, fun hne => ?_⟩
    rw [LiveAt, hsame parentOwner link.scopeRef hne]
    exact hlink not_false
  intro owner scopeRef scope link hlive hstate hparent
  rcases live_of_committed hlive with ⟨-, hother⟩ | ⟨-, hsynced⟩
  · exact hheld owner scopeRef scope link hother hstate hparent
  cases committed_link hrefs hsynced with
  | none hnone =>
    rw [hparent] at hnone
    cases hnone
  | kept parent held hswept hepoch hheldParent hscopeParent hheldState =>
    rw [hparent] at hscopeParent
    cases hscopeParent
    exact hheld request.owner scopeRef held link (live_of_expireOwner hswept)
      (hheldState.symm.trans hstate) hheldParent
  | checked parent state next hscopeParent hscopeState hnew hchecked =>
    rw [hparent] at hscopeParent
    cases hscopeParent
    rw [hstate] at hscopeState
    cases hscopeState
    obtain ⟨parentOwner, record, hreserved, hlookup, hepoch⟩ := checkNewLink_linked hchecked
    refine ⟨parentOwner, hreserved, ?_⟩
    intro hne
    unfold lookup at hlookup
    dsimp only at hlookup
    rw [if_neg (fun heq => hne heq.symm)] at hlookup
    obtain ⟨up, hup, hrecord⟩ := Option.map_eq_some_iff.mp hlookup
    refine ⟨up, ?_, ?_⟩
    · rw [hsame parentOwner link.scopeRef hne]
      unfold ScopeTable.live? at hup ⊢
      rw [others_owner, if_neg hne] at hup
      exact hup
    · rw [hrecord]
      exact hepoch

end commit

/-- A link a refresh settles as linked has a live parent and closes no cycle,
unless it was linked. -/
theorem settledState_linked
    (h : settledState table parentOwner childOwner childRef parent current = .linked) :
    LiveAt table parentOwner parent ∧
    (current = some .linked ∨ linkClosesCycle table none childOwner childRef parent = false) := by
  unfold settledState at h
  dsimp only at h
  cases hfilter : (table.live? parentOwner parent.scopeRef).filter fun scope =>
      decide (scope.record.scopeEpoch = parent.scopeEpoch) with
  | none =>
    rw [hfilter] at h
    cases current with
    | none => cases h
    | some state => cases state <;> cases h
  | some up =>
    obtain ⟨hlive, hepoch⟩ := Option.filter_eq_some_iff.mp hfilter
    refine ⟨⟨up, hlive, of_decide_eq_true hepoch⟩, ?_⟩
    rw [hfilter, Option.map_some] at h
    by_cases hlinked : current = some .linked
    · exact .inl hlinked
    right
    split at h
    case h_1 => cases h
    case h_2 heq => cases heq
    case h_3 => exact absurd rfl hlinked
    split at h
    case isTrue hpermitted =>
      rw [Bool.and_eq_true, Bool.not_eq_true'] at hpermitted
      exact hpermitted.2
    case isFalse => cases h

/-- A refresh closes no cycle. -/
theorem refreshLinksTo_acyclic (h : Acyclic table) :
    Acyclic (refreshLinksTo table parentOwner order changes).table := by
  refine h.step ?_
  rintro a b ⟨scope, link, hlive, hepoch, hstate, hparent, hkey⟩ - hba
  obtain ⟨was, hwas, hrecord, -, hupdate⟩ := refreshLinksTo_before hlive
  have hwasState : was.parentState = some .linked := by
    split at hupdate
    case h_1 =>
      rw [← hupdate]
      exact hstate
    rename_i update hsome
    obtain ⟨parent, hwasParent, -, hsettled, -⟩ := linkUpdate_some hsome
    have hlinked : update.settled = .linked := Option.some.inj (hupdate.symm.trans hstate)
    rw [hlinked] at hsettled
    obtain ⟨-, hcurrent | hfree⟩ := settledState_linked hsettled.symm
    · exact hcurrent
    exfalso
    rw [hrecord, hparent] at hwasParent
    cases hwasParent
    have hup : upLink (refreshLinksTo table parentOwner order changes).table none =
        upLink table none := by
      funext key
      unfold upLink lookup
      rw [refreshLinksTo_record]
    rw [hup] at hba
    exact linkClosesCycle_false hfree hkey hba rfl
  exact ⟨was, link, hwas, hrecord ▸ hepoch, hwasState, hrecord ▸ hparent, hkey⟩

/-- A refresh settles every link into an owner's scopes. -/
theorem refreshLinksTo_liveParents (h : LiveParents table except) (parentOwner : String)
    (order : HashOrder) (changes : List ScopeTagChange) :
    LiveParents (refreshLinksTo table parentOwner order changes).table fun owner =>
      except owner ∧ owner ≠ parentOwner := by
  have hkeeps : ∀ owner link, LiveAt table owner link →
      LiveAt (refreshLinksTo table parentOwner order changes).table owner link := by
    rintro owner link ⟨up, hup, hepoch⟩
    have hrecord := refreshLinksTo_record table parentOwner order changes owner link.scopeRef
    rw [hup, Option.map_some] at hrecord
    obtain ⟨found, hfound, hsame⟩ := Option.map_eq_some_iff.mp hrecord
    exact ⟨found, hfound, hsame ▸ hepoch⟩
  intro owner scopeRef scope link hlive hstate hparent
  obtain ⟨was, hwas, hrecord, -, hupdate⟩ := refreshLinksTo_before hlive
  have hwasParent : was.record.parent = some link := hrecord ▸ hparent
  split at hupdate
  case h_2 update hsome =>
    obtain ⟨parent, hother, howner, hsettled, -⟩ := linkUpdate_some hsome
    rw [hwasParent] at hother
    cases hother
    have hlinked : update.settled = .linked := Option.some.inj (hupdate.symm.trans hstate)
    rw [hlinked] at hsettled
    refine ⟨parentOwner, howner, fun _ => ?_⟩
    exact hkeeps _ _ (settledState_linked hsettled.symm).1
  case h_1 hnone =>
    subst hupdate
    obtain ⟨linkOwner, hreserved, hlink⟩ := h owner scopeRef scope link hwas hstate hparent
    refine ⟨linkOwner, hreserved, ?_⟩
    intro hnot
    by_cases howner : linkOwner = parentOwner
    · subst howner
      have hsettled := (linkUpdate_none hnone hparent hreserved).trans hstate
      exact hkeeps _ _ (settledState_linked (Option.some.inj hsettled)).1
    · exact hkeeps _ _ (hlink fun hexcept => hnot ⟨hexcept, howner⟩)

/-- An owner outside the list of changed ones lost nothing. -/
theorem foldl_sweepOwner_unchanged {owners : List String} (swept : ExpirySwept)
    (h : owner ∉ (owners.foldl (sweepOwner now) swept).changedOwners) :
    owner ∉ swept.changedOwners ∧
      (owners.foldl (sweepOwner now) swept).table.owner owner = swept.table.owner owner := by
  induction owners generalizing swept with
  | nil => exact ⟨h, rfl⟩
  | cons first rest ih =>
    rw [List.foldl_cons] at h ⊢
    obtain ⟨hnot, hsame⟩ := ih _ h
    rw [hsame]
    unfold sweepOwner at hnot ⊢
    dsimp only at hnot ⊢
    split at hnot
    case isTrue hnil =>
      rw [if_pos hnil]
      exact ⟨hnot, rfl⟩
    case isFalse hsome =>
      rw [if_neg hsome]
      rw [List.mem_append, not_or, List.mem_singleton] at hnot
      refine ⟨hnot.1, ?_⟩
      rw [owner_of_insert _ rfl, if_neg hnot.2]

/-- A sweep leaves links into the changed owners to the refreshes. -/
theorem sweptTable_liveParents (h : LiveParents table fun _ => False) :
    LiveParents (sweptTable table now order).table fun owner =>
      owner ∈ (sweptTable table now order).changedOwners := by
  intro owner scopeRef scope link hlive hstate hparent
  obtain ⟨parentOwner, hreserved, hlink⟩ :=
    h owner scopeRef scope link (live_of_sweptTable hlive) hstate hparent
  refine ⟨parentOwner, hreserved, ?_⟩
  intro hnot
  obtain ⟨up, hup, hepoch⟩ := hlink not_false
  refine ⟨up, ?_, hepoch⟩
  unfold ScopeTable.live? at hup ⊢
  have hsame := (foldl_sweepOwner_unchanged _ hnot).2
  unfold sweptTable
  rw [hsame]
  exact hup

/-- Once every changed owner is refreshed, every linked link leads to a live session. -/
theorem foldl_refreshSwept_liveParents {owners : List String}
    (swept : ExpirySwept) (h : LiveParents swept.table fun owner => owner ∈ owners) :
    LiveParents (owners.foldl (refreshSwept order) swept).table fun _ => False := by
  induction owners generalizing swept with
  | nil => exact h.mono fun _ => List.not_mem_nil
  | cons first rest ih =>
    rw [List.foldl_cons]
    refine ih _ ((refreshLinksTo_liveParents h first order swept.tagChanges).mono ?_)
    exact fun owner hin => (List.mem_cons.mp hin.1).resolve_left hin.2

/-- A link that ended stays ended while its session keeps the parent. -/
def EndedStays (table table' : ScopeTable) : Prop :=
  ∀ owner scopeRef scope scope', table.live? owner scopeRef = some scope →
    table'.live? owner scopeRef = some scope' → scope.cells = scope'.cells →
    scope.record.parent = scope'.record.parent → scope.parentState = some .ended →
    scope'.parentState = some .ended

/-- Where scopes only go, no link is revived. -/
theorem endedStays_of_subset
    (hlive : ∀ owner scopeRef scope, table'.live? owner scopeRef = some scope →
      table.live? owner scopeRef = some scope) : EndedStays table table' := by
  intro owner scopeRef scope scope' hscope hscope' _ _ hstate
  rw [hlive owner scopeRef scope' hscope'] at hscope
  cases hscope
  exact hstate

/-- A commit revives no link. -/
theorem committed_endedStays (hsound : Sound table) (hcells : CellsBounded table)
    (hrefs : (request.records.map ScopeRecord.scopeRef).Nodup) :
    EndedStays table (committed table request reads) := by
  intro owner scopeRef scope scope' hscope hscope' hsame hparent hstate
  rcases live_of_committed hscope' with ⟨-, hlive⟩ | ⟨rfl, hlive⟩
  · rw [hlive] at hscope
    cases hscope
    exact hstate
  have hheld : (sweptOwner table request reads).1.live[scopeRef]? = some scope ∧
      scope.record.scopeEpoch = scope'.record.scopeEpoch := by
    obtain ⟨drawn, -, hdrawn, hcommitted, -⟩ := live_of_commitOwner hlive
    have hscopeCells := commitRecord_cells hcommitted
    cases hsession : heldSession (sweptOwner table request reads).1.live scopeRef scope'.record with
    | none =>
      rw [hsession] at hscopeCells
      have hnew : scope'.cells = drawn + 1 := hscopeCells
      have hold := hcells request.owner scopeRef scope hscope
      rw [hsame, hnew] at hold
      exact absurd (le_trans hold hdrawn) (Nat.not_succ_le_self drawn)
    | some =>
      obtain ⟨hswept, hepoch⟩ := Option.filter_eq_some_iff.mp hsession
      have hbefore := live_of_expireOwner hswept
      rw [show (table.owner request.owner).live[scopeRef]? = some scope from hscope] at hbefore
      cases hbefore
      exact ⟨hswept, of_decide_eq_true hepoch⟩
  cases committed_link hrefs hlive with
  | none hnone =>
    rw [hnone] at hparent
    rw [(hsound request.owner scopeRef scope hscope).unlinked hparent] at hstate
    cases hstate
  | kept parent held hswept _ _ _ hheldState =>
    rw [hheld.1] at hswept
    cases hswept
    exact hheldState.trans hstate
  | checked parent state next hscopeParent _ hnew =>
    exact absurd hparent (newLink_not_held hrefs hlive hnew hheld.1 hheld.2)

/-- A refresh revives no link. -/
theorem refreshLinksTo_endedStays (h : EndedStays table table') :
    EndedStays table (refreshLinksTo table' parentOwner order changes).table := by
  intro owner scopeRef scope scope' hscope hscope' hcells hparent hstate
  obtain ⟨was, hwas, hrecord, hwasCells, hupdate⟩ := refreshLinksTo_before hscope'
  have hended := h owner scopeRef scope was hscope hwas (hcells.trans hwasCells.symm)
    (hparent.trans (congrArg ScopeRecord.parent hrecord.symm)) hstate
  split at hupdate
  case h_1 =>
    rw [hupdate]
    exact hended
  case h_2 update hsome =>
    obtain ⟨parent, -, -, hsettled, hne⟩ := linkUpdate_some hsome
    refine absurd ?_ hne
    rw [hsettled, hended]
    rfl

/-- The call's clock has passed the deadline of a scope. -/
def expires (scope : LiveScope) : ScopeOp → Bool
  | .change _ reads => (scope.passedDeadline reads.now).isSome
  | .sweepExpired now _ => (scope.passedDeadline now).isSome
  | .releaseConnection _ => false

/-- A scope that is live at one epoch before and after is one session, unless
the call passed its deadline. -/
def SessionsKept (op : ScopeOp) (table table' : ScopeTable) : Prop :=
  ∀ owner scopeRef scope scope', table.live? owner scopeRef = some scope →
    table'.live? owner scopeRef = some scope' →
    scope.record.scopeEpoch = scope'.record.scopeEpoch → expires scope op = false →
    scope.cells = scope'.cells

/-- A commit keeps the sessions whose epoch it sends again. -/
theorem committed_sessionsKept :
    SessionsKept (.change request reads) table (committed table request reads) := by
  intro owner scopeRef scope scope' hscope hscope' hepoch hdeadline
  rcases live_of_committed hscope' with ⟨-, hlive⟩ | ⟨rfl, hlive⟩
  · rw [hlive] at hscope
    cases hscope
    rfl
  have hswept : (sweptOwner table request reads).1.live[scopeRef]? = some scope := by
    unfold sweptOwner
    rw [expireOwner_live, show (table.owner request.owner).live[scopeRef]? = some scope from hscope]
    refine Option.filter_eq_some_iff.mpr ⟨rfl, ?_⟩
    exact Option.not_isSome_iff_eq_none.mp (Bool.eq_false_iff.mp hdeadline) ▸ rfl
  obtain ⟨_, -, -, hcommitted, -⟩ := live_of_commitOwner hlive
  have hcells := commitRecord_cells hcommitted
  rw [heldSession_of_held _ _ _ hswept hepoch] at hcells
  exact hcells.symm

/-- What every call keeps. -/
structure LinksOk (table : ScopeTable) : Prop where
  acyclic : Acyclic table
  parents : LiveParents table fun _ => False

/-- Every call keeps the linked links free of cycles. -/
theorem apply_acyclic (h : Acyclic table) (op : ScopeOp) : Acyclic (op.apply table) := by
  refine apply_induction ?_ ?_ fun _ _ _ _ => refreshLinksTo_acyclic
  · intro table' _ hlive _
    refine h.step ?_
    rintro a b ⟨scope, link, hscope, hrest⟩ - -
    exact ⟨scope, link, hlive _ _ _ hscope, hrest⟩
  · intro request reads _ haccepts
    exact refreshLinksTo_acyclic (committed_acyclic (checkCall_records haccepts.checked) h)

/-- Every call keeps the linked links on live sessions. -/
theorem apply_liveParents (h : LiveParents table fun _ => False) (op : ScopeOp) :
    LiveParents (op.apply table) fun _ => False := by
  cases op with
  | change request reads =>
    change LiveParents (ScopeSync.change table request reads).1 _
    by_cases haccepts : Accepts table request reads
    · rw [change_of_accepts haccepts]
      have hcommitted :=
        @committed_liveParents table request reads (checkCall_records haccepts.checked) h
      exact (refreshLinksTo_liveParents hcommitted request.owner reads.order _).mono
        fun owner hin => hin.2 hin.1
    · unfold LiveParents LiveAt
      simp only [refused_live haccepts]
      exact h
  | sweepExpired now order => exact foldl_refreshSwept_liveParents _ (sweptTable_liveParents h)
  | releaseConnection connectionId =>
    unfold ScopeOp.apply LiveParents LiveAt
    simp only [releaseConnection_live]
    exact h

/-- So every call keeps both. -/
theorem apply_linksOk (h : LinksOk table) (op : ScopeOp) : LinksOk (op.apply table) :=
  ⟨apply_acyclic h.acyclic op, apply_liveParents h.parents op⟩

/-- At every point of a run the linked links form no cycle and lead to live sessions. -/
theorem run_linksOk (authorityOwners : Finset String) (ops : List ScopeOp) :
    LinksOk (run authorityOwners ops) := by
  refine run_induction (motive := LinksOk) authorityOwners ?_ (fun _ op h => apply_linksOk h op) ops
  refine ⟨?_, ?_⟩
  · intro key hcycle
    obtain ⟨b, ⟨scope, link, hlive, -⟩, -⟩ := Relation.TransGen.head'_iff.mp hcycle
    exact not_live_new hlive
  · exact fun _ _ _ _ hlive => (not_live_new hlive).elim

/-- No call revives a link. -/
theorem apply_endedStays (hsound : Sound table) (hcells : CellsBounded table)
    (op : ScopeOp) : EndedStays table (op.apply table) := by
  refine apply_induction (fun table' _ hlive _ => endedStays_of_subset hlive) ?_
    (fun _ _ _ _ h => refreshLinksTo_endedStays h)
  intro request reads _ haccepts
  exact refreshLinksTo_endedStays
    (committed_endedStays hsound hcells (checkCall_records haccepts.checked))

/-- A refresh keeps every session. -/
theorem refreshLinksTo_sessionsKept (h : SessionsKept op table table') :
    SessionsKept op table (refreshLinksTo table' parentOwner order changes).table := by
  intro owner scopeRef scope scope' hscope hscope' hepoch hdeadline
  obtain ⟨was, hwas, hrecord, hcells, -⟩ := refreshLinksTo_before hscope'
  rw [← hrecord] at hepoch
  exact (h owner scopeRef scope was hscope hwas hepoch hdeadline).trans hcells

/-- Every call keeps the sessions whose deadline it does not pass. -/
theorem apply_sessionsKept : SessionsKept op table (op.apply table) := by
  refine apply_induction ?_ ?_ fun _ _ _ _ => refreshLinksTo_sessionsKept
  · intro table' _ hlive _ owner scopeRef scope scope' hscope hscope' _ _
    rw [hlive owner scopeRef scope' hscope'] at hscope
    cases hscope
    rfl
  · rintro request reads rfl _
    exact refreshLinksTo_sessionsKept committed_sessionsKept

/-- At every point of a run the linked links form no cycle and lead to live
parents at the named epoch, no call revives a link that ended while its session
keeps the parent, and a session ends only with its epoch or at its deadline. -/
theorem links_acyclic_and_live (authorityOwners : Finset String) (ops : List ScopeOp) :
    Acyclic (run authorityOwners ops) ∧
    (∀ owner scopeRef scope link,
      (run authorityOwners ops).live? owner scopeRef = some scope →
      scope.parentState = some .linked → scope.record.parent = some link →
      ∃ parentOwner up, link.owner = .reserved parentOwner ∧
        (run authorityOwners ops).live? parentOwner link.scopeRef = some up ∧
        up.record.scopeEpoch = link.scopeEpoch) ∧
    ∀ op : ScopeOp, EndedStays (run authorityOwners ops) (op.apply (run authorityOwners ops)) ∧
      SessionsKept op (run authorityOwners ops) (op.apply (run authorityOwners ops)) := by
  have hlinks := run_linksOk authorityOwners ops
  refine ⟨hlinks.acyclic, ?_, ?_⟩
  · intro owner scopeRef scope link hlive hstate hparent
    obtain ⟨parentOwner, hreserved, hlink⟩ :=
      hlinks.parents owner scopeRef scope link hlive hstate hparent
    obtain ⟨up, hup, hepoch⟩ := hlink not_false
    exact ⟨parentOwner, up, hreserved, hup, hepoch⟩
  · intro op
    exact ⟨apply_endedStays (run_sound authorityOwners ops) (run_cellsBounded authorityOwners) op,
      apply_sessionsKept⟩

/-- A link that ended is linked again at the same epoch and parent. -/
theorem ended_link_linked_again :
    ((run ∅ crowdedFamily).live? "owner" "a").bind LiveScope.parentState = some .ended ∧
    ((change (run ∅ crowdedFamily) reunion (idleAt 10)).1.live? "owner" "a").bind
      LiveScope.parentState = some .linked ∧
    ((run ∅ crowdedFamily).live? "owner" "a").map (fun scope =>
        (scope.record.scopeEpoch, scope.record.parent)) =
      ((change (run ∅ crowdedFamily) reunion (idleAt 10)).1.live? "owner" "a").map fun scope =>
        (scope.record.scopeEpoch, scope.record.parent) :=
  run_crowdedFamily.relinked (Nat.le_refl _)

end Subconscious.ScopeLinks
