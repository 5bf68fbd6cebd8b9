import Subconscious.ScopeHoldings

/-!
# Ended sessions

An owner's memory of its ended sessions is a queue and an index by ref. Both
hold the same sessions, each once, and never more than the bound. A session
that is remembered lies below the live one of its ref. A call leaves nothing
live at or below it unless the call's own sweep ends so many sessions that
they push it out of the queue.
-/

namespace Subconscious.ScopeTombstones

open HashMaps TreeMaps ScopeRecords ScopeChanges ScopeTables ScopeChecks ScopeSync ScopeCommits
open ScopeRuns ScopeStaging ScopeSettling ScopeHoldings ScopeParents
open List (length_append length_cons length_map map_map mem_cons mem_cons_self mem_map
  mem_singleton nodup_cons not_mem_nil)

/-- The cause an index has for a session. -/
def indexed (byRef : HashMap String (TreeMap Nat EndCause)) (scopeRef : String)
    (scopeEpoch : Nat) : Option EndCause :=
  (byRef.get scopeRef).bind fun epochs => epochs[scopeEpoch]?

/-- The queue and the index hold the same sessions, each once. -/
structure Aligned (order : List (String × Nat)) (byRef : HashMap String (TreeMap Nat EndCause)) :
    Prop where
  nodup : order.Nodup
  same : ∀ scopeRef scopeEpoch,
    (scopeRef, scopeEpoch) ∈ order ↔ (indexed byRef scopeRef scopeEpoch).isSome

/-- An owner's memory is aligned and bounded. -/
structure Tidy (tombstones : Tombstones) : Prop where
  aligned : Aligned tombstones.order tombstones.byRef
  bounded : tombstones.order.length ≤ maxScopeTombstonesPerOwner

section

variable (byRef : HashMap String (TreeMap Nat EndCause)) (scopeRef : String) (scopeEpoch : Nat)

/-- Forgetting a session takes it alone out of the index. -/
theorem indexed_forgetEpoch :
    indexed (forgetEpoch byRef scopeRef scopeEpoch) otherRef otherEpoch =
      if otherRef = scopeRef ∧ otherEpoch = scopeEpoch then none
      else indexed byRef otherRef otherEpoch := by
  unfold forgetEpoch indexed
  cases hepochs : byRef.get scopeRef with
  | none =>
    dsimp only
    split
    case isTrue heq =>
      rw [heq.1, hepochs]
      rfl
    case isFalse => rfl
  | some epochs =>
    dsimp only
    have hrest : ∀ epoch : Nat, (epochs.erase scopeEpoch)[epoch]? =
        if epoch = scopeEpoch then none else epochs[epoch]? := get_erase epochs
    by_cases href : otherRef = scopeRef
    · subst href
      rw [hepochs]
      have hlookup : ((if (epochs.erase scopeEpoch).isEmpty then byRef.remove otherRef
          else byRef.insert otherRef (epochs.erase scopeEpoch)).get otherRef).bind
            (fun found => found[otherEpoch]?) = (epochs.erase scopeEpoch)[otherEpoch]? := by
        split
        case isTrue hempty =>
          rw [HashMap.get_remove, if_pos rfl]
          rw [Std.ExtTreeMap.isEmpty_iff] at hempty
          rw [hempty]
          simp
        case isFalse =>
          rw [HashMap.get_insert, if_pos rfl]
          rfl
      rw [hlookup, hrest]
      by_cases hepoch : otherEpoch = scopeEpoch
      · rw [if_pos hepoch, if_pos ⟨rfl, hepoch⟩]
      · rw [if_neg hepoch, if_neg (fun h => hepoch h.2)]
        rfl
    · rw [if_neg (show ¬ (otherRef = scopeRef ∧ otherEpoch = scopeEpoch) from fun h => href h.1)]
      split
      case isTrue => rw [HashMap.get_remove, if_neg href]
      case isFalse => rw [HashMap.get_insert, if_neg href]

/-- Indexing a session adds it alone. -/
theorem indexed_insert :
    indexed (byRef.insert scopeRef
        (((byRef.get scopeRef).getD ∅).insert scopeEpoch cause)) otherRef otherEpoch =
      if otherRef = scopeRef ∧ otherEpoch = scopeEpoch then some cause
      else indexed byRef otherRef otherEpoch := by
  unfold indexed
  rw [HashMap.get_insert]
  by_cases href : otherRef = scopeRef
  · subst href
    rw [if_pos rfl, Option.bind_some, get_insert]
    by_cases hepoch : otherEpoch = scopeEpoch
    · rw [if_pos hepoch, if_pos ⟨rfl, hepoch⟩]
    rw [if_neg hepoch, if_neg (fun h => hepoch h.2)]
    cases byRef.get otherRef with
    | none => simp
    | some => rfl
  · rw [if_neg href, if_neg (fun h => href h.1)]

end

/-- Forgetting from the front leaves as many of the last sessions as there is room for. -/
theorem evictTombstones_order (byRef : HashMap String (TreeMap Nat EndCause))
    (order : List (String × Nat)) : (evictTombstones byRef order).order =
      order.drop (order.length - maxScopeTombstonesPerOwner) := by
  induction order generalizing byRef with
  | nil => rfl
  | cons session rest ih =>
    obtain ⟨scopeRef, scopeEpoch⟩ := session
    rw [length_cons, evictTombstones]
    split
    case isTrue hfull => rw [ih, Nat.succ_sub (Nat.le_of_lt_succ hfull), List.drop_succ_cons]
    case isFalse hfits =>
      rw [Nat.sub_eq_zero_of_le (Nat.le_of_not_lt hfits)]
      rfl

/-- Forgetting from the front keeps the queue and the index aligned. -/
theorem evictTombstones_aligned (byRef : HashMap String (TreeMap Nat EndCause))
    (h : Aligned order byRef) :
    Aligned (evictTombstones byRef order).order (evictTombstones byRef order).byRef := by
  induction order generalizing byRef with
  | nil => exact h
  | cons session rest ih =>
    obtain ⟨scopeRef, scopeEpoch⟩ := session
    unfold evictTombstones
    split
    case isFalse => exact h
    obtain ⟨hnot, hnodup⟩ := nodup_cons.mp h.nodup
    refine ih _ ⟨hnodup, ?_⟩
    intro otherRef otherEpoch
    rw [indexed_forgetEpoch]
    have hsame := h.same otherRef otherEpoch
    rw [mem_cons] at hsame
    split
    case isTrue heq =>
      rw [heq.1, heq.2]
      simpa using hnot
    case isFalse hne =>
      rw [← hsame]
      constructor
      · exact .inr
      rintro (heq | hmem)
      · exact absurd ⟨congrArg Prod.fst heq, congrArg Prod.snd heq⟩ hne
      · exact hmem

/-- Whether a session is remembered. -/
def Remembers (tombstones : Tombstones) (scopeRef : String) (scopeEpoch : Nat) : Prop :=
  (scopeRef, scopeEpoch) ∈ tombstones.order

variable {state : OwnerScopes}

/-- A session is queued if it is indexed. -/
theorem Tidy.mem_iff (h : Tidy tombstones) (scopeRef : String) (scopeEpoch : Nat) :
    (scopeRef, scopeEpoch) ∈ tombstones.order ↔
      ((tombstones.byRef.get scopeRef).getD ∅)[scopeEpoch]?.isSome = true := by
  rw [h.aligned.same, indexed]
  cases tombstones.byRef.get scopeRef with
  | none => simp
  | some => rfl

/-- A session is queued once, and the oldest ones make room for it. -/
theorem Tidy.insert_order (h : Tidy tombstones) (scopeRef : String) (scopeEpoch : Nat)
    (cause : EndCause) :
    (tombstones.insert scopeRef scopeEpoch cause).order =
      if (scopeRef, scopeEpoch) ∈ tombstones.order then tombstones.order
      else (tombstones.order ++ [(scopeRef, scopeEpoch)]).drop
        (tombstones.order.length + 1 - maxScopeTombstonesPerOwner) := by
  unfold Tombstones.insert
  dsimp only
  by_cases hmem : (scopeRef, scopeEpoch) ∈ tombstones.order
  · rw [if_pos hmem, if_pos ((h.mem_iff scopeRef scopeEpoch).mp hmem)]
  · rw [if_neg hmem, if_neg (mt (h.mem_iff scopeRef scopeEpoch).mpr hmem), evictTombstones_order,
      length_append, List.length_singleton]

/-- Remembering a session keeps the memory aligned and bounded. -/
theorem Tidy.insert (h : Tidy tombstones) (scopeRef : String) (scopeEpoch : Nat)
    (cause : EndCause) : Tidy (tombstones.insert scopeRef scopeEpoch cause) := by
  have horder := h.insert_order scopeRef scopeEpoch cause
  refine ⟨?_, ?_⟩
  · unfold Tombstones.insert
    dsimp only
    split
    case isTrue => exact h.aligned
    rename_i hnew
    have hfresh := mt (h.mem_iff scopeRef scopeEpoch).mp hnew
    refine evictTombstones_aligned _ ⟨?_, ?_⟩
    · rw [List.nodup_append]
      refine ⟨h.aligned.nodup, List.nodup_singleton _, ?_⟩
      intro session hsession other hother heq
      rw [mem_singleton] at hother
      exact hfresh (hother ▸ heq ▸ hsession)
    intro otherRef otherEpoch
    rw [indexed_insert, List.mem_append, mem_singleton, Prod.mk.injEq]
    split
    case isTrue heq => simp [heq]
    case isFalse hne =>
      rw [← h.aligned.same]
      simp [hne]
  · rw [horder]
    split
    case isTrue => exact h.bounded
    case isFalse =>
      rw [List.length_drop, length_append, List.length_singleton]
      omega

section

variable {α : Type} {scopeRef : α → String} {scopeEpoch : α → Nat} {entries : List α}
  {cause : EndCause}

/-- Inserting a list of sessions adds no others. -/
theorem Tidy.foldl_insert (h : Tidy tombstones) :
    Tidy (entries.foldl (fun acc entry => acc.insert (scopeRef entry) (scopeEpoch entry) cause)
        tombstones) ∧
      ∀ ref epoch, Remembers (entries.foldl (fun acc entry =>
          acc.insert (scopeRef entry) (scopeEpoch entry) cause) tombstones) ref epoch →
        Remembers tombstones ref epoch ∨
          ∃ entry ∈ entries, ref = scopeRef entry ∧ epoch = scopeEpoch entry := by
  refine List.foldlRecOn (motive := fun acc : Tombstones => Tidy acc ∧
    ∀ ref epoch, Remembers acc ref epoch → Remembers tombstones ref epoch ∨
      ∃ entry ∈ entries, ref = scopeRef entry ∧ epoch = scopeEpoch entry) entries _
    ⟨h, fun _ _ hmem => .inl hmem⟩ ?_
  rintro acc ⟨htidy, hsubset⟩ entry hentry
  refine ⟨htidy.insert _ _ _, ?_⟩
  intro ref epoch hmem
  rw [Remembers, htidy.insert_order] at hmem
  split at hmem
  case isTrue => exact hsubset ref epoch hmem
  case isFalse =>
    rcases List.mem_append.mp (List.mem_of_mem_drop hmem) with hold | hnew
    · exact hsubset ref epoch hold
    · obtain ⟨rfl, rfl⟩ := Prod.mk.inj (mem_singleton.mp hnew)
      exact .inr ⟨entry, hentry, rfl, rfl⟩

/-- New sessions are queued in order behind the old ones, as far as there is room. -/
theorem Tidy.foldl_order (h : Tidy tombstones)
    (hfresh : ∀ entry ∈ entries, (scopeRef entry, scopeEpoch entry) ∉ tombstones.order)
    (hnodup : (entries.map fun entry => (scopeRef entry, scopeEpoch entry)).Nodup) :
    (entries.foldl (fun acc entry => acc.insert (scopeRef entry) (scopeEpoch entry) cause)
      tombstones).order =
        (tombstones.order ++ entries.map fun entry => (scopeRef entry, scopeEpoch entry)).drop
          (tombstones.order.length + entries.length - maxScopeTombstonesPerOwner) := by
  induction entries generalizing tombstones with
  | nil =>
    have hfits := h.bounded
    rw [List.map_nil, List.append_nil, List.length_nil, Nat.add_zero, Nat.sub_eq_zero_of_le hfits]
    rfl
  | cons entry entries ih =>
    obtain ⟨hhead, hnodup⟩ := nodup_cons.mp hnodup
    have hnext := h.insert_order (scopeRef entry) (scopeEpoch entry) cause
    rw [if_neg (hfresh entry mem_cons_self)] at hnext
    have hfits := h.bounded
    have hroom : tombstones.order.length + 1 - maxScopeTombstonesPerOwner ≤
        (tombstones.order ++ [(scopeRef entry, scopeEpoch entry)]).length := by
      rw [length_append, List.length_singleton]
      omega
    rw [List.foldl_cons, ih (h.insert _ _ _) ?_ hnodup, hnext]
    · rw [← List.drop_append_of_le_length hroom, List.drop_drop, List.append_assoc, List.length_drop,
        length_append, List.length_singleton, length_cons]
      have hsum : tombstones.order.length + 1 - maxScopeTombstonesPerOwner +
          (tombstones.order.length + 1 - (tombstones.order.length + 1 - maxScopeTombstonesPerOwner) +
            entries.length - maxScopeTombstonesPerOwner) =
          tombstones.order.length + (entries.length + 1) - maxScopeTombstonesPerOwner := by
        omega
      rw [hsum]
      rfl
    · intro later hlater hmem
      rw [hnext] at hmem
      rcases List.mem_append.mp (List.mem_of_mem_drop hmem) with hold | hnew
      · exact hfresh later (List.mem_cons_of_mem _ hlater) hold
      · exact hhead (mem_map.mpr ⟨later, hlater, mem_singleton.mp hnew⟩)

end

section

variable (h : Tidy tombstones) (hmem : Remembers tombstones scopeRef scopeEpoch)
include h hmem

/-- The latest remembered session of a ref is not below any other. -/
theorem Tidy.latest : ∃ latest, tombstones.latest scopeRef = some latest ∧ scopeEpoch ≤ latest := by
  have hsome := (h.aligned.same scopeRef scopeEpoch).mp hmem
  unfold indexed at hsome
  unfold Tombstones.latest
  cases hepochs : tombstones.byRef.get scopeRef with
  | none =>
    rw [hepochs] at hsome
    cases hsome
  | some epochs =>
    rw [hepochs] at hsome
    have hkey : scopeEpoch ∈ epochs.keys := by
      rw [Std.ExtTreeMap.mem_keys, ← Std.ExtTreeMap.isSome_getElem?_iff_mem]
      exact hsome
    obtain ⟨latest, hlast, hle⟩ := le_getLast_keys hkey
    refine ⟨latest, hlast, ?_⟩
    rcases hle with rfl | hlt
    · exact le_refl _
    · exact Nat.le_of_lt (Nat.compare_eq_lt.mp hlt)

/-- A remembered session has a cause. -/
theorem Tidy.cause : ∃ cause, tombstones.cause scopeRef scopeEpoch = some cause :=
  Option.isSome_iff_exists.mp ((h.aligned.same scopeRef scopeEpoch).mp hmem)

end

/-- A ref of which nothing is remembered. -/
theorem Tidy.unremembered (h : Tidy tombstones)
    (hnone : ∀ scopeEpoch, (scopeRef, scopeEpoch) ∉ tombstones.order) :
    (∀ scopeEpoch, tombstones.cause scopeRef scopeEpoch = none) ∧
      tombstones.latest scopeRef = none := by
  have hindexed : ∀ scopeEpoch, indexed tombstones.byRef scopeRef scopeEpoch = none := by
    intro scopeEpoch
    rw [← Option.not_isSome_iff_eq_none, ← h.aligned.same]
    exact hnone scopeEpoch
  refine ⟨hindexed, ?_⟩
  cases hlatest : tombstones.latest scopeRef with
  | none => rfl
  | some last =>
    obtain ⟨epochs, hepochs, hlast⟩ := Option.bind_eq_some_iff.mp hlatest
    have hkey := Std.ExtTreeMap.mem_keys.mp (List.mem_of_getLast? hlast)
    have hsome := Std.ExtTreeMap.isSome_getElem?_iff_mem.mpr hkey
    have hno := hindexed last
    rw [indexed, hepochs, Option.bind_some] at hno
    rw [hno] at hsome
    cases hsome

/-- An owner's memory is tidy, and what it remembers lies below what is live. -/
structure Buried (state : OwnerScopes) : Prop where
  tidy : Tidy state.tombstones
  below : ∀ (scopeRef : String) scopeEpoch scope, Remembers state.tombstones scopeRef scopeEpoch →
    state.live[scopeRef]? = some scope → scopeEpoch < scope.record.scopeEpoch

/-- Expiry buries what it ends. -/
theorem expireOwner_buried (h : Buried state) : Buried (expireOwner owner state now).1 := by
  obtain ⟨htidy, hnew⟩ := h.tidy.foldl_insert
  refine ⟨htidy, ?_⟩
  intro scopeRef scopeEpoch scope hmem hlive
  have hbefore := live_of_expireOwner hlive
  rcases hnew scopeRef scopeEpoch hmem with hold | ⟨expired, hexpired, rfl, -⟩
  · exact h.below scopeRef scopeEpoch scope hold hbefore
  obtain ⟨found, deadline, hfound, hdeadline, -⟩ := mem_expired.mp hexpired
  rw [expireOwner_live, hfound] at hlive
  simp [Option.filter, hdeadline] at hlive

/-- The session an expiry names. -/
def expiredSession (scope : ScopeExpired) : String × Nat := (scope.scopeRef, scope.scopeEpoch)

/-- What expires is queued behind what was remembered, as far as there is room. -/
theorem expireOwner_order (h : Buried state) :
    (expireOwner owner state now).1.tombstones.order =
      (state.tombstones.order ++ (expireOwner owner state now).2.map expiredSession).drop
        (state.tombstones.order.length + (expireOwner owner state now).2.length -
          maxScopeTombstonesPerOwner) := by
  refine h.tidy.foldl_order ?_ ?_
  · intro scope hscope hmem
    obtain ⟨found, deadline, hfound, -, hexpired⟩ := mem_expired.mp hscope
    have hbelow := h.below _ _ found hmem hfound
    rw [hexpired] at hbelow
    exact Nat.lt_irrefl _ hbelow
  · refine List.pairwise_map.mpr (List.Pairwise.filterMap _ ?_ (List.pairwise_map.mp
      (nodup_keys state.live)))
    intro entry other hne scope hscope later hlater heq
    obtain ⟨_, _, rfl⟩ := Option.map_eq_some_iff.mp hscope
    obtain ⟨_, _, rfl⟩ := Option.map_eq_some_iff.mp hlater
    exact hne (Prod.ext_iff.mp heq).1

/-- An accepted record lies above every session its owner remembers. -/
theorem accepted_above (h : Buried state)
    (htombstone : tombstoneRefusal record state.tombstones = none)
    (hepoch : epochRefusal record state.live[record.scopeRef]? state.tombstones = none)
    (hmem : Remembers state.tombstones record.scopeRef scopeEpoch) :
    scopeEpoch < record.scopeEpoch := by
  unfold epochRefusal at hepoch
  cases hheld : state.live[record.scopeRef]? with
  | some =>
    rw [hheld] at hepoch
    dsimp only at hepoch
    split at hepoch
    case isTrue => cases hepoch
    case isFalse hnot =>
      have hbelow := h.below _ _ _ hmem hheld
      omega
  | none =>
    rw [hheld] at hepoch
    obtain ⟨latest, hlatest, hle⟩ := h.tidy.latest hmem
    rw [hlatest] at hepoch
    have hnot : ¬ record.scopeEpoch < latest := by
      intro hlt
      simp [Option.filter, hlt] at hepoch
    have hne : scopeEpoch ≠ record.scopeEpoch := by
      rintro rfl
      obtain ⟨cause, hcause⟩ := h.tidy.cause hmem
      unfold tombstoneRefusal at htombstone
      dsimp only at htombstone
      rw [hcause] at htombstone
      cases htombstone
    omega

/-- An accepted record is not below the held one. -/
theorem accepted_not_below (hepoch : epochRefusal record (some held) state.tombstones = none) :
    held.record.scopeEpoch ≤ record.scopeEpoch := by
  unfold epochRefusal at hepoch
  dsimp only at hepoch
  split at hepoch
  case isTrue => cases hepoch
  case isFalse hnot => omega

/-- A commit buries what it replaces and nothing else. -/
theorem synced_buried (hrefs : (request.records.map ScopeRecord.scopeRef).Nodup)
    (h : Buried (sweptOwner table request reads).1) :
    Buried (synced table request reads).state ∧
      ∀ (scopeRef : String) scopeEpoch scope,
        Remembers (sweptOwner table request reads).1.tombstones scopeRef scopeEpoch →
        (synced table request reads).state.live[scopeRef]? = some scope →
          scopeEpoch < scope.record.scopeEpoch := by
  have hswept : ∀ (scopeRef : String) scopeEpoch scope,
      Remembers (sweptOwner table request reads).1.tombstones scopeRef scopeEpoch →
      (synced table request reads).state.live[scopeRef]? = some scope →
        scopeEpoch < scope.record.scopeEpoch := by
    intro scopeRef scopeEpoch scope hmem hlive
    rcases committed_record hrefs hlive with
      ⟨held, hheld, hsame⟩ | ⟨index, sent, haccepted, rfl, hstored⟩
    · rw [← hsame]
      exact h.below scopeRef scopeEpoch held hmem hheld
    obtain ⟨htombstone, hepoch, -⟩ := stagingRefusal_none haccepted
    rw [← hstored]
    exact accepted_above h htombstone hepoch hmem
  refine ⟨?_, hswept⟩
  obtain ⟨htidy, hnew⟩ := h.tidy.foldl_insert
  refine ⟨htidy, ?_⟩
  intro scopeRef scopeEpoch scope hmem hlive
  rcases hnew scopeRef scopeEpoch hmem with hold | ⟨ended, hended, rfl, rfl⟩
  · exact hswept scopeRef scopeEpoch scope hold hlive
  obtain ⟨⟨endedRef, held⟩, hentry, rfl⟩ := mem_map.mp hended
  obtain ⟨hold, hreplaced⟩ := List.mem_filter.mp hentry
  have hheld := mem_toList.mp hold
  dsimp only at hlive hheld hreplaced ⊢
  obtain ⟨-, hnext, -⟩ := live_of_commitOwner hlive
  rw [hnext] at hreplaced
  have hne : scope.record.scopeEpoch ≠ held.record.scopeEpoch := by
    simpa using hreplaced
  rcases committed_record hrefs hlive with
    ⟨other, hother, hsame⟩ | ⟨index, sent, haccepted, rfl, hstored⟩
  · rw [hheld] at hother
    cases hother
    exact absurd (congrArg ScopeRecord.scopeEpoch hsame).symm hne
  obtain ⟨-, hepoch, -⟩ := stagingRefusal_none haccepted
  rw [hheld] at hepoch
  have hle := accepted_not_below hepoch
  rw [← hstored] at hne ⊢
  have hsent : (storedRecord sent).scopeEpoch = sent.scopeEpoch := rfl
  omega

/-- Every owner of the table is buried. -/
def AllBuried (table : ScopeTable) : Prop := ∀ owner, Buried (table.owner owner)

/-- A refresh moves no session. -/
theorem refreshLinksTo_buried (h : AllBuried table) :
    AllBuried (refreshLinksTo table parentOwner order changes).table := by
  intro owner
  have hframe := (refreshLinksTo_moved table parentOwner order changes).frame owner
  refine ⟨hframe.tombstones ▸ (h owner).tidy, ?_⟩
  intro scopeRef scopeEpoch scope hmem hlive
  rw [hframe.tombstones] at hmem
  have hrecord := refreshLinksTo_record table parentOwner order changes owner scopeRef
  rw [show (refreshLinksTo table parentOwner order changes).table.live? owner scopeRef = some scope
    from hlive, Option.map_some] at hrecord
  obtain ⟨was, hwas, hsame⟩ := Option.map_eq_some_iff.mp hrecord.symm
  rw [← hsame]
  exact (h owner).below scopeRef scopeEpoch was hmem hwas

/-- An accepted call keeps every owner buried. -/
theorem committed_buried (h : AllBuried table) (haccepts : Accepts table request reads) :
    AllBuried (committed table request reads) := by
  intro owner
  rw [committed_owner]
  split
  case isTrue =>
    have hrefs := checkCall_records haccepts.checked
    exact (synced_buried hrefs (expireOwner_buried (h request.owner))).1
  case isFalse => exact h owner

/-- Every call keeps every owner buried. -/
theorem apply_buried (h : AllBuried table) (op : ScopeOp) : AllBuried (op.apply table) := by
  cases op with
  | change request reads =>
    change AllBuried (ScopeSync.change table request reads).1
    by_cases haccepts : Accepts table request reads
    · rw [change_of_accepts haccepts]
      exact refreshLinksTo_buried (committed_buried h haccepts)
    intro owner
    rw [refused_owner haccepts]
    exact h owner
  | sweepExpired now order =>
    refine List.foldlRecOn (motive := fun swept : ExpirySwept => AllBuried swept.table) _ _ ?_ ?_
    · intro owner
      have howner := sweptTable_owner table now order owner
      unfold sweptTable at howner
      rw [howner]
      exact expireOwner_buried (h owner)
    · intro swept hswept owner _
      exact refreshLinksTo_buried hswept
  | releaseConnection connectionId =>
    intro owner
    change Buried ((ScopeSync.releaseConnection table connectionId).owner owner)
    rw [releaseConnection_owner]
    unfold releaseOwner
    split
    case isTrue => exact ⟨(h owner).tidy, (h owner).below⟩
    case isFalse => exact h owner

/-- Along every run every owner is buried. -/
theorem run_buried (authorityOwners : Finset String) (ops : List ScopeOp) :
    AllBuried (run authorityOwners ops) := by
  refine run_induction (motive := AllBuried) authorityOwners ?_ (fun _ op h => apply_buried h op) ops
  intro owner
  refine ⟨⟨⟨List.nodup_nil, ?_⟩, Nat.zero_le _⟩, ?_⟩
  · intro scopeRef scopeEpoch
    exact ⟨fun hmem => absurd hmem not_mem_nil, nofun⟩
  · intro scopeRef scopeEpoch scope hmem
    exact absurd hmem not_mem_nil

/-- A remembered session stays remembered through an expiry that leaves room for
it, the sessions behind it and those that expire. -/
theorem Buried.kept (h : Buried state)
    (horder : state.tombstones.order = older ++ (scopeRef, scopeEpoch) :: younger)
    (hroom : younger.length + (expireOwner owner state now).2.length < maxScopeTombstonesPerOwner) :
    Remembers (expireOwner owner state now).1.tombstones scopeRef scopeEpoch := by
  have hlength := congrArg List.length horder
  rw [length_append, length_cons] at hlength
  rw [Remembers, expireOwner_order h, horder, List.append_assoc, ← horder,
    List.drop_append_of_le_length (by omega)]
  exact List.mem_append_right _ mem_cons_self

/-- Along every run an owner's queue and index hold the same sessions, each once
and within the bound, and what they remember lies below what is live. A session
that is remembered before a call lies below everything the call leaves live, if
the sessions behind it in the queue and those the call's own sweep expires are
fewer than the bound. -/
theorem ended_sessions_stay_ended (authorityOwners : Finset String) (ops : List ScopeOp) :
    (∀ owner, Buried ((run authorityOwners ops).owner owner)) ∧
    ∀ request reads applied, (change (run authorityOwners ops) request reads).2 = .ok applied →
      ∀ older (scopeRef : String) scopeEpoch younger scope,
        ((run authorityOwners ops).owner request.owner).tombstones.order =
          older ++ (scopeRef, scopeEpoch) :: younger →
        younger.length + (sweptOwner (run authorityOwners ops) request reads).2.length <
          maxScopeTombstonesPerOwner →
        (change (run authorityOwners ops) request reads).1.live? request.owner scopeRef =
          some scope → scopeEpoch < scope.record.scopeEpoch := by
  have hburied := run_buried authorityOwners ops
  refine ⟨hburied, ?_⟩
  intro request reads applied happlied older scopeRef scopeEpoch younger scope horder hroom hlive
  have hmem : Remembers (sweptOwner (run authorityOwners ops) request reads).1.tombstones scopeRef
      scopeEpoch :=
    (hburied request.owner).kept horder hroom
  have haccepts := accepts_of_ok happlied
  rw [change_of_accepts haccepts] at hlive
  have hrefs := checkCall_records haccepts.checked
  have hsweptBuried : Buried (sweptOwner (run authorityOwners ops) request reads).1 :=
    expireOwner_buried (hburied request.owner)
  have hrecord := refreshLinksTo_record (committed (run authorityOwners ops) request reads)
    request.owner reads.order (synced (run authorityOwners ops) request reads).applied.tagChanges
    request.owner scopeRef
  rw [show (refreshLinksTo _ _ _ _).table.live? request.owner scopeRef = some scope from hlive,
    Option.map_some] at hrecord
  obtain ⟨was, hwas, hsame⟩ := Option.map_eq_some_iff.mp hrecord.symm
  unfold ScopeTable.live? at hwas
  rw [committed_owner, if_pos rfl] at hwas
  rw [← hsame]
  exact (synced_buried hrefs hsweptBuried).2 scopeRef scopeEpoch was hmem hwas

/-- A session that was synced and then left out. -/
def endedSession : List ScopeOp :=
  [.change (callBy "owner" 1 [.new "scope" 2 .head] none) (idleAt 0),
    .change (callBy "owner" 2 [] none) (idleAt 1)]

/-- The next session of the same ref. -/
def nextSession : ScopeChange := callBy "owner" 3 [.new "scope" 3 .head] none

/-- The theorem at a session that ended and the one that follows it. -/
theorem ended_sessions_stay_ended_nextSession :
    ((run ∅ endedSession).owner "owner").tombstones.order = [("scope", 2)] ∧
    ∃ scope, (change (run ∅ endedSession) nextSession (idleAt 2)).1.live? "owner" "scope" =
      some scope ∧ 2 < scope.record.scopeEpoch := by
  have horder : ((run ∅ endedSession).owner "owner").tombstones.order = [("scope", 2)] := by
    set_option maxRecDepth 8000 in
    decide
  have hroom : 0 + (sweptOwner (run ∅ endedSession) nextSession (idleAt 2)).2.length <
      maxScopeTombstonesPerOwner := by
    set_option maxRecDepth 8000 in
    decide
  have haccepted : (change (run ∅ endedSession) nextSession (idleAt 2)).2.toOption.isSome = true := by
    set_option maxRecDepth 8000 in
    decide
  have hlive : ((change (run ∅ endedSession) nextSession (idleAt 2)).1.live? "owner"
      "scope").isSome = true := by
    set_option maxRecDepth 8000 in
    decide
  refine ⟨horder, ?_⟩
  obtain ⟨scope, hscope⟩ := Option.isSome_iff_exists.mp hlive
  cases hchange : (change (run ∅ endedSession) nextSession (idleAt 2)).2 with
  | error =>
    rw [hchange] at haccepted
    cases haccepted
  | ok applied =>
    exact ⟨scope, hscope, (ended_sessions_stay_ended ∅ endedSession).2 nextSession (idleAt 2)
      applied hchange [] "scope" 2 [] scope horder hroom hscope⟩

/-- A record whose ref is neither live nor remembered is staged if it passes on its own. -/
theorem stagingRefusal_new {prepared : HashMap Nat RecordRefusal}
    (hlive : state.live[record.scopeRef]? = none)
    (hnone : ∀ scopeEpoch, (record.scopeRef, scopeEpoch) ∉ state.tombstones.order)
    (htidy : Tidy state.tombstones) (hprepared : prepared.get index = none)
    (hcarriers : carrierRefusal record = none)
    (hattributes : attributeRefusal record authorized = none)
    (hflow : flowIdentityRefusal record = none) (hexpiry : expiryRefusal record none reads.now = none) :
    stagingRefusal state authorized reads prepared record index = none := by
  obtain ⟨hcause, hlatest⟩ := htidy.unremembered hnone
  simp only [stagingRefusal, recordRefusal, tombstoneRefusal, epochRefusal, idleRefusal, hlive,
    hprepared, hcarriers, hattributes, hflow, hexpiry, hcause, hlatest]
  rfl

/-- A scope with a deadline. -/
def guest (index : Nat) : ScopeRecord :=
  { ScopeRecord.new (String.ofList (List.replicate (index + 1) 'b')) 1 .worker with
    expiresAtMs := some 10 }

/-- A child with the same deadline. -/
def child : ScopeRecord :=
  { ScopeRecord.new "a" 1 .worker with
    parent := some ⟨.reserved "owner", "p", 1⟩
    expiresAtMs := some 10 }

/-- A parent and its child. The parent ends as a crowd of other scopes comes, and
the child and the crowd share a deadline. The call that sees the deadline pass
expires them all, which pushes parent and child out of the queue, and brings both
back at their old epochs. -/
def family : ScopeOp := .change (callBy "owner" 1 [.new "p" 1 .head, child] none) (idleAt 0)

/-- The parent ends and guests come. -/
def crowding (count : Nat) : ScopeChange :=
  callBy "owner" 2 ((List.range count).map guest) (some [⟨"p", 1⟩])

/-- Parent and child again. -/
def reunion : ScopeChange :=
  callBy "owner" 3 [.new "p" 1 .head, { child with expiresAtMs := none }] none

/-- Guests are named by their number of letters. -/
theorem guest_ref (index : Nat) :
    (guest index).scopeRef.toList = 'b' :: List.replicate index 'b' :=
  String.toList_ofList

/-- A name with another first letter is no guest's. -/
theorem guest_ne (name : String) (h : name.toList.head? ≠ some 'b') (index : Nat) :
    (guest index).scopeRef ≠ name := by
  rintro rfl
  rw [guest_ref] at h
  exact h rfl

/-- No two guests share a name. -/
theorem guest_injective (h : (guest index).scopeRef = (guest other).scopeRef) : index = other := by
  have hlength := congrArg (fun scopeRef : String => scopeRef.toList.length) h
  simpa [guest_ref] using hlength

/-- So a call may send them all. -/
theorem guests_refs (count : Nat) :
    (((List.range count).map guest).map ScopeRecord.scopeRef).Nodup := by
  rw [map_map]
  exact List.nodup_range.map fun _ _ => guest_injective

/-- The owner's table once parent and child are there. -/
structure Family (table : ScopeTable) : Prop where
  buried : AllBuried table
  authority : (table.owner "owner").authority = some ⟨1, 1⟩
  open_ : (table.owner "owner").synced = true
  live : (table.owner "owner").live.toList =
    [("a", ⟨child, 1, some .linked, 1⟩), ("p", ⟨.new "p" 1 .head, 2, none, 2⟩)]
  order : (table.owner "owner").tombstones.order = []

set_option maxRecDepth 8000 in
/-- The first call makes a family. -/
theorem run_family : Family (run ∅ [family]) :=
  ⟨run_buried ∅ _, by decide, by decide, by decide, by decide⟩

section crowd

variable {table : ScopeTable} (h : Family table) (count : Nat)
include h

/-- Parent and child alone are live. -/
theorem Family.get : (table.owner "owner").live[scopeRef]? = some scope ↔
    scopeRef = "a" ∧ scope = ⟨child, 1, some .linked, 1⟩ ∨
      scopeRef = "p" ∧ scope = ⟨.new "p" 1 .head, 2, none, 2⟩ := by
  rw [← mem_toList, h.live]
  simp

/-- None of them is due when the crowd comes. -/
theorem Family.swept :
    sweptOwner table (crowding count) (idleAt 1) = (table.owner "owner", []) := by
  have hnil : (expireOwner "owner" (table.owner "owner") 1).2 = [] := by
    unfold expireOwner
    rw [h.live]
    rfl
  exact Prod.ext (expireOwner_nil hnil) hnil

/-- No guest is there before. -/
theorem Family.guest_free (index : Nat) :
    (table.owner "owner").live[(guest index).scopeRef]? = none := by
  rw [Option.eq_none_iff_forall_ne_some]
  intro scope hscope
  rcases h.get.mp hscope with ⟨heq, -⟩ | ⟨heq, -⟩
  · exact guest_ne "a" (by decide) index heq
  · exact guest_ne "p" (by decide) index heq

/-- Every guest is staged. -/
theorem Family.staged (index : Nat) :
    stagingRefusals table (crowding count) (idleAt 1) index = none := by
  unfold stagingRefusals
  rw [h.swept]
  cases hrecord : (crowding count).records[index]? with
  | none => rfl
  | some record =>
    obtain ⟨number, -, rfl⟩ := mem_map.mp (List.mem_of_getElem? hrecord)
    refine stagingRefusal_new (h.guest_free number) ?_ (h.buried "owner").tidy rfl rfl rfl rfl rfl
    rw [h.order]
    exact fun _ => not_mem_nil

/-- The set the crowd is staged with: the child and the guests. -/
theorem Family.next : (settled table (crowding count) (idleAt 1)).next[scopeRef]? = some record ↔
    record ∈ child :: (List.range count).map guest ∧ record.scopeRef = scopeRef := by
  obtain ⟨hsettling, -, -⟩ := @settled_settling table (crowding count) (idleAt 1) (guests_refs count)
  have hrefusals : ∀ index,
      (settled table (crowding count) (idleAt 1)).refusals.get index = none := by
    intro index
    rw [Option.eq_none_iff_forall_ne_some]
    intro refusal hrefusal
    rcases hsettling.refused index refusal hrefusal with hstaged | ⟨-, found, -, hfound, hnew⟩
    · rw [h.staged] at hstaged
      cases hstaged
    · obtain ⟨number, -, rfl⟩ := mem_map.mp (List.mem_of_getElem? hfound)
      cases hnew
  have hform := hsettling.form
  by_cases hguest : scopeRef ∈ ((List.range count).map guest).map ScopeRecord.scopeRef
  · obtain ⟨sent, hsent, rfl⟩ := mem_map.mp hguest
    obtain ⟨index, hindex⟩ := List.getElem?_of_mem hsent
    have hnamed := hform.named index sent hindex
    rw [hrefusals] at hnamed
    obtain ⟨number, -, rfl⟩ := mem_map.mp hsent
    rw [hnamed]
    constructor
    · rintro ⟨⟩
      exact ⟨List.mem_cons_of_mem _ hsent, rfl⟩
    · rintro ⟨hmem, href⟩
      rcases mem_cons.mp hmem with rfl | hmem
      · exact absurd href.symm (guest_ne "a" (by decide) number)
      · obtain ⟨other, -, rfl⟩ := mem_map.mp hmem
        rw [guest_injective href]
        rfl
  · have hstart : callStart table (crowding count) (idleAt 1) =
        startingSet (table.owner "owner").live (some [⟨"p", 1⟩]) := by
      unfold callStart
      rw [h.swept]
      rfl
    rw [hform.unnamed scopeRef hguest, hstart, startingSet_apply]
    constructor
    · intro hfound
      split at hfound
      case isTrue => cases hfound
      case isFalse hnot =>
        obtain ⟨held, hheld, rfl⟩ := Option.map_eq_some_iff.mp hfound
        rcases h.get.mp hheld with ⟨rfl, rfl⟩ | ⟨rfl, rfl⟩
        · exact ⟨mem_cons_self, rfl⟩
        · exact absurd ⟨_, mem_cons_self, rfl, _, hheld, rfl⟩ hnot
    · rintro ⟨hmem, rfl⟩
      rcases mem_cons.mp hmem with rfl | hmem
      · rw [if_neg, show child.scopeRef = "a" from rfl, h.get.mpr (.inl ⟨rfl, rfl⟩)]
        · rfl
        · rintro ⟨entry, hentry, href, -⟩
          cases mem_singleton.mp hentry
          exact absurd href (by decide)
      · exact absurd (List.mem_map_of_mem hmem) hguest

/-- The crowd is accepted if it is not too large. -/
theorem Family.accepts (hcount : count < maxLiveScopesPerOwner) :
    Accepts table (crowding count) (idleAt 1) := by
  constructor
  · have hrecords : checkSyncRecords [] ((List.range count).map guest) = .ok () := by
      refine checkSyncRecords_of ?_ (guests_refs count) fun _ _ => not_mem_nil
      intro record hrecord
      obtain ⟨index, -, rfl⟩ := mem_map.mp hrecord
      refine ⟨?_, rfl⟩
      simp only [checkIdentity, decide_eq_true (guest_ne "" (by decide) index)]
      rfl
    have hends : "p" ∉ ((List.range count).map guest).map ScopeRecord.scopeRef := by
      intro hmem
      obtain ⟨record, hrecord, href⟩ := mem_map.mp hmem
      obtain ⟨index, -, rfl⟩ := mem_map.mp hrecord
      exact guest_ne "p" (by decide) index href
    have hfits : decide (count ≤ maxLiveScopesPerOwner) = true := decide_eq_true hcount.le
    simp only [crowding, callBy, checkCall, checkAuthority, checkSynced, checkGeneration,
      checkSyncBounds, checkEndBounds, checkEndRefs, h.authority, h.open_, hrecords, hends,
      length_map, List.length_range, hfits, require, bind, Except.bind]
    rfl
  · have hkeys : (settled table (crowding count) (idleAt 1)).next.keys ⊆
        (child :: (List.range count).map guest).map ScopeRecord.scopeRef := by
      intro scopeRef hmem
      have hsome := Std.ExtTreeMap.isSome_getElem?_iff_mem.mpr (Std.ExtTreeMap.mem_keys.mp hmem)
      obtain ⟨record, hrecord⟩ := Option.isSome_iff_exists.mp hsome
      obtain ⟨hin, rfl⟩ := (h.next count).mp hrecord
      exact List.mem_map_of_mem hin
    have hlength := (List.Nodup.subperm Std.ExtTreeMap.nodup_keys hkeys).length_le
    rw [Std.ExtTreeMap.length_keys] at hlength
    simp only [length_map, length_cons, List.length_range] at hlength
    omega

/-- What the owner holds once the crowd has come. -/
structure Crowded (count : Nat) (table : ScopeTable) : Prop where
  buried : AllBuried table
  authority : (table.owner "owner").authority = some ⟨1, 2⟩
  records : ∀ scopeRef record,
    (table.owner "owner").live[scopeRef]?.map LiveScope.record = some record ↔
      record ∈ child :: (List.range count).map guest ∧ record.scopeRef = scopeRef
  order : (table.owner "owner").tombstones.order = [("p", 1)]
  link : ((table.owner "owner").live["a"]?.bind LiveScope.parentState) = some .ended

/-- The crowd comes, the parent is remembered and the child's link has ended. -/
theorem Family.crowded (hcount : count < maxLiveScopesPerOwner) :
    Crowded count (change table (crowding count) (idleAt 1)).1 := by
  have haccepts := h.accepts count hcount
  have hburied := apply_buried h.buried (.change (crowding count) (idleAt 1))
  change AllBuried (change table (crowding count) (idleAt 1)).1 at hburied
  rw [change_of_accepts haccepts] at hburied ⊢
  have hframe := (refreshLinksTo_moved (committed table (crowding count) (idleAt 1)) "owner"
    HashOrder.asStored (synced table (crowding count) (idleAt 1)).applied.tagChanges).frame "owner"
  have howner : (committed table (crowding count) (idleAt 1)).owner "owner" =
      (synced table (crowding count) (idleAt 1)).state := by
    rw [committed_owner]
    exact if_pos rfl
  rw [howner] at hframe
  have ha : (settled table (crowding count) (idleAt 1)).next["a"]? = some child :=
    (h.next count).mpr ⟨mem_cons_self, rfl⟩
  have hp : (settled table (crowding count) (idleAt 1)).next["p"]? = none := by
    rw [Option.eq_none_iff_forall_ne_some]
    intro record hrecord
    obtain ⟨hmem, href⟩ := (h.next count).mp hrecord
    rcases mem_cons.mp hmem with rfl | hmem
    · exact absurd href (by decide)
    · obtain ⟨index, -, rfl⟩ := mem_map.mp hmem
      exact guest_ne "p" (by decide) index href
  have hrecords : ∀ scopeRef, ((committed table (crowding count) (idleAt 1)).live? "owner"
      scopeRef).map LiveScope.record =
        (settled table (crowding count) (idleAt 1)).next[scopeRef]? := by
    intro scopeRef
    unfold ScopeTable.live?
    rw [howner]
    exact commitOwner_records _ _ _ _ _ scopeRef
  refine ⟨hburied, hframe.authority, ?_, ?_, ?_⟩
  · intro scopeRef record
    have hrecord := refreshLinksTo_record (committed table (crowding count) (idleAt 1)) "owner"
      HashOrder.asStored (synced table (crowding count) (idleAt 1)).applied.tagChanges "owner" scopeRef
    rw [← h.next count]
    exact Eq.congr_left (hrecord.trans (hrecords scopeRef))
  · refine (congrArg Tombstones.order hframe.tombstones).trans ?_
    have hreplaced : replacedSessions (table.owner "owner").live
        (settled table (crowding count) (idleAt 1)).next = [⟨"p", 1⟩] := by
      unfold replacedSessions
      rw [h.live]
      simp [ha, hp, ScopeRecord.new, child]
    have htombstones : (synced table (crowding count) (idleAt 1)).state.tombstones =
        (table.owner "owner").tombstones.insert "p" 1 .ownerEnded := by
      unfold synced commitOwner
      dsimp only
      rw [h.swept, hreplaced]
      rfl
    rw [htombstones, (h.buried "owner").tidy.insert_order, h.order]
    rfl
  · obtain ⟨scope, hscope, hrecord⟩ := Option.map_eq_some_iff.mp ((hrecords "a").trans ha)
    have hparent : (committed table (crowding count) (idleAt 1)).live? "owner" "p" = none :=
      Option.map_eq_none_iff.mp ((hrecords "p").trans hp)
    have hsettled : settledState (committed table (crowding count) (idleAt 1)) "owner" "owner" "a"
        ⟨.reserved "owner", "p", 1⟩ scope.parentState = .ended := by
      unfold settledState
      dsimp only
      rw [hparent]
      split <;> trivial
    rw [← hsettled]
    exact refreshLinksTo_settled hscope (by rw [hrecord]; rfl) rfl

end crowd

/-- The set of the reunion: parent and child. -/
def united : TreeMap String ScopeRecord :=
  ((∅ : TreeMap String ScopeRecord).insert "p" (.new "p" 1 .head)).insert "a"
    { child with expiresAtMs := none }

/-- The reunion is staged whole where nothing is live or remembered. -/
theorem stageRecords_reunion (hlive : state.live = ∅)
    (htidy : Tidy state.tombstones)
    (hforgotten : ∀ name, name = "p" ∨ name = "a" → ∀ scopeEpoch,
      (name, scopeEpoch) ∉ state.tombstones.order) (authorized : Bool) :
    stageRecords state authorized (idleAt 10) reunion = ⟨united, .empty⟩ := by
  have hnone : ∀ scopeRef : String, state.live[scopeRef]? = none := by
    intro scopeRef
    rw [hlive, Std.ExtTreeMap.getElem?_empty]
  have hparent : stagingRefusal state authorized (idleAt 10) .empty (.new "p" 1 .head) 0 = none :=
    stagingRefusal_new (hnone _) (hforgotten _ (.inl rfl)) htidy rfl rfl rfl rfl rfl
  have hchild : stagingRefusal state authorized (idleAt 10) .empty
      { child with expiresAtMs := none } 1 = none :=
    stagingRefusal_new (hnone _) (hforgotten _ (.inr rfl)) htidy rfl rfl rfl rfl rfl
  unfold stageRecords
  change stageRecord state authorized (idleAt 10) .empty (stageRecord state authorized (idleAt 10)
    .empty ⟨∅, .empty⟩ (.new "p" 1 .head, 0)) ({ child with expiresAtMs := none }, 1) = _
  unfold stageRecord
  dsimp only
  rw [hparent, hchild]
  rfl

/-- What the reunion brings back. -/
theorem united_get : united["p"]? = some (.new "p" 1 .head) ∧
    united["a"]? = some { child with expiresAtMs := none } := by
  unfold united
  constructor
  · rw [get_insert, if_neg (by decide), get_insert, if_pos rfl]
  · rw [get_insert, if_pos rfl]

set_option maxRecDepth 8000 in
/-- The child's link settles as linked. -/
theorem settleLinks_united (others : ScopeTable) :
    (settleLinks ⟨others, "owner", ∅, reunion.records⟩ 3
      (startSettling ⟨united, .empty⟩ reunion.records)).next = united ∧
    (settleLinks ⟨others, "owner", ∅, reunion.records⟩ 3
      (startSettling ⟨united, .empty⟩ reunion.records)).newLinkStates.get "a" = some .linked :=
  ⟨rfl, rfl⟩

section reunion

variable {table : ScopeTable} {count : Nat} (h : Crowded count table)
include h

/-- Everything live is due at the deadline, and the parent is not live. -/
theorem Crowded.due (hlive : (table.owner "owner").live[scopeRef]? = some scope) :
    scope.record.scopeEpoch = 1 ∧ scope.passedDeadline 10 = some 10 ∧ scopeRef ≠ "p" := by
  obtain ⟨hmem, rfl⟩ := (h.records scopeRef scope.record).mp (by rw [hlive]; rfl)
  unfold LiveScope.passedDeadline
  rcases mem_cons.mp hmem with hchild | hguest
  · rw [hchild]
    exact ⟨rfl, rfl, by decide⟩
  · obtain ⟨index, -, hrecord⟩ := mem_map.mp hguest
    rw [← hrecord]
    exact ⟨rfl, rfl, guest_ne "p" (by decide) index⟩

/-- Everything expires. -/
theorem Crowded.expired : (expireOwner "owner" (table.owner "owner") 10).2 =
    (table.owner "owner").live.toList.map fun entry => ⟨"owner", entry.1, 1, 10⟩ := by
  unfold expireOwner
  dsimp only
  rw [← List.filterMap_eq_map]
  refine List.filterMap_congr ?_
  intro entry hentry
  obtain ⟨hepoch, hdue, -⟩ := h.due (mem_toList.mp hentry)
  rw [hepoch, hdue]
  rfl

/-- The child comes first in the sweep, then at least the guests. -/
theorem Crowded.toList : ∃ rest, (table.owner "owner").live.toList.map Prod.fst = "a" :: rest ∧
    count ≤ rest.length := by
  have hrefs : ∀ scopeRef ∈ (child :: (List.range count).map guest).map ScopeRecord.scopeRef,
      scopeRef ∈ (table.owner "owner").live.toList.map Prod.fst := by
    intro scopeRef hmem
    obtain ⟨record, hrecord, rfl⟩ := mem_map.mp hmem
    obtain ⟨scope, hscope, -⟩ := Option.map_eq_some_iff.mp ((h.records _ record).mpr ⟨hrecord, rfl⟩)
    exact mem_map.mpr ⟨_, mem_toList.mpr hscope, rfl⟩
  have hnodup : ((child :: (List.range count).map guest).map ScopeRecord.scopeRef).Nodup := by
    refine nodup_cons.mpr ⟨?_, guests_refs count⟩
    intro hmem
    obtain ⟨record, hrecord, href⟩ := mem_map.mp hmem
    obtain ⟨index, -, rfl⟩ := mem_map.mp hrecord
    exact guest_ne "a" (by decide) index href
  have hlength := (List.Nodup.subperm hnodup hrefs).length_le
  simp only [length_map, length_cons, List.length_range] at hlength
  obtain ⟨first, hfirst, -⟩ := Option.map_eq_some_iff.mp
    ((h.records "a" child).mpr ⟨mem_cons_self, rfl⟩)
  obtain ⟨rest, hrest⟩ := toList_of_least hfirst (by
    intro scopeRef scope hscope
    obtain ⟨hmem, rfl⟩ := (h.records scopeRef scope.record).mp (by rw [hscope]; rfl)
    rcases mem_cons.mp hmem with hchild | hguest
    · rw [hchild]
      exact .inl rfl
    · obtain ⟨index, -, hrecord⟩ := mem_map.mp hguest
      rw [← hrecord]
      refine .inr (compareOfLessAndEq_eq_lt.mpr (String.lt_iff.mpr ?_))
      rw [guest_ref]
      exact List.cons_lt_cons_iff.mpr (.inl (by decide)))
  rw [hrest] at hlength ⊢
  exact ⟨rest.map Prod.fst, rfl, by rw [length_map]; exact Nat.le_of_succ_le_succ hlength⟩

/-- Nothing is left live. -/
theorem Crowded.swept : (sweptOwner table reunion (idleAt 10)).1.live = ∅ := by
  refine ext_get fun scopeRef => ?_
  have hnone : (sweptOwner table reunion (idleAt 10)).1.live[scopeRef]? = none := by
    refine expireOwner_live.trans ?_
    change ((table.owner "owner").live[scopeRef]?.filter _) = none
    cases hlive : (table.owner "owner").live[scopeRef]? with
    | none => rfl
    | some scope =>
      rw [Option.filter_some, show (idleAt 10).now = 10 from rfl, (h.due hlive).2.1]
      rfl
  rw [hnone, Std.ExtTreeMap.getElem?_empty]

variable (hcount : maxScopeTombstonesPerOwner ≤ count)
include hcount

/-- Neither parent nor child is remembered. -/
theorem Crowded.forgotten (hname : name = "p" ∨ name = "a") (scopeEpoch : Nat) :
    (name, scopeEpoch) ∉ (expireOwner "owner" (table.owner "owner") 10).1.tombstones.order := by
  obtain ⟨rest, hrest, hlength⟩ := h.toList
  have hkeys := nodup_keys (table.owner "owner").live
  have hold : ∀ scopeRef ∈ rest, scopeRef ≠ "p" := by
    rintro scopeRef hmem
    have hin : scopeRef ∈ (table.owner "owner").live.toList.map Prod.fst :=
      hrest ▸ List.mem_cons_of_mem _ hmem
    obtain ⟨entry, hentry, rfl⟩ := mem_map.mp hin
    exact (h.due (mem_toList.mp hentry)).2.2
  have horder : (expireOwner "owner" (table.owner "owner") 10).1.tombstones.order =
      (("p", 1) :: ("a", 1) :: rest.map fun scopeRef => (scopeRef, 1)).drop
        (1 + (rest.length + 1) - maxScopeTombstonesPerOwner) := by
    have hsessions : (expireOwner "owner" (table.owner "owner") 10).2.map expiredSession =
        ("a", 1) :: rest.map fun scopeRef => (scopeRef, 1) := by
      have hmapped := congrArg (List.map fun scopeRef => (scopeRef, 1)) hrest
      rw [map_map] at hmapped
      rw [h.expired, map_map]
      exact hmapped
    have hlist := congrArg List.length hsessions
    rw [length_map, length_cons, length_map] at hlist
    rw [expireOwner_order (h.buried "owner"), hsessions, h.order, hlist]
    rfl
  rw [hrest] at hkeys
  have hnot := (nodup_cons.mp hkeys).1
  rw [horder]
  intro hmem
  have hdropped : (name, scopeEpoch) ∈ rest.map fun scopeRef => (scopeRef, 1) := by
    obtain ⟨more, hmore⟩ : ∃ more, 1 + (rest.length + 1) - maxScopeTombstonesPerOwner = more + 2 :=
      ⟨rest.length - maxScopeTombstonesPerOwner, by omega⟩
    rw [hmore] at hmem
    exact List.mem_of_mem_drop hmem
  obtain ⟨scopeRef, hscopeRef, heq⟩ := mem_map.mp hdropped
  cases heq
  rcases hname with rfl | rfl
  · exact hold _ hscopeRef rfl
  · exact hnot hscopeRef

/-- The reunion settles as if its owner had never been there. -/
theorem Crowded.settled_eq : ScopeRuns.settled table reunion (idleAt 10) =
    settleLinks ⟨others table reunion, "owner", ∅, reunion.records⟩ 3
      (startSettling ⟨united, .empty⟩ reunion.records) := by
  have htidy : Tidy (sweptOwner table reunion (idleAt 10)).1.tombstones :=
    (expireOwner_buried (h.buried "owner")).tidy
  have hstaged := stageRecords_reunion h.swept htidy (fun _ => h.forgotten hcount)
    (decide ("owner" ∈ (others table reunion).authorityOwners))
  unfold ScopeRuns.settled settledLinks
  dsimp only
  rw [show reunion.owner = "owner" from rfl, hstaged, h.swept]
  rfl

/-- The reunion is accepted. -/
theorem Crowded.accepts : Accepts table reunion (idleAt 10) := by
  obtain ⟨hnext, -⟩ := settleLinks_united (others table reunion)
  constructor
  · simp only [reunion, callBy, checkCall, checkAuthority, checkGeneration, h.authority, bind,
      Except.bind]
    rfl
  · rw [h.settled_eq hcount, hnext]
    decide

/-- The reunion brings the parent back at its epoch and links the child to it. -/
theorem Crowded.reunited :
    ((change table reunion (idleAt 10)).1.live? "owner" "p").map LiveScope.record =
        some (.new "p" 1 .head) ∧
      ((change table reunion (idleAt 10)).1.live? "owner" "a").map LiveScope.record =
        some { child with expiresAtMs := none } ∧
      ((change table reunion (idleAt 10)).1.live? "owner" "a").bind LiveScope.parentState =
        some .linked := by
  have hchange : (change table reunion (idleAt 10)).1 = (refreshed table reunion (idleAt 10)).table := by
    rw [change_of_accepts (h.accepts hcount)]
  rw [hchange]
  obtain ⟨hnext, hlink⟩ := settleLinks_united (others table reunion)
  rw [← h.settled_eq hcount] at hnext hlink
  have howner : (committed table reunion (idleAt 10)).owner "owner" =
      (synced table reunion (idleAt 10)).state := by
    rw [committed_owner]
    exact if_pos rfl
  have hrecords : ∀ scopeRef, ((committed table reunion (idleAt 10)).live? "owner" scopeRef).map
      LiveScope.record = united[scopeRef]? := by
    intro scopeRef
    unfold ScopeTable.live?
    rw [howner, ← hnext]
    exact commitOwner_records _ _ _ _ _ scopeRef
  have hrefreshed : ∀ scopeRef, ((refreshed table reunion (idleAt 10)).table.live? "owner"
      scopeRef).map LiveScope.record = united[scopeRef]? := by
    intro scopeRef
    rw [← hrecords scopeRef]
    exact refreshLinksTo_record (committed table reunion (idleAt 10)) "owner" HashOrder.asStored
      (synced table reunion (idleAt 10)).applied.tagChanges "owner" scopeRef
  refine ⟨(hrefreshed "p").trans united_get.1, (hrefreshed "a").trans united_get.2, ?_⟩
  obtain ⟨scope, hscope, hrecord⟩ := Option.map_eq_some_iff.mp ((hrecords "a").trans united_get.2)
  obtain ⟨up, hup, hparent⟩ := Option.map_eq_some_iff.mp ((hrecords "p").trans united_get.1)
  have hstate : scope.parentState = some .linked := by
    unfold ScopeTable.live? at hscope
    rw [howner] at hscope
    obtain ⟨_, -, -, hcommitted, -⟩ := live_of_commitOwner hscope
    rw [commitRecord_parentState hcommitted, hlink, hrecord]
    rfl
  have hsettled : settledState (committed table reunion (idleAt 10)) "owner" "owner" "a"
      ⟨.reserved "owner", "p", 1⟩ scope.parentState = .linked := by
    unfold settledState
    dsimp only
    rw [hup, hstate, Option.filter_some, hparent]
    rfl
  rw [← hsettled]
  exact refreshLinksTo_settled hscope (by rw [hrecord]; rfl) rfl

/-- The parent was remembered, and the reunion is accepted and has it live again. -/
theorem Crowded.returns : Remembers (table.owner "owner").tombstones "p" 1 ∧
    (change table reunion (idleAt 10)).2.toOption.isSome = true ∧
    ((change table reunion (idleAt 10)).1.live? "owner" "p").map
      (fun scope => scope.record.scopeEpoch) = some 1 := by
  refine ⟨?_, ?_, ?_⟩
  · unfold Remembers
    rw [h.order]
    exact List.mem_singleton_self _
  · rw [change_of_accepts (h.accepts hcount)]
    rfl
  · obtain ⟨hparent, -⟩ := h.reunited hcount
    have hepoch := congrArg (Option.map ScopeRecord.scopeEpoch) hparent
    rw [Option.map_map] at hepoch
    exact hepoch

/-- The child's link had ended, and after the reunion it is linked. -/
theorem Crowded.relinked : (table.live? "owner" "a").bind LiveScope.parentState = some .ended ∧
    ((change table reunion (idleAt 10)).1.live? "owner" "a").bind LiveScope.parentState =
      some .linked ∧
    (table.live? "owner" "a").map (fun scope => (scope.record.scopeEpoch, scope.record.parent)) =
      ((change table reunion (idleAt 10)).1.live? "owner" "a").map fun scope =>
        (scope.record.scopeEpoch, scope.record.parent) := by
  obtain ⟨-, hchild, hlink⟩ := h.reunited hcount
  refine ⟨h.link, hlink, ?_⟩
  have hbefore : (table.live? "owner" "a").map LiveScope.record = some child :=
    (h.records "a" child).mpr ⟨mem_cons_self, rfl⟩
  have hwas := congrArg (Option.map fun record => (record.scopeEpoch, record.parent)) hbefore
  have hnow := congrArg (Option.map fun record => (record.scopeEpoch, record.parent)) hchild
  rw [Option.map_map] at hwas hnow
  exact hwas.trans hnow.symm

end reunion

/-- The calls of a family up to the crowd that forgets it. -/
def crowdedFamily : List ScopeOp :=
  [family] ++ [.change (crowding maxScopeTombstonesPerOwner) (idleAt 1)]

/-- The run ends crowded. -/
theorem run_crowdedFamily : Crowded maxScopeTombstonesPerOwner (run ∅ crowdedFamily) := by
  have hcrowded := run_family.crowded maxScopeTombstonesPerOwner (by decide)
  rw [← apply_change, ← run_append] at hcrowded
  exact hcrowded

/-- A session that is remembered comes back in a call that expires enough others. -/
theorem forgotten_session_returns :
    Remembers ((run ∅ crowdedFamily).owner "owner").tombstones "p" 1 ∧
    (change (run ∅ crowdedFamily) reunion (idleAt 10)).2.toOption.isSome = true ∧
    ((change (run ∅ crowdedFamily) reunion (idleAt 10)).1.live? "owner" "p").map
      (fun scope => scope.record.scopeEpoch) = some 1 :=
  run_crowdedFamily.returns (Nat.le_refl _)

end Subconscious.ScopeTombstones
