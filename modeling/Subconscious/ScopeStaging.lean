import Subconscious.ScopeRuns

/-!
# The set a call stages

Every ref a call names gets its own record when the record is accepted, and
what was held when it is refused. Every other ref gets what the call started
from. This form holds after staging and through every round of link settling,
and a round that refuses a link refuses a record that was not refused before,
so the rounds end.
-/

namespace Subconscious.ScopeStaging

open HashMaps TreeMaps ScopeRecords ScopeTables ScopeChecks ScopeSync

/-- A check after a check passes when both do. -/
theorem bind_ok {α β : Type} {x : Except SyncRefusal α} {f : α → Except SyncRefusal β} {b : β}
    (h : (x >>= f) = .ok b) : ∃ a, x = .ok a ∧ f a = .ok b := by
  cases x with
  | error => cases h
  | ok a => exact ⟨a, rfl, h⟩

variable {records : List ScopeRecord}

/-- What is required holds. -/
theorem require_ok (h : require condition refusal = .ok u) : condition = true := by
  unfold require at h
  split at h
  case isTrue hcondition => exact hcondition
  case isFalse => cases h

/-- Records that pass name different refs, and none that was seen. -/
theorem checkSyncRecords_ok (h : checkSyncRecords seen records = .ok u) :
    (records.map ScopeRecord.scopeRef).Nodup ∧
      ∀ scopeRef ∈ records.map ScopeRecord.scopeRef, scopeRef ∉ seen := by
  induction records generalizing seen with
  | nil => simp
  | cons record records ih =>
    unfold checkSyncRecords at h
    obtain ⟨_, -, h⟩ := bind_ok h
    obtain ⟨_, hfresh, h⟩ := bind_ok h
    obtain ⟨_, -, h⟩ := bind_ok h
    have hnot := of_decide_eq_true (require_ok hfresh)
    obtain ⟨hnodup, hseen⟩ := ih h
    refine ⟨?_, ?_⟩
    · rw [List.map_cons, List.nodup_cons]
      exact ⟨fun hmem => hseen _ hmem List.mem_cons_self, hnodup⟩
    · intro scopeRef hmem
      rcases List.mem_cons.mp hmem with rfl | hmem
      · exact hnot
      · exact fun hin => hseen _ hmem (List.mem_cons_of_mem _ hin)

/-- Records that pass one by one and name different refs pass together. -/
theorem checkSyncRecords_of
    (h : ∀ record ∈ records, checkIdentity record = .ok () ∧ checkAttributes record = .ok ())
    (hrefs : (records.map ScopeRecord.scopeRef).Nodup)
    (hseen : ∀ record ∈ records, record.scopeRef ∉ seen) : checkSyncRecords seen records = .ok () := by
  induction records generalizing seen with
  | nil => rfl
  | cons record records ih =>
    obtain ⟨hidentity, hattributes⟩ := h record List.mem_cons_self
    obtain ⟨hhead, hrefs⟩ := List.nodup_cons.mp hrefs
    have hrest := @ih (record.scopeRef :: seen)
      (fun later hlater => h later (List.mem_cons_of_mem _ hlater)) hrefs ?_
    · simp only [checkSyncRecords, hidentity, hattributes, bind, Except.bind, require,
        decide_eq_true (hseen record List.mem_cons_self), if_true]
      exact hrest
    · intro later hlater hmem
      rcases List.mem_cons.mp hmem with heq | hold
      · exact hhead (heq ▸ List.mem_map_of_mem hlater)
      · exact hseen later (List.mem_cons_of_mem _ hlater) hold

/-- A call that passes its checks names no ref twice. -/
theorem checkCall_records (h : checkCall state request = .ok u) :
    (request.records.map ScopeRecord.scopeRef).Nodup := by
  unfold checkCall at h
  obtain ⟨taking, -, h⟩ := bind_ok h
  obtain ⟨_, -, h⟩ := bind_ok h
  obtain ⟨_, -, h⟩ := bind_ok h
  obtain ⟨_, hbounds, -⟩ := bind_ok h
  unfold checkSyncBounds at hbounds
  obtain ⟨_, -, hrecords⟩ := bind_ok hbounds
  exact (checkSyncRecords_ok hrecords).1

/-- Two records of a call with one ref stand at one place. -/
theorem index_eq_of_ref (hrefs : (records.map ScopeRecord.scopeRef).Nodup) {i j : Nat}
    (hi : records[i]? = some record)
    (hj : records[j]? = some record') (href : record.scopeRef = record'.scopeRef) : i = j := by
  have hilt : i < (records.map ScopeRecord.scopeRef).length := by
    rw [List.length_map]
    exact (List.getElem?_eq_some_iff.mp hi).1
  refine (List.getElem?_inj hilt hrefs).mp ?_
  rw [List.getElem?_map, List.getElem?_map, hi, hj, Option.map_some, Option.map_some, href]

/-- A record of a call names one of its refs. -/
theorem mem_refs_of_getElem? {index : Nat}
    (h : records[index]? = some record) : record.scopeRef ∈ records.map ScopeRecord.scopeRef :=
  List.mem_map_of_mem (List.mem_of_getElem? h)

/-- The refs of ended scopes are erased. -/
theorem foldl_eraseEnded (results : List ScopeEndResult) (next : TreeMap String ScopeRecord) :
    (results.foldl (fun next entry =>
      if entry.outcome = .ended then next.erase entry.scopeRef else next) next)[scopeRef]? =
      if ∃ entry ∈ results, entry.outcome = .ended ∧ entry.scopeRef = scopeRef then none
      else next[scopeRef]? := by
  induction results generalizing next with
  | nil => simp
  | cons entry results ih =>
    rw [List.foldl_cons, ih]
    by_cases hended : entry.outcome = .ended
    · rw [if_pos hended, get_erase]
      by_cases href : scopeRef = entry.scopeRef
      · simp [hended, href]
      · have hne : entry.scopeRef ≠ scopeRef := fun h => href h.symm
        simp [href, hne]
    · simp [hended]

/-- Whether an end of the call matches the held scope of a ref. -/
def EndsHeld (live : TreeMap String LiveScope) (ends : List ScopeEnd) (scopeRef : String) : Prop :=
  ∃ entry ∈ ends, entry.scopeRef = scopeRef ∧
    ∃ held, live[scopeRef]? = some held ∧ held.record.scopeEpoch = entry.scopeEpoch

open Classical in
/-- A delta starts from what is held and not ended. -/
theorem startingSet_apply :
    (startingSet live (some ends))[scopeRef]? =
      if EndsHeld live ends scopeRef then none else live[scopeRef]?.map LiveScope.record := by
  unfold startingSet
  rw [foldl_eraseEnded, if_pos (Option.isSome_some (a := ends)), get_mapValues]
  have hiff : (∃ entry ∈ endResults live (some ends), entry.outcome = .ended ∧
      entry.scopeRef = scopeRef) ↔ EndsHeld live ends scopeRef := by
    unfold endResults EndsHeld
    constructor
    · rintro ⟨result, hmem, hended, rfl⟩
      obtain ⟨entry, hentry, rfl⟩ := List.mem_map.mp hmem
      split at hended
      case isTrue hany =>
        obtain ⟨held, hheld, hepoch⟩ := (Option.any_eq_true _ _).mp hany
        exact ⟨entry, hentry, rfl, held, hheld, of_decide_eq_true hepoch⟩
      case isFalse => cases hended
    · rintro ⟨entry, hentry, rfl, held, hheld, hepoch⟩
      refine ⟨_, List.mem_map.mpr ⟨entry, hentry, rfl⟩, ?_, rfl⟩
      rw [if_pos]
      rw [hheld]
      exact decide_eq_true hepoch
  by_cases hends : EndsHeld live ends scopeRef
  · rw [if_pos (hiff.mpr hends), if_pos hends]
  · rw [if_neg (fun h => hends (hiff.mp h)), if_neg hends]

variable {scopeRef : String}

/-- What a call starts from is held. -/
theorem startingSet_held (h : (startingSet live ends)[scopeRef]? = some record) :
    ∃ held, live[scopeRef]? = some held ∧ held.record = record := by
  cases ends with
  | none => simp [startingSet, endResults] at h
  | some =>
    rw [startingSet_apply] at h
    split at h
    case isTrue => cases h
    case isFalse => exact Option.map_eq_some_iff.mp h

/-- What a staged set holds, for the refusals so far. -/
structure NextForm (live : TreeMap String LiveScope) (start : TreeMap String ScopeRecord)
    (records : List ScopeRecord) (refusals : HashMap Nat RecordRefusal)
    (next : TreeMap String ScopeRecord) : Prop where
  named : ∀ (index : Nat) record, records[index]? = some record →
    next[record.scopeRef]? =
      if (refusals.get index).isSome then live[record.scopeRef]?.map LiveScope.record
      else some (storedRecord record)
  unnamed : ∀ scopeRef, scopeRef ∉ records.map ScopeRecord.scopeRef →
    next[scopeRef]? = start[scopeRef]?

/-- A staged record is held, or it is a record of the call that is not refused. -/
theorem NextForm.cases (h : NextForm live (startingSet live ends) records refusals next)
    (hnext : next[scopeRef]? = some record) :
    (∃ held, live[scopeRef]? = some held ∧ held.record = record) ∨
      ∃ (index : Nat) (sent : ScopeRecord), records[index]? = some sent ∧
        sent.scopeRef = scopeRef ∧ storedRecord sent = record ∧ refusals.get index = none := by
  by_cases hmem : scopeRef ∈ records.map ScopeRecord.scopeRef
  · obtain ⟨sent, hsent, rfl⟩ := List.mem_map.mp hmem
    obtain ⟨index, hindex⟩ := List.getElem?_of_mem hsent
    rw [h.named index sent hindex] at hnext
    split at hnext
    case isTrue => exact .inl (Option.map_eq_some_iff.mp hnext)
    case isFalse hnot =>
      exact .inr ⟨index, sent, hindex, rfl, Option.some.inj hnext,
        Option.not_isSome_iff_eq_none.mp hnot⟩
  · rw [h.unnamed scopeRef hmem] at hnext
    exact .inl (startingSet_held hnext)

section staging

variable (state : OwnerScopes) (authorized : Bool) (reads : ScopeReads)
  (prepared : HashMap Nat RecordRefusal) (start : TreeMap String ScopeRecord)

/-- Staging the records of a call in order. -/
def staged (records : List ScopeRecord) : Staged :=
  records.zipIdx.foldl (stageRecord state authorized reads prepared) ⟨start, prepared⟩

/-- Staging ends with the last record. -/
theorem staged_append :
    staged state authorized reads prepared start (records ++ [record]) =
      stageRecord state authorized reads prepared (staged state authorized reads prepared start records)
        (record, records.length) := by
  unfold staged
  rw [List.zipIdx_append, List.foldl_append]
  simp only [List.zipIdx_singleton, List.foldl_cons, List.foldl_nil, Nat.zero_add]

section

variable (acc : Staged) (entry : ScopeRecord × Nat)

/-- What staging one record does to the refusals. -/
theorem stageRecord_refusals :
    (stageRecord state authorized reads prepared acc entry).refusals.get index =
      match stagingRefusal state authorized reads prepared entry.1 entry.2 with
      | some refusal => if index = entry.2 then some refusal else acc.refusals.get index
      | none => acc.refusals.get index := by
  unfold stageRecord
  dsimp only
  cases stagingRefusal state authorized reads prepared entry.1 entry.2 with
  | some => exact HashMap.get_insert _ _ _ _
  | none => rfl

variable {entry} in
/-- What staging one record does to the set. -/
theorem stageRecord_next
    (hacc : state.live[entry.1.scopeRef]? = none → acc.next[entry.1.scopeRef]? = none) :
    (stageRecord state authorized reads prepared acc entry).next[scopeRef]? =
      if scopeRef = entry.1.scopeRef then
        if (stagingRefusal state authorized reads prepared entry.1 entry.2).isSome then
          state.live[scopeRef]?.map LiveScope.record
        else some (storedRecord entry.1)
      else acc.next[scopeRef]? := by
  unfold stageRecord
  dsimp only
  split
  case h_1 refusal heq =>
    rw [heq]
    split
    case h_1 held hheld =>
      rw [get_insert]
      split
      case isTrue href =>
        rw [href, hheld]
        rfl
      case isFalse => rfl
    case h_2 hnone =>
      split
      case isTrue href =>
        rw [href, hnone, hacc hnone]
        rfl
      case isFalse => rfl
  case h_2 heq =>
    rw [heq, get_insert]
    rfl

end

variable {authorized state start} in
/-- Staging refuses a record for its own reasons and gives the set its form. -/
theorem staged_form
    (hstart : ∀ scopeRef : String, state.live[scopeRef]? = none → start[scopeRef]? = none)
    {records : List ScopeRecord} (hrefs : (records.map ScopeRecord.scopeRef).Nodup) :
    NextForm state.live start records
      (staged state authorized reads prepared start records).refusals
      (staged state authorized reads prepared start records).next ∧
    (∀ (index : Nat) record, records[index]? = some record →
      (staged state authorized reads prepared start records).refusals.get index =
        stagingRefusal state authorized reads prepared record index) ∧
    ∀ index, records.length ≤ index →
      (staged state authorized reads prepared start records).refusals.get index =
        prepared.get index := by
  induction records using List.reverseRecOn with
  | nil => exact ⟨⟨by simp, fun _ _ => rfl⟩, by simp, fun _ _ => rfl⟩
  | append_singleton records record ih =>
    rw [List.map_append, List.nodup_append] at hrefs
    obtain ⟨hnodup, -, hdisjoint⟩ := hrefs
    have hfresh : record.scopeRef ∉ records.map ScopeRecord.scopeRef := fun hmem =>
      hdisjoint _ hmem _ (List.mem_singleton_self _) rfl
    obtain ⟨hform, hrefused, hlater⟩ := ih hnodup
    rw [staged_append]
    set acc := staged state authorized reads prepared start records with hacc
    have hnone : state.live[record.scopeRef]? = none → acc.next[record.scopeRef]? = none := by
      intro hlive
      rw [hform.unnamed _ hfresh]
      exact hstart _ hlive
    have hrefusals : ∀ index, (stageRecord state authorized reads prepared acc
        (record, records.length)).refusals.get index =
        if index = records.length then
          stagingRefusal state authorized reads prepared record records.length
        else acc.refusals.get index := by
      intro index
      rw [stageRecord_refusals]
      cases hrefusal : stagingRefusal state authorized reads prepared record records.length with
      | some => rfl
      | none =>
        dsimp only
        split
        case isTrue hindex =>
          rw [hindex, hlater _ (le_refl _)]
          unfold stagingRefusal at hrefusal
          cases hprepared : prepared.get records.length with
          | none => rfl
          | some =>
            rw [hprepared] at hrefusal
            cases hrefusal
        case isFalse => rfl
    have hsplit : ∀ (index : Nat) sent, (records ++ [record])[index]? = some sent →
        (records[index]? = some sent ∧ index < records.length) ∨
          (index = records.length ∧ sent = record) := by
      intro index sent hsent
      by_cases hlt : index < records.length
      · rw [List.getElem?_append_left hlt] at hsent
        exact .inl ⟨hsent, hlt⟩
      rw [List.getElem?_append_right (Nat.le_of_not_lt hlt), List.getElem?_singleton] at hsent
      split at hsent
      case isTrue => exact .inr ⟨by omega, (Option.some.inj hsent).symm⟩
      case isFalse => cases hsent
    refine ⟨⟨?_, ?_⟩, ?_, ?_⟩
    · intro index sent hsent
      rw [stageRecord_next state authorized reads prepared acc hnone, hrefusals]
      rcases hsplit index sent hsent with ⟨hsent, hlt⟩ | ⟨rfl, rfl⟩
      · have hne : sent.scopeRef ≠ record.scopeRef := fun heq =>
          hfresh (heq ▸ mem_refs_of_getElem? hsent)
        rw [if_neg hne, if_neg (show index ≠ records.length by omega)]
        exact hform.named index sent hsent
      · rw [if_pos rfl, if_pos rfl]
    · intro scopeRef hnot
      rw [List.map_append, List.mem_append, not_or] at hnot
      rw [stageRecord_next state authorized reads prepared acc hnone,
        if_neg (fun heq : scopeRef = record.scopeRef => hnot.2 (heq ▸ List.mem_singleton_self _))]
      exact hform.unnamed scopeRef hnot.1
    · intro index sent hsent
      rw [hrefusals]
      rcases hsplit index sent hsent with ⟨hsent, hlt⟩ | ⟨rfl, rfl⟩
      · rw [if_neg (by omega)]
        exact hrefused index sent hsent
      · rw [if_pos rfl]
    · intro index hindex
      rw [List.length_append, List.length_singleton] at hindex
      rw [hrefusals, if_neg (by omega)]
      exact hlater index (by omega)

end staging

end Subconscious.ScopeStaging
