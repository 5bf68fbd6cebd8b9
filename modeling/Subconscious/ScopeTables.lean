import Subconscious.HashMaps
import Subconscious.TreeMaps
import Subconscious.ScopeRecords
import Subconscious.ScopeChanges
import Mathlib.Data.Finset.Union

/-!
# The daemon's scope table

Everything here is in memory and starts empty. An owner holds its live scopes
by ref, a bounded memory of the sessions it ended, and the authority of the
connection that synced last. The clock, the counters that admitted binds
share with a scope, and the iteration order of the owners' hash map are read
from outside and stand as arguments.
-/

namespace Subconscious.ScopeTables

open HashMaps TreeMaps Protocol ScopeRecords ScopeChanges

/-- Identity of the counters the binds of one live epoch share. -/
abbrev CellId := Nat

/-- A live scope. -/
structure LiveScope where
  record : ScopeRecord
  /-- The daemon's counter of its content. -/
  version : Nat
  /-- `none` exactly when the record has no parent. -/
  parentState : Option ParentState
  /-- The counters of its binds, its presence and the modules that served it;
  every new epoch gets fresh ones, named by the version it begins with. -/
  cells : CellId
  deriving DecidableEq, Repr

/-- What a bind captures of the scope. -/
def LiveScope.tag (scope : LiveScope) : ScopeTag := ⟨scope.record.scopeEpoch, scope.version⟩

/-- The connection that may sync for an owner. -/
structure SyncAuthority where
  connectionId : ConnectionId
  lastGeneration : Nat
  deriving DecidableEq, Repr

/-- Why a session ended. -/
inductive EndCause where
  | expired
  | ownerEnded
  deriving DecidableEq, Repr

/-- The ended sessions of an owner, oldest first. -/
structure Tombstones where
  order : List (String × Nat)
  byRef : HashMap String (TreeMap Nat EndCause)

/-- One owner's scopes. -/
structure OwnerScopes where
  authority : Option SyncAuthority
  /-- Whether a sync of the owner was accepted since the daemon started. -/
  synced : Bool
  live : TreeMap String LiveScope
  tombstones : Tombstones

/-- An owner that never synced. -/
def OwnerScopes.default : OwnerScopes where
  authority := none
  synced := false
  live := ∅
  tombstones := ⟨[], .empty⟩

/-- All scopes of one daemon. -/
structure ScopeTable where
  /-- The modules whose scopes may carry authority attributes. -/
  authorityOwners : Finset String
  owners : HashMap String OwnerScopes
  /-- Source of every version; 64 bits in the daemon, counted here without wrap. -/
  lastVersion : Nat

/-- The table of a daemon that just started. -/
def ScopeTable.new (authorityOwners : Finset String) : ScopeTable := ⟨authorityOwners, .empty, 0⟩

/-- An owner's scopes, or those of an owner nobody heard of. -/
def ScopeTable.owner (table : ScopeTable) (owner : String) : OwnerScopes :=
  (table.owners.get owner).getD .default

/-- The live scope of an owner and a ref. -/
def ScopeTable.live? (table : ScopeTable) (owner scopeRef : String) : Option LiveScope :=
  (table.owner owner).live[scopeRef]?

/-- An order in which a hash map may be walked. -/
structure HashOrder where
  arrange : List String → List String
  perm : ∀ keys, (arrange keys).Perm keys

/-- The order of the entries themselves. -/
def HashOrder.asStored : HashOrder := ⟨id, fun _ => .refl _⟩

/-- The module id of a supervised module's principal. -/
def reservedModuleId : Principal → Option String
  | .reserved moduleId => some moduleId
  | _ => none

/-- Only a supervised module has an id. -/
theorem reservedModuleId_eq (h : reservedModuleId principal = some moduleId) :
    principal = .reserved moduleId := by
  cases principal with
  | reserved =>
    cases h
    rfl
  | _ => cases h

/-- Forget one ended session. -/
def forgetEpoch (byRef : HashMap String (TreeMap Nat EndCause)) (scopeRef : String)
    (scopeEpoch : Nat) : HashMap String (TreeMap Nat EndCause) :=
  match byRef.get scopeRef with
  | none => byRef
  | some epochs =>
    let rest := epochs.erase scopeEpoch
    if rest.isEmpty then byRef.remove scopeRef else byRef.insert scopeRef rest

/-- Forget the oldest sessions until the rest fits. -/
def evictTombstones (byRef : HashMap String (TreeMap Nat EndCause)) :
    List (String × Nat) → Tombstones
  | [] => ⟨[], byRef⟩
  | (scopeRef, scopeEpoch) :: rest =>
    if rest.length + 1 > maxScopeTombstonesPerOwner then
      evictTombstones (forgetEpoch byRef scopeRef scopeEpoch) rest
    else ⟨(scopeRef, scopeEpoch) :: rest, byRef⟩

/-- Remember an ended session. -/
def Tombstones.insert (tombstones : Tombstones) (scopeRef : String) (scopeEpoch : Nat)
    (cause : EndCause) : Tombstones :=
  let epochs := (tombstones.byRef.get scopeRef).getD ∅
  if epochs[scopeEpoch]?.isSome then tombstones
  else
    evictTombstones (tombstones.byRef.insert scopeRef (epochs.insert scopeEpoch cause))
      (tombstones.order ++ [(scopeRef, scopeEpoch)])

/-- Why a session ended, while it is remembered. -/
def Tombstones.cause (tombstones : Tombstones) (scopeRef : String) (scopeEpoch : Nat) :
    Option EndCause :=
  (tombstones.byRef.get scopeRef).bind fun epochs => epochs[scopeEpoch]?

/-- The latest remembered session of a ref. -/
def Tombstones.latest (tombstones : Tombstones) (scopeRef : String) : Option Nat :=
  (tombstones.byRef.get scopeRef).bind fun epochs => epochs.keys.getLast?

/-- A scope whose deadline passed. -/
structure ScopeExpired where
  owner : String
  scopeRef : String
  scopeEpoch : Nat
  expiresAtMs : Nat
  deriving DecidableEq, Repr

/-- The deadline of a scope that has passed. -/
def LiveScope.passedDeadline (scope : LiveScope) (now : Nat) : Option Nat :=
  scope.record.expiresAtMs.filter fun deadline => deadline ≤ now

/-- End the scopes of an owner whose deadline passed. -/
def expireOwner (owner : String) (state : OwnerScopes) (now : Nat) :
    OwnerScopes × List ScopeExpired :=
  let expired := state.live.toList.filterMap fun entry =>
    (entry.2.passedDeadline now).map fun deadline =>
      ⟨owner, entry.1, entry.2.record.scopeEpoch, deadline⟩
  ({ state with
      live := retain state.live fun _ scope => (scope.passedDeadline now).isNone
      tombstones := expired.foldl
        (fun tombstones scope => tombstones.insert scope.scopeRef scope.scopeEpoch .expired)
        state.tombstones },
    expired)

/-- The modules one principal may open to under a record: `none` for no module,
`some none` for any. The owner is not a carrier and is not answered here. -/
def carrierAllowance (record : ScopeRecord) (principal : Principal) :
    Option (Option (Finset String)) :=
  (record.carriers.filter fun carrier => carrier.principal = principal).foldl
    (fun allowance carrier =>
      match allowance, carrier.targets with
      | some none, _ => some none
      | _, none => some none
      | some (some set), some targets => some (some (set ∪ targets.toFinset))
      | none, some targets => some (some targets.toFinset))
    none

/-- The carriers of a record, each once, in order of first mention. -/
def carrierPrincipals (record : ScopeRecord) : List Principal :=
  record.carriers.foldl (fun principals carrier =>
      if carrier.principal ∈ principals then principals else principals ++ [carrier.principal])
    []

/-- What a carrier that lost something may still open to. -/
def narrowedCarrier (before after : ScopeRecord) (principal : Principal) :
    Option (Principal × Option (Finset String)) :=
  match carrierAllowance before principal, carrierAllowance after principal with
  | some _, none => some (principal, none)
  | some none, some (some set) => some (principal, some set)
  | some (some old), some (some set) => if old ⊆ set then none else some (principal, some set)
  | _, _ => none

/-- Which routes of the same scope a content change at one epoch closes. -/
def drainForChange (before after : LiveScope) : ScopeDrain :=
  let narrowed :=
    (carrierPrincipals before.record).filterMap (narrowedCarrier before.record after.record)
  let drain : ScopeDrain := if narrowed = [] then .nothing else .carriers narrowed
  let was := before.record.attributes
  let now := after.record.attributes
  let drain :=
    if (was.delegates && !now.delegates) || decide (was.agentId ≠ now.agentId)
        || decide (was.onBehalfOfAgent ≠ now.onBehalfOfAgent) || decide (was.flowId ≠ now.flowId)
        || decide (was.runId ≠ now.runId) then
      drain.widen (.all .scopeDelegationChanged)
    else drain
  if after.parentState = some .ended ∧ before.parentState ≠ some .ended then
    drain.widen (.all .scopeParentEnded)
  else drain

end Subconscious.ScopeTables
