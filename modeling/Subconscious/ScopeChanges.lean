import Subconscious.Protocol
import Mathlib.Data.Finset.Lattice.Fold

/-!
# What a scope change tells the forwarding table

The scope table and the forwarding table meet in three values. A tag is the
session epoch and content counter a bind captures. A tag change says how one
scope's tag moved and which live routes the move closes. A bound scope is
what a pending bind or a live route remembers of its admission.
-/

namespace Subconscious.ScopeChanges

open Protocol

/-- The session a scope names and the daemon's counter of its content. -/
structure ScopeTag where
  scopeEpoch : Nat
  version : Nat
  deriving DecidableEq, Repr

/-- Which live routes a change to one scope closes. -/
inductive ScopeDrain where
  /-- The change narrows no one's authority. -/
  | nothing
  /-- Every route under the scope. -/
  | all (reason : RouteCloseReason)
  /-- Routes opened by these carriers, outside the allowance they keep.
  The allowance `none` keeps nothing. -/
  | carriers (narrowed : List (Principal × Option (Finset String)))
  deriving DecidableEq

/-- Rank for combining two drains of one scope in the same call. -/
def ScopeDrain.rank : ScopeDrain → Nat
  | .nothing => 0
  | .carriers _ => 1
  | .all .scopeDelegationChanged => 2
  | .all .scopeParentEnded => 3
  | .all _ => 4

/-- The drain that closes more, and the first one on a tie. -/
def ScopeDrain.widen (self other : ScopeDrain) : ScopeDrain :=
  if other.rank > self.rank then other else self

/-- One scope whose tag a call changed; `after = none` means it ended. -/
structure ScopeTagChange where
  owner : String
  scopeRef : String
  before : Option ScopeTag
  after : Option ScopeTag
  drain : ScopeDrain
  deriving DecidableEq

/-- Identity of the shared lease that counts one admitted bind. -/
abbrev LeaseId := Nat

/-- The scope a pending bind or a live route was admitted under. -/
structure BoundScope where
  owner : String
  scopeRef : String
  tag : ScopeTag
  workdir : Option String
  lease : LeaseId
  deriving DecidableEq, Repr

/-- The table key of the scope. -/
def BoundScope.key (scope : BoundScope) : String × String := (scope.owner, scope.scopeRef)

/-- The table key of the scope a change is about. -/
def ScopeTagChange.key (change : ScopeTagChange) : String × String :=
  (change.owner, change.scopeRef)

end Subconscious.ScopeChanges
