import Subconscious.HashMaps
import Subconscious.Protocol
import Subconscious.Runs

/-!
# The registry of modules

Active registrations by module id, swap candidates beside them, and former
incumbents until their connection goes away. A registration may be reserved
before it is published: it holds its id, but the catalog does not list it. The
catalog generation moves whenever the listed registrations do. It is a 64-bit
counter; the model counts its bumps and reads them modulo 2^64.

What a manifest declares beside its id, roles, capabilities and readiness is
carried along unread. The change notifications of waiting supervisors and the
log lines are left out.
-/

namespace Subconscious.ModuleRegistry

open HashMaps Protocol Runs

/-- What a module declares about itself. -/
structure ModuleManifest (Role Capabilities Rest : Type) where
  moduleId : String
  ready : Option Bool
  provides : List Role
  capabilities : Option Capabilities
  rest : Rest
  deriving DecidableEq, Repr

/-- Lifecycle state of a registration. -/
inductive ChannelState where
  | active
  | closed
  deriving DecidableEq, Repr

/-- The record of one registration. -/
structure ModuleRegistration (Role Capabilities Rest : Type) where
  manifest : ModuleManifest Role Capabilities Rest
  ready : Bool
  negotiatedVer : UInt8
  state : ChannelState
  connectionId : ConnectionId
  controlOps : List String
  deriving DecidableEq, Repr

/-- Which registration a lookup is about. -/
inductive RegistrationSlot where
  | active (moduleId : String)
  | candidate (moduleId : String)
  | connection (connectionId : ConnectionId)
  deriving DecidableEq, Repr

/-- Where a lookup by connection found its registration. -/
inductive SlotKind where
  | active
  | candidate
  | superseded
  deriving DecidableEq, Repr

/-- Why a registration is refused. -/
inductive RegistryError where
  | duplicateModuleId (moduleId : String)
  | pathHazardModuleId (moduleId reason : String)
  deriving DecidableEq, Repr

/-- A control character in the sense of Unicode's category Cc. -/
def isControl (c : Char) : Bool := c.val < 0x20 || (0x7F ≤ c.val && c.val < 0xA0)

/-- Why an id is unusable as one path component, if it is. -/
def moduleIdPathHazard (moduleId : String) : Except String Unit :=
  if moduleId.isEmpty then .error "empty"
  else if moduleId.toList.contains '/' || moduleId.toList.contains '\\' then
    .error "contains a path separator"
  else if moduleId = "." || moduleId = ".." then .error "is a dot path component"
  else if moduleId.toList.any isControl then .error "contains a control character"
  else if moduleId.utf8ByteSize > 255 then .error "is longer than 255 bytes"
  else .ok ()

/-- The state behind the registry lock. -/
structure RegistryInner (Role Capabilities Rest : Type) where
  modules : HashMap String (ModuleRegistration Role Capabilities Rest)
  /-- Swap candidates: registered, never routable, never listed. -/
  candidates : HashMap String (ModuleRegistration Role Capabilities Rest)
  /-- Former incumbents, until their own connection removes them. -/
  superseded : List (ModuleRegistration Role Capabilities Rest)
  /-- Connections whose HELLO passed the launch-nonce check. -/
  nonceVerified : Finset ConnectionId
  /-- The connection that displaced each superseded one. -/
  supersededBy : HashMap ConnectionId ConnectionId
  /-- Connections whose registration is reserved but not yet published. -/
  unpublished : Finset ConnectionId
  /-- The generation's bumps so far. -/
  generation : Nat

/-- The registry of a daemon that just started. -/
def RegistryInner.new : RegistryInner Role Capabilities Rest :=
  ⟨.empty, .empty, [], ∅, .empty, ∅, 0⟩

/-- The next generation of the catalog. -/
def bumpGeneration (inner : RegistryInner Role Capabilities Rest) :
    RegistryInner Role Capabilities Rest :=
  { inner with generation := inner.generation + 1 }

/-- The first active, candidate or superseded registration of a connection. -/
def findByConnection (inner : RegistryInner Role Capabilities Rest)
    (connectionId : ConnectionId) : Option (SlotKind × ModuleRegistration Role Capabilities Rest) :=
  let ownedBy := fun registration : ModuleRegistration Role Capabilities Rest =>
    decide (registration.connectionId = connectionId)
  ((inner.modules.values.find? ownedBy).map fun registration => (.active, registration))
    <|> ((inner.candidates.values.find? ownedBy).map fun registration => (.candidate, registration))
    <|> ((inner.superseded.find? ownedBy).map fun registration => (.superseded, registration))

/-- What a registration brings. -/
structure RegisterRequest (Role Capabilities Rest : Type) where
  manifest : ModuleManifest Role Capabilities Rest
  negotiatedVer : UInt8
  connectionId : ConnectionId
  controlOps : List String
  publish : Bool
  nonceVerified : Bool
  deriving DecidableEq, Repr

section

variable (request : RegisterRequest Role Capabilities Rest)

/-- The record a request makes. A manifest without readiness is ready. -/
def RegisterRequest.registration : ModuleRegistration Role Capabilities Rest :=
  ⟨request.manifest, request.manifest.ready.getD true, request.negotiatedVer, .active,
    request.connectionId, request.controlOps⟩

/-- Remember whether the connection's nonce was verified. -/
def RegisterRequest.markNonce (nonceVerified : Finset ConnectionId) : Finset ConnectionId :=
  if request.nonceVerified then insert request.connectionId nonceVerified
  else nonceVerified.erase request.connectionId

end

section

variable (inner : RegistryInner Role Capabilities Rest)
  (request : RegisterRequest Role Capabilities Rest)

/-- Register into the active slot of the id. -/
def registerActive :
    RegistryInner Role Capabilities Rest ×
      Except RegistryError (ModuleRegistration Role Capabilities Rest) :=
  match moduleIdPathHazard request.manifest.moduleId with
  | .error reason => (inner, .error (.pathHazardModuleId request.manifest.moduleId reason))
  | .ok () =>
    if inner.modules.contains request.manifest.moduleId then
      (inner, .error (.duplicateModuleId request.manifest.moduleId))
    else
      let entered := { inner with
        modules := inner.modules.insert request.manifest.moduleId request.registration
        nonceVerified := request.markNonce inner.nonceVerified }
      (if request.publish then bumpGeneration entered
        else { entered with unpublished := insert request.connectionId inner.unpublished },
        .ok request.registration)

/-- Register a swap candidate of the id. -/
def registerCandidate :
    RegistryInner Role Capabilities Rest ×
      Except RegistryError (ModuleRegistration Role Capabilities Rest) :=
  match moduleIdPathHazard request.manifest.moduleId with
  | .error reason => (inner, .error (.pathHazardModuleId request.manifest.moduleId reason))
  | .ok () =>
    if inner.candidates.contains request.manifest.moduleId then
      (inner, .error (.duplicateModuleId request.manifest.moduleId))
    else
      let entered := { inner with
        candidates := inner.candidates.insert request.manifest.moduleId request.registration
        nonceVerified := request.markNonce inner.nonceVerified }
      (if request.publish then entered
        else { entered with unpublished := insert request.connectionId inner.unpublished },
        .ok request.registration)

end

/-- Publish what a connection holds. Only an active one moves the generation. -/
def publishRegistration (inner : RegistryInner Role Capabilities Rest)
    (connectionId : ConnectionId) : RegistryInner Role Capabilities Rest × Bool :=
  if connectionId ∉ inner.unpublished then (inner, false)
  else
    let published := { inner with unpublished := inner.unpublished.erase connectionId }
    match findByConnection published connectionId with
    | none => (published, false)
    | some (.active, _) => (bumpGeneration published, true)
    | some (_, _) => (published, true)

/-- What a promotion did. -/
structure RegistryCutover (Role Capabilities Rest : Type) where
  promoted : ModuleRegistration Role Capabilities Rest
  superseded : Option (ModuleRegistration Role Capabilities Rest)
  deriving DecidableEq, Repr

/-- Move the candidate of an id into the active slot. -/
def promoteCandidate (inner : RegistryInner Role Capabilities Rest) (moduleId : String) :
    RegistryInner Role Capabilities Rest × Option (RegistryCutover Role Capabilities Rest) :=
  match inner.candidates.get moduleId with
  | none => (inner, none)
  | some promoted =>
    let superseded := inner.modules.get moduleId
    (bumpGeneration { inner with
        candidates := inner.candidates.remove moduleId
        modules := inner.modules.insert moduleId promoted
        superseded := inner.superseded ++ superseded.toList
        supersededBy := match superseded with
          | some old => inner.supersededBy.insert old.connectionId promoted.connectionId
          | none => inner.supersededBy },
      some ⟨promoted, superseded⟩)

/-- What a module declares anew. -/
structure CatalogUpdate (Role Capabilities : Type) where
  provides : List Role
  capabilities : Option Capabilities
  ready : Option Bool
  deriving DecidableEq, Repr

/-- A registration with its roles, and what else was supplied, replaced. -/
def CatalogUpdate.apply (update : CatalogUpdate Role Capabilities)
    (registration : ModuleRegistration Role Capabilities Rest) :
    ModuleRegistration Role Capabilities Rest :=
  { registration with
    manifest := { registration.manifest with
      provides := update.provides
      capabilities := update.capabilities <|> registration.manifest.capabilities
      ready := update.ready <|> registration.manifest.ready }
    ready := update.ready.getD registration.ready }

section

variable (slots : HashMap String (ModuleRegistration Role Capabilities Rest))
  (connectionId : ConnectionId)

/-- Change the first registration of a connection in a map of slots. -/
def modifyOwned
    (f : ModuleRegistration Role Capabilities Rest → ModuleRegistration Role Capabilities Rest) :
    HashMap String (ModuleRegistration Role Capabilities Rest) :=
  match slots.toList.find? fun entry => entry.2.connectionId = connectionId with
  | none => slots
  | some entry => slots.modify entry.1 f

/-- Change the first superseded registration of a connection. -/
def modifySuperseded (connectionId : ConnectionId)
    (f : ModuleRegistration Role Capabilities Rest → ModuleRegistration Role Capabilities Rest) :
    List (ModuleRegistration Role Capabilities Rest) →
      List (ModuleRegistration Role Capabilities Rest)
  | [] => []
  | registration :: rest =>
    if registration.connectionId = connectionId then f registration :: rest
    else registration :: modifySuperseded connectionId f rest

/-- Replace what the registration of a connection declares, in whichever slot
it is. Only a published active one moves the generation. -/
def replaceCatalogForConnection (inner : RegistryInner Role Capabilities Rest)
    (connectionId : ConnectionId) (update : CatalogUpdate Role Capabilities) :
    RegistryInner Role Capabilities Rest × Option (ModuleRegistration Role Capabilities Rest) :=
  match findByConnection inner connectionId with
  | none => (inner, none)
  | some (.active, registration) =>
    let replaced := { inner with modules := modifyOwned inner.modules connectionId update.apply }
    (if connectionId ∈ inner.unpublished then replaced else bumpGeneration replaced,
      some (update.apply registration))
  | some (.candidate, registration) =>
    ({ inner with candidates := modifyOwned inner.candidates connectionId update.apply },
      some (update.apply registration))
  | some (.superseded, registration) =>
    ({ inner with superseded := modifySuperseded connectionId update.apply inner.superseded },
      some (update.apply registration))

/-- The ids under which a connection holds registrations in a map of slots. -/
def ownedIds : List String :=
  (slots.toList.filter fun entry => entry.2.connectionId = connectionId).map Prod.fst

end

/-- A registration that ended. -/
def ModuleRegistration.close (registration : ModuleRegistration Role Capabilities Rest) :
    ModuleRegistration Role Capabilities Rest :=
  { registration with state := .closed }

/-- The registry and the registrations a removal has closed. -/
structure Closing (Role Capabilities Rest : Type) where
  inner : RegistryInner Role Capabilities Rest
  closed : List (ModuleRegistration Role Capabilities Rest)

/-- Close the active registration of an id; a listed one moves the generation. -/
def closeModule (listed : Bool) (closing : Closing Role Capabilities Rest) (moduleId : String) :
    Closing Role Capabilities Rest :=
  match closing.inner.modules.get moduleId with
  | none => closing
  | some registration =>
    let removed := { closing.inner with modules := closing.inner.modules.remove moduleId }
    ⟨if listed then bumpGeneration removed else removed, closing.closed ++ [registration.close]⟩

/-- Close the candidate of an id. -/
def closeCandidate (closing : Closing Role Capabilities Rest) (moduleId : String) :
    Closing Role Capabilities Rest :=
  match closing.inner.candidates.get moduleId with
  | none => closing
  | some registration =>
    ⟨{ closing.inner with candidates := closing.inner.candidates.remove moduleId },
      closing.closed ++ [registration.close]⟩

section

variable (inner : RegistryInner Role Capabilities Rest)

/-- Remove every registration of a dropped connection, in any slot. -/
def deregisterConnection (connectionId : ConnectionId) :
    RegistryInner Role Capabilities Rest × List (ModuleRegistration Role Capabilities Rest) :=
  let wasPublished := decide (connectionId ∉ inner.unpublished)
  let unmarked := { inner with unpublished := inner.unpublished.erase connectionId }
  let active := (ownedIds unmarked.modules connectionId).foldl (closeModule wasPublished)
    ⟨unmarked, []⟩
  let candidate := (ownedIds active.inner.candidates connectionId).foldl closeCandidate active
  let removed := candidate.inner.superseded.filter fun registration =>
    registration.connectionId = connectionId
  let closed := candidate.closed ++ removed.map ModuleRegistration.close
  ({ candidate.inner with
      superseded := candidate.inner.superseded.filter fun registration =>
        registration.connectionId ≠ connectionId
      nonceVerified := closed.foldl
        (fun verified registration => verified.erase registration.connectionId)
        candidate.inner.nonceVerified
      supersededBy :=
        if removed.isEmpty then candidate.inner.supersededBy
        else candidate.inner.supersededBy.remove connectionId },
    closed)

/-- The order of the catalog. -/
def byModuleId (left right : ModuleRegistration Role Capabilities Rest) : Bool :=
  left.manifest.moduleId ≤ right.manifest.moduleId

/-- The generation and the active registrations the catalog shows. -/
def listModules : UInt64 × List (ModuleRegistration Role Capabilities Rest) :=
  (.ofNat inner.generation, (inner.modules.values.filter fun registration =>
      registration.connectionId ∉ inner.unpublished).mergeSort byModuleId)

/-- The registration in a slot, if it is published. -/
def publishedRegistration (slot : RegistrationSlot) :
    Option (ModuleRegistration Role Capabilities Rest) :=
  let registration := match slot with
    | .active moduleId => inner.modules.get moduleId
    | .candidate moduleId => inner.candidates.get moduleId
    | .connection connectionId => (findByConnection inner connectionId).map Prod.snd
  registration.filter fun registration => registration.connectionId ∉ inner.unpublished

end

/-- One call of the registry. -/
inductive RegistryOp (Role Capabilities Rest : Type) where
  | registerActive (request : RegisterRequest Role Capabilities Rest)
  | registerCandidate (request : RegisterRequest Role Capabilities Rest)
  | publishRegistration (connectionId : ConnectionId)
  | promoteCandidate (moduleId : String)
  | replaceCatalog (connectionId : ConnectionId) (update : CatalogUpdate Role Capabilities)
  | deregisterConnection (connectionId : ConnectionId)
  deriving DecidableEq

/-- The registry after one call. -/
def RegistryOp.apply (inner : RegistryInner Role Capabilities Rest) :
    RegistryOp Role Capabilities Rest → RegistryInner Role Capabilities Rest
  | .registerActive request => (ModuleRegistry.registerActive inner request).1
  | .registerCandidate request => (ModuleRegistry.registerCandidate inner request).1
  | .publishRegistration connectionId => (ModuleRegistry.publishRegistration inner connectionId).1
  | .promoteCandidate moduleId => (ModuleRegistry.promoteCandidate inner moduleId).1
  | .replaceCatalog connectionId update =>
    (replaceCatalogForConnection inner connectionId update).1
  | .deregisterConnection connectionId =>
    (ModuleRegistry.deregisterConnection inner connectionId).1

section

variable (ops : List (RegistryOp Role Capabilities Rest))

/-- The registry after a run. -/
def run : RegistryInner Role Capabilities Rest :=
  ops.foldl RegistryOp.apply .new

/-- A run goes on from where its first part left the registry. -/
theorem run_append (more : List (RegistryOp Role Capabilities Rest)) :
    run (ops ++ more) = more.foldl RegistryOp.apply (run ops) := List.foldl_append

end

/-- A registering call is made by a connection that holds no registration. -/
def registersFree (inner : RegistryInner Role Capabilities Rest) :
    RegistryOp Role Capabilities Rest → Bool
  | .registerActive request => (findByConnection inner request.connectionId).isNone
  | .registerCandidate request => (findByConnection inner request.connectionId).isNone
  | _ => true

/-- Every call of a run is such a call. -/
abbrev AllRegisterFree (ops : List (RegistryOp Role Capabilities Rest)) : Prop :=
  Throughout RegistryOp.apply (fun inner op => registersFree inner op = true) .new ops

end Subconscious.ModuleRegistry
