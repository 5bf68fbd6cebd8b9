import Subconscious.HashMaps

/-!
# The verdicts a policy resolver returns

A module that enforces gates keeps the verdicts it resolved until they expire or a
newer policy revision is observed, in a reply or in a bump of a subscription. A step
is one locked section of the cache, and the steps come in any order: a reply settles
whenever it arrives and a sweep may come at any time, not only once one is due.
-/

namespace Subconscious.PolicyVerdicts

open HashMaps HashMap

/-- Whom a verdict is about. -/
inductive Subject where
  | agentId (id : String)
  | sessionToResolve (id : String)
  deriving DecidableEq, Repr

/-- The project it is asked for. -/
inductive ProjectRef where
  | root (path : String)
  | id (id : String)
  deriving DecidableEq, Repr

/-- What a policy says. -/
inductive PolicyVerdict where
  | allow | deny | ask | denyUnknownDomain
  | unknown (value : String)
  deriving DecidableEq, Repr

/-- What a verdict is cached by. -/
structure CacheKey where
  domain : String
  gateId : String
  subject : Subject
  project : ProjectRef
  deriving DecidableEq, Repr

/-- A cached verdict. -/
structure CacheEntry where
  verdict : PolicyVerdict
  revision : Nat
  expiresAt : Nat
  deriving DecidableEq, Repr

/-- The answer of the policy module. -/
structure PolicyResolveReply where
  verdict : PolicyVerdict
  revision : Nat
  ttlMs : Nat
  deriving DecidableEq, Repr

/-- The cache and its watermark. -/
structure CacheState where
  lastKnownRevision : Nat := 0
  entries : HashMap CacheKey CacheEntry := .empty

section

variable (cache : CacheState)

/-- A newer revision empties the cache. -/
def observeRevision (revision : Nat) : CacheState :=
  if cache.lastKnownRevision < revision then ⟨revision, .empty⟩ else cache

/-- The entry whose verdict is returned. One that can not be used is dropped. -/
def cachedVerdict (key : CacheKey) (now : Nat) : Option CacheEntry × CacheState :=
  match cache.entries.get key with
  | none => (none, cache)
  | some entry =>
    if now < entry.expiresAt ∧ entry.revision = cache.lastKnownRevision then (some entry, cache)
    else (none, { cache with entries := cache.entries.remove key })

/-- The last section of a resolve, with the entry whose verdict it returns. -/
def settle (ttlFloorMs : Nat) (key : CacheKey) (reply : PolicyResolveReply) (now : Nat) :
    Except String (CacheEntry × CacheState) :=
  if reply.revision < cache.lastKnownRevision then
    .error "reply revision regressed below an observed generation"
  else
    let entry := ⟨reply.verdict, reply.revision, now + max reply.ttlMs ttlFloorMs⟩
    let cache := observeRevision cache reply.revision
    .ok (entry, { cache with entries := cache.entries.insert key entry })

/-- Drop what has expired. -/
def evictExpired (now : Nat) : CacheState :=
  { cache with entries := cache.entries.retain fun _ entry => now < entry.expiresAt }

end

/-- The resolver, with the history that says what it has been told. -/
structure World where
  ttlFloorMs : Nat
  cache : CacheState := {}
  /-- The revisions of all replies and bumps so far. -/
  observed : List Nat := []
  /-- The entries that replies made, with the key that was asked for. -/
  answered : List (CacheKey × CacheEntry) := []

/-- What happens to the cache. -/
inductive Step where
  | cachedVerdict (key : CacheKey) (now : Nat)
  | settle (key : CacheKey) (reply : PolicyResolveReply) (now : Nat)
  | bump (revision : Nat)
  | sweep (now : Nat)
  deriving DecidableEq, Repr

/-- One event. -/
def step (world : World) : Step → World
  | .cachedVerdict key now => { world with cache := (cachedVerdict world.cache key now).2 }
  | .settle key reply now =>
    let observed := reply.revision :: world.observed
    match settle world.cache world.ttlFloorMs key reply now with
    | .ok (entry, cache) =>
      { world with cache, observed, answered := (key, entry) :: world.answered }
    | .error _ => { world with observed }
  | .bump revision =>
    { world with
      cache := observeRevision world.cache revision, observed := revision :: world.observed }
  | .sweep now => { world with cache := evictExpired world.cache now }

/-- The resolver after some events. -/
def run (ttlFloorMs : Nat) (steps : List Step) : World := steps.foldl step { ttlFloorMs }

section

variable (world : World)

/-- Nothing observed is newer than the watermark, and every entry is an answer. -/
structure Watermarked : Prop where
  observed : ∀ revision ∈ world.observed, revision ≤ world.cache.lastKnownRevision
  answered : ∀ key entry, world.cache.entries.get key = some entry → (key, entry) ∈ world.answered

/-- What the resolver can do from here. -/
structure Current : Prop where
  /-- A cached verdict is current, alive and an answer for its key. -/
  cached : ∀ key now entry, (cachedVerdict world.cache key now).1 = some entry →
    (∀ revision ∈ world.observed, revision ≤ entry.revision) ∧ now < entry.expiresAt ∧
      (key, entry) ∈ world.answered
  /-- The verdict of a reply is the reply's and current. -/
  settled : ∀ key reply now entry cache,
    settle world.cache world.ttlFloorMs key reply now = .ok (entry, cache) →
      entry.verdict = reply.verdict ∧ entry.revision = reply.revision ∧
        ∀ revision ∈ world.observed, revision ≤ entry.revision
  /-- A bump leaves an entry as it is or drops it. -/
  bumped : ∀ revision key entry,
    (observeRevision world.cache revision).entries.get key = some entry →
      world.cache.entries.get key = some entry

end

theorem le_observeRevision (cache : CacheState) (revision : Nat) :
    max revision cache.lastKnownRevision ≤ (observeRevision cache revision).lastKnownRevision := by
  unfold observeRevision
  split
  case isTrue hnewer => exact Nat.max_le.mpr ⟨le_refl _, hnewer.le⟩
  case isFalse hold => exact Nat.max_le.mpr ⟨Nat.le_of_not_lt hold, le_refl _⟩

theorem entries_of_observeRevision
    (hget : (observeRevision cache revision).entries.get key = some entry) :
    cache.entries.get key = some entry := by
  unfold observeRevision at hget
  split at hget
  · cases hget
  · exact hget

/-- A lookup may drop entries and leaves the watermark alone. -/
theorem cachedVerdict_snd (cache : CacheState) (key : CacheKey) (now : Nat) :
    ∃ entries, (cachedVerdict cache key now).2 = { cache with entries } ∧
      entries.Within cache.entries := by
  unfold cachedVerdict
  split
  · exact ⟨_, rfl, fun _ _ => id⟩
  · split
    · exact ⟨_, rfl, fun _ _ => id⟩
    · exact ⟨_, rfl, fun _ _ hget => (of_get_remove hget).2⟩

theorem settle_eq_ok (hok : settle cache ttlFloorMs key reply now = .ok (entry, after)) :
    cache.lastKnownRevision ≤ reply.revision ∧
      entry = ⟨reply.verdict, reply.revision, now + max reply.ttlMs ttlFloorMs⟩ ∧
      after = { observeRevision cache reply.revision with
        entries := (observeRevision cache reply.revision).entries.insert key entry } := by
  unfold settle at hok
  split at hok
  · cases hok
  case isFalse hcurrent =>
    cases hok
    exact ⟨Nat.le_of_not_lt hcurrent, rfl, rfl⟩

theorem settle_eq_error (herror : settle cache ttlFloorMs key reply now = .error message) :
    reply.revision < cache.lastKnownRevision := by
  unfold settle at herror
  split at herror
  case isTrue hstale => exact hstale
  case isFalse => cases herror

section

variable (h : Watermarked world)
include h

theorem Watermarked.observe :
    ∀ other ∈ revision :: world.observed,
      other ≤ (observeRevision world.cache revision).lastKnownRevision := by
  have hmax := Nat.max_le.mp (le_observeRevision world.cache revision)
  refine List.forall_mem_cons.mpr ⟨hmax.1, ?_⟩
  exact fun other hold => (h.observed other hold).trans hmax.2

theorem Watermarked.step (next : Step) : Watermarked (step world next) := by
  cases next with
  | cachedVerdict key now =>
    obtain ⟨entries, hcache, hsub⟩ := cachedVerdict_snd world.cache key now
    simp only [PolicyVerdicts.step, hcache]
    exact ⟨h.observed, fun other entry hget => h.answered other entry (hsub other entry hget)⟩
  | settle key reply now =>
    simp only [PolicyVerdicts.step]
    split
    case h_1 entry after hok =>
      obtain ⟨-, -, rfl⟩ := settle_eq_ok hok
      refine ⟨h.observe, forall_insert List.mem_cons_self ?_⟩
      intro other old hget
      exact List.mem_cons_of_mem _ (h.answered other old (entries_of_observeRevision hget))
    case h_2 message herror =>
      exact ⟨List.forall_mem_cons.mpr ⟨(settle_eq_error herror).le, h.observed⟩, h.answered⟩
  | bump revision =>
    refine ⟨h.observe, fun key entry hget => ?_⟩
    exact h.answered key entry (entries_of_observeRevision hget)
  | sweep now =>
    refine ⟨h.observed, fun key entry hget => h.answered key entry ?_⟩
    exact (Option.filter_eq_some_iff.mp ((get_retain ..).symm.trans hget)).1

/-- An entry at the watermark is as new as everything observed. -/
theorem Watermarked.current : Current world where
  cached key now entry hcached := by
    unfold cachedVerdict at hcached
    split at hcached
    · cases hcached
    case h_2 found hget =>
      split at hcached
      case isTrue hlive =>
        cases hcached
        exact ⟨fun revision hold => hlive.2 ▸ h.observed revision hold, hlive.1,
          h.answered key entry hget⟩
      case isFalse => cases hcached
  settled key reply now entry after hok := by
    obtain ⟨hcurrent, rfl, -⟩ := settle_eq_ok hok
    exact ⟨rfl, rfl, fun revision hold => (h.observed revision hold).trans hcurrent⟩
  bumped _ _ _ := entries_of_observeRevision

end

/-- At every moment of every run, no verdict can be returned that an observed revision
has overtaken, and a bump makes none. -/
theorem run_verdicts_current (ttlFloorMs : Nat) (steps : List Step) :
    Current (run ttlFloorMs steps) := by
  suffices hmarked : Watermarked (run ttlFloorMs steps) from hmarked.current
  exact List.foldlRecOn steps step ⟨nofun, nofun⟩ fun world h next _ => h.step next

end Subconscious.PolicyVerdicts
