import Subconscious.HashMaps
import Subconscious.Protocol
import Subconscious.Runs

/-!
# Reverse requests of modules and their hosts

A module asks the MCP host a question with a reverse request. The gateway admits
the request into a table that is bounded for each host session, and takes it out
again when the host answers or fails, when the request expires, and when its
route, its session or the connection ends. An answer leaves the table only if a
frame could be built from it and the writer had a slot; every other ending takes
its requests out first.
-/

namespace Subconscious.ReverseRelay

open HashMaps HashMap Protocol Runs

/-- A request on the connection to the daemon: channel, epoch and correlation id. -/
structure PendingKey where
  route : RouteKey
  corr : Nat
  deriving DecidableEq, Repr

/-- A request in the table. The relay does not store which admission it was. -/
structure PendingRelayEntry where
  sessionId : String
  admission : Nat
  deriving DecidableEq, Repr

/-- The relay of one connection. -/
structure Relay where
  connectionToken : Nat
  pending : HashMap PendingKey PendingRelayEntry := .empty
  /-- The number of admissions, those that were sent a terminal frame, and those
  whose ending was handled. -/
  admitted : Nat := 0
  answered : List Nat := []
  finished : List Nat := []

/-- What happens to the relay. -/
inductive Step where
  | admitPending (key : PendingKey) (session : String)
  /-- An answer of the host or an error, with the length of the body and whether
  the writer granted a slot. -/
  | settlePendingFrame (key : PendingKey) (body : Nat) (reserved : Bool)
  | expirePending (key : PendingKey)
  /-- `queued` are the requests whose error frame the writer takes. -/
  | failSession (session : String) (queued : List PendingKey)
  | dropRoute (handle : RouteHandle)
  | cancelRoutePrompts (handle : RouteHandle) (queued : List PendingKey)
  | clearAll
  deriving DecidableEq, Repr

/-- Whether a frame can be built from a body. -/
def buildReverseFrame (body : Nat) : Bool := body ≤ maxFrameBodyLen

section

variable (relay : Relay) (predicate : PendingKey → PendingRelayEntry → Bool)

/-- The admissions of the requests in the table that meet a test. -/
def admissionsWhere : List Nat :=
  (relay.pending.toList.filter fun entry => predicate entry.1 entry.2).map (·.2.admission)

/-- Requests leave the table, each with a terminal frame or without one. -/
def removePendingWhere (queued : PendingKey → Bool) : Relay :=
  { relay with
    pending := relay.pending.retain fun key entry => !predicate key entry
    answered :=
      admissionsWhere relay (fun key entry => predicate key entry && queued key) ++ relay.answered
    finished := admissionsWhere relay predicate ++ relay.finished }

/-- A handle of another connection names no request of this one. -/
def removeOnRoute (handle : RouteHandle) (queued : PendingKey → Bool) : Relay :=
  if handle.connectionToken ≠ relay.connectionToken then relay
  else removePendingWhere relay (fun key _ => key.route == handle.toRouteKey) queued

/-- The same request is ignored, and one over the bound is refused. -/
def admitPending (cap : Nat) (key : PendingKey) (session : String) : Relay :=
  let sessionPending := relay.pending.values.countP fun entry => entry.sessionId == session
  if relay.pending.contains key ∨ cap ≤ sessionPending then relay
  else
    { relay with
      pending := relay.pending.insert key ⟨session, relay.admitted⟩
      admitted := relay.admitted + 1 }

/-- An answer that is no frame, or gets no slot, leaves its request where it is. -/
def settlePendingFrame (key : PendingKey) (body : Nat) (reserved : Bool) : Relay :=
  if buildReverseFrame body ∧ reserved then
    removePendingWhere relay (fun other _ => other == key) fun _ => true
  else
    let ended := admissionsWhere relay fun other _ => other == key
    { relay with finished := ended ++ relay.finished }

end

/-- What one step does. -/
def step (cap : Nat) (relay : Relay) : Step → Relay
  | .admitPending key session => admitPending relay cap key session
  | .settlePendingFrame key body reserved => settlePendingFrame relay key body reserved
  | .expirePending key => removePendingWhere relay (fun other _ => other == key) fun _ => false
  | .failSession session queued =>
    removePendingWhere relay (fun _ entry => entry.sessionId == session) (· ∈ queued)
  | .dropRoute handle => removeOnRoute relay handle fun _ => false
  | .cancelRoutePrompts handle queued => removeOnRoute relay handle (· ∈ queued)
  | .clearAll => removePendingWhere relay (fun _ _ => true) fun _ => false

/-- A connection with the given token, from its start. -/
def run (cap token : Nat) (steps : List Step) : Relay :=
  steps.foldl (step cap) { connectionToken := token }

/-- The listed admissions are past ones and not in the table. -/
def Gone (relay : Relay) (admissions : List Nat) : Prop :=
  (∀ admission ∈ admissions, admission < relay.admitted) ∧
    ∀ key entry, relay.pending.get key = some entry → entry.admission ∉ admissions

/-- The frame of every answer can be built, and the writer takes it. -/
def Sendable : Step → Prop
  | .settlePendingFrame _ body reserved => buildReverseFrame body ∧ reserved
  | _ => True

/-- The table holds each admission once, and an answered one no more. -/
structure Tidy (relay : Relay) : Prop where
  past : ∀ key entry, relay.pending.get key = some entry → entry.admission < relay.admitted
  injective : ∀ key other entry entry', relay.pending.get key = some entry →
    relay.pending.get other = some entry' → entry.admission = entry'.admission → key = other
  answered : Gone relay relay.answered
  once : relay.answered.Nodup

/-- What the admissions of a test are. -/
theorem mem_admissionsWhere : admission ∈ admissionsWhere relay predicate ↔
    ∃ key entry, relay.pending.get key = some entry ∧ predicate key entry = true ∧
      entry.admission = admission := by
  simp [admissionsWhere, mem_toList, and_assoc]

/-- Each of them is listed once. -/
theorem nodup_admissionsWhere (h : Tidy relay) : (admissionsWhere relay predicate).Nodup := by
  refine List.Nodup.map_on ?_ (List.Nodup.filter _ (List.Nodup.of_map _ relay.pending.nodup_keys))
  rintro ⟨key, entry⟩ hmem ⟨other, entry'⟩ hmem' hsame
  have hget := (mem_toList _ _ _).mp (List.mem_of_mem_filter hmem)
  have hget' := (mem_toList _ _ _).mp (List.mem_of_mem_filter hmem')
  cases h.injective key other entry entry' hget hget' hsame
  rw [hget] at hget'
  cases hget'
  rfl

/-- The requests that fail the test stay. -/
theorem get_removePendingWhere :
    (removePendingWhere relay predicate queued).pending.get key = some entry ↔
      relay.pending.get key = some entry ∧ predicate key entry = false := by
  simp [removePendingWhere, Option.filter_eq_some_iff]

/-- What leaves the table joins the admissions that are gone. -/
theorem Gone.removed (hgone : Gone relay admissions) (h : Tidy relay) :
    Gone (removePendingWhere relay predicate queued)
      (admissionsWhere relay predicate ++ admissions) := by
  refine ⟨fun admission hmem => ?_, fun key entry hget hmem => ?_⟩
  · rcases List.mem_append.mp hmem with hremoved | hbefore
    · obtain ⟨key, entry, hget, -, rfl⟩ := mem_admissionsWhere.mp hremoved
      exact h.past key entry hget
    · exact hgone.1 admission hbefore
  have ⟨hold, hkept⟩ := get_removePendingWhere.mp hget
  rcases List.mem_append.mp hmem with hremoved | hbefore
  · obtain ⟨other, entry', hget', hremoved, hsame⟩ := mem_admissionsWhere.mp hremoved
    cases h.injective key other entry entry' hold hget' hsame.symm
    rw [hold] at hget'
    cases hget'
    rw [hkept] at hremoved
    cases hremoved
  · exact hgone.2 key entry hold hbefore

/-- A request enters the table under the next number. -/
theorem admitPending_cases :
    admitPending relay cap key session = relay ∨
      relay.pending.get key = none ∧ admitPending relay cap key session =
        { relay with
          pending := relay.pending.insert key ⟨session, relay.admitted⟩
          admitted := relay.admitted + 1 } := by
  simp only [admitPending]
  split
  case isTrue => exact .inl rfl
  case isFalse hnew => exact .inr ⟨by simpa using (not_or.mp hnew).1, rfl⟩

/-- A new request gets a number that is not gone. -/
theorem Gone.admitted (hgone : Gone relay admissions) (cap : Nat) (key : PendingKey)
    (session : String) : Gone (admitPending relay cap key session) admissions := by
  rcases admitPending_cases with hsame | ⟨-, hnew⟩
  · rw [hsame]
    exact hgone
  rw [hnew]
  refine ⟨fun admission hmem => Nat.lt_succ_of_lt (hgone.1 admission hmem), ?_⟩
  exact forall_insert (fun hmem => Nat.lt_irrefl _ (hgone.1 _ hmem)) hgone.2

section

variable (h : Tidy relay)
include h

/-- Requests that leave the table are answered at most now. -/
theorem Tidy.removed : Tidy (removePendingWhere relay predicate queued) where
  past key entry hget := h.past key entry (get_removePendingWhere.mp hget).1
  injective key other entry entry' hget hget' :=
    h.injective key other entry entry' (get_removePendingWhere.mp hget).1
      (get_removePendingWhere.mp hget').1
  answered := by
    have hgone : Gone (removePendingWhere relay predicate queued)
        (admissionsWhere relay predicate ++ relay.answered) :=
      h.answered.removed h
    have hsubset : (removePendingWhere relay predicate queued).answered ⊆
        admissionsWhere relay predicate ++ relay.answered := by
      intro admission hmem
      rcases List.mem_append.mp hmem with hsent | hbefore
      · obtain ⟨key, entry, hget, hboth, rfl⟩ := mem_admissionsWhere.mp hsent
        have hremoved := (Bool.and_eq_true_iff.mp hboth).1
        exact List.mem_append_left _ (mem_admissionsWhere.mpr ⟨key, entry, hget, hremoved, rfl⟩)
      · exact List.mem_append_right _ hbefore
    exact ⟨fun admission hmem => hgone.1 admission (hsubset hmem),
      fun key entry hget hmem => hgone.2 key entry hget (hsubset hmem)⟩
  once := by
    refine List.nodup_append.mpr ⟨nodup_admissionsWhere h, h.once, ?_⟩
    rintro admission hremoved _ hbefore rfl
    obtain ⟨key, entry, hget, -, rfl⟩ := mem_admissionsWhere.mp hremoved
    exact h.answered.2 key entry hget hbefore

/-- A new request stands alone under its number. -/
theorem Tidy.admitted : Tidy (admitPending relay cap key session) := by
  have hanswered := h.answered.admitted cap key session
  rcases admitPending_cases with hsame | ⟨-, hnew⟩
  · rw [hsame]
    exact h
  rw [hnew] at hanswered ⊢
  refine ⟨forall_insert (Nat.lt_succ_self _) ?_, ?_, hanswered, h.once⟩
  · exact fun other entry hold => Nat.lt_succ_of_lt (h.past other entry hold)
  intro first second entry entry' hget hget' hadmission
  rcases of_get_insert hget with ⟨rfl, rfl⟩ | ⟨-, hold⟩
  · rcases of_get_insert hget' with ⟨rfl, -⟩ | ⟨-, hold'⟩
    · rfl
    · exact absurd hadmission.symm (Nat.ne_of_lt (h.past second entry' hold'))
  · rcases of_get_insert hget' with ⟨rfl, rfl⟩ | ⟨-, hold'⟩
    · exact absurd hadmission (Nat.ne_of_lt (h.past first entry hold))
    · exact h.injective first second entry entry' hold hold' hadmission

/-- Every step keeps the table tidy. -/
theorem Tidy.step (cap : Nat) (next : Step) : Tidy (step cap relay next) := by
  cases next with
  | admitPending key session => exact h.admitted
  | settlePendingFrame key body reserved =>
    simp only [ReverseRelay.step, settlePendingFrame]
    split
    · exact h.removed
    · exact { h with }
  | dropRoute handle | cancelRoutePrompts handle =>
    simp only [ReverseRelay.step, removeOnRoute]
    split
    case isTrue => exact h
    case isFalse => exact h.removed
  | _ => exact h.removed

/-- A handled ending that can be sent takes its requests out of the table. -/
theorem gone_step (hfinished : Gone relay relay.finished)
    (hsendable : Sendable next) : Gone (step cap relay next) (step cap relay next).finished := by
  cases next with
  | admitPending key session =>
    have hsame : (admitPending relay cap key session).finished = relay.finished := by
      rcases admitPending_cases with hsame | ⟨-, hnew⟩
      · rw [hsame]
      · rw [hnew]
    simp only [ReverseRelay.step, hsame]
    exact hfinished.admitted cap key session
  | settlePendingFrame key body reserved =>
    have hbuilt : buildReverseFrame body = true ∧ reserved = true := hsendable
    simp only [ReverseRelay.step, settlePendingFrame, if_pos hbuilt]
    exact hfinished.removed h
  | dropRoute handle | cancelRoutePrompts handle =>
    simp only [ReverseRelay.step, removeOnRoute]
    split
    case isTrue => exact hfinished
    case isFalse => exact hfinished.removed h
  | _ => exact hfinished.removed h

end

/-- In every run a request is sent at most one terminal frame; and when each
answer can be sent, no request in the table was finished. -/
theorem run_reverse_requests (cap token : Nat) (steps : List Step) :
    (run cap token steps).answered.Nodup ∧
      (Throughout (step cap) (fun _ => Sendable) { connectionToken := token } steps →
        ∀ key entry, (run cap token steps).pending.get key = some entry →
          entry.admission ∉ (run cap token steps).finished) := by
  have htidy : Tidy { connectionToken := token } := ⟨nofun, nofun, ⟨nofun, nofun⟩, List.nodup_nil⟩
  refine ⟨(List.foldlRecOn steps _ htidy fun _ h next _ => h.step cap next).once, ?_⟩
  intro hsendable
  have hrun := hsendable.induction (fun relay => Tidy relay ∧ Gone relay relay.finished)
    (fun _ next hnext h => ⟨h.1.step cap next, gone_step h.1 h.2 hnext⟩)
    ⟨htidy, nofun, nofun⟩
  exact hrun.2.2

/-- The request of a module. -/
def question : PendingKey := ⟨⟨7, 1⟩, 3⟩

/-- A request and an answer with a body of the given length. -/
def asked (body : Nat) : List Step :=
  [.admitPending question "host", .settlePendingFrame question body true]

/-- The longest answer that fits a frame. -/
theorem run_reverse_requests_largest : ∀ key entry,
    (run 1 9 (asked maxFrameBodyLen)).pending.get key = some entry →
      entry.admission ∉ (run 1 9 (asked maxFrameBodyLen)).finished :=
  (run_reverse_requests 1 9 _).2 ⟨trivial, ⟨by decide, rfl⟩, trivial⟩

/-- An answer one byte too long leaves its request in the table, and the session's
next request is refused. -/
theorem oversized_answer_stays_pending :
    let relay := run 1 9 (asked (maxFrameBodyLen + 1))
    relay.finished = [0] ∧ relay.pending.get question = some ⟨"host", 0⟩ ∧
      (admitPending relay 1 ⟨⟨7, 1⟩, 4⟩ "host").admitted = 1 := by
  decide

end Subconscious.ReverseRelay
