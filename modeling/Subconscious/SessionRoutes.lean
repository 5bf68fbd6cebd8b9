import Subconscious.HashMaps
import Subconscious.Protocol
import Subconscious.Runs

/-!
# The routes of an MCP session and their GOODBYEs

A reconcile copies the session's routes, asks the daemon for each route it lacks,
and then replaces the session as a whole. Its gate lets one reconcile run at a time.
A GOODBYE is handled outside the gate and takes its handle out of the session as it
stands. An attach opens its routes as a reconcile of the empty session does.
-/

namespace Subconscious.SessionRoutes

open HashMaps HashMap Protocol Runs

/-- Whether a tool's calls go to its module or are only acknowledged. -/
inductive ToolMode where
  | forward | ackOnly
  deriving DecidableEq, Repr

/-- A tool the policy wants the session to have. -/
structure DesiredTool where
  exposedName : String
  mode : ToolMode
  deriving DecidableEq, Repr

/-- A module with the tools it is wanted for. -/
structure DesiredProvider where
  moduleId : String
  tools : List DesiredTool
  deriving DecidableEq, Repr

/-- Where the calls of a tool go. -/
inductive ToolBinding where
  | forward (route : RouteHandle)
  | ackOnly
  deriving DecidableEq, Repr

/-- The route of each module. -/
abbrev Routes := HashMap String RouteHandle

/-- The binding of each tool. -/
abbrev Bindings := HashMap String ToolBinding

/-- What a reconcile replaces. -/
structure SessionInner where
  routes : Routes := .empty
  bindings : Bindings := .empty

/-- A reconcile under way, with the routes it copied and those it has so far. -/
structure Reconcile where
  remaining : List DesiredProvider
  existing : Routes
  providers : List DesiredProvider := []
  routes : Routes := .empty

/-- A session with the reconcile under its gate. -/
structure Session where
  inner : SessionInner := {}
  reconcile : Option Reconcile := none
  /-- The handles whose GOODBYE was processed. -/
  closed : List RouteHandle := []

/-- What happens to a session. -/
inductive Step where
  | start (desired : List DesiredProvider) (liveToken : Nat)
  /-- The next provider, with the daemon's answer where its route has to be opened. -/
  | provide (answer : Option RouteHandle)
  /-- An open fails otherwise than by a refusal. -/
  | fail
  | finish
  | goodbye (handle : RouteHandle)
  deriving DecidableEq, Repr

/-- Bind one tool over its module's route. -/
def bindTool (route : RouteHandle) (bindings : Bindings) (tool : DesiredTool) : Bindings :=
  bindings.insert tool.exposedName <| match tool.mode with
    | .forward => .forward route
    | .ackOnly => .ackOnly

/-- The session of the wanted providers, each with a route. -/
def sessionInnerFromDesired (routes : Routes) : List DesiredProvider → Bindings → Option SessionInner
  | [], bindings => some ⟨routes, bindings⟩
  | provider :: desired, bindings => do
    let route ← routes.get provider.moduleId
    sessionInnerFromDesired routes desired (provider.tools.foldl (bindTool route) bindings)

/-- Some module has the handle. -/
def Holds (routes : Routes) (handle : RouteHandle) : Prop :=
  ∃ moduleId, routes.get moduleId = some handle

/-- Every forward binding goes over one of the routes. -/
def Bound (bindings : Bindings) (routes : Routes) : Prop :=
  ∀ name route, bindings.get name = some (.forward route) → Holds routes route

section

variable (session : Session)

/-- Without a route of the handle nothing changes. -/
def removeRoute (inner : SessionInner) (handle : RouteHandle) : SessionInner :=
  if handle ∈ inner.routes.values then
    { routes := inner.routes.retain fun _ route => route != handle
      bindings := inner.bindings.retain fun _ binding => match binding with
        | .forward route => route != handle
        | .ackOnly => true }
  else inner

/-- Tools that were only acknowledged stay so, where no new binding has their name. -/
def replaceInner (inner next : SessionInner) : SessionInner :=
  { next with
    bindings := (inner.bindings.toList.filter fun entry =>
        entry.2 = .ackOnly && !next.bindings.contains entry.1).foldl
      (fun bindings entry => bindings.insert entry.1 entry.2) next.bindings }

/-- A route of an earlier connection is treated as absent. -/
def start (desired : List DesiredProvider) (liveToken : Nat) : Session :=
  match session.reconcile with
  | some _ => session
  | none =>
    { session with
      reconcile := some ⟨desired, session.inner.routes.retain fun _ handle =>
        handle.connectionToken = liveToken, [], .empty⟩ }

/-- A refused provider is left out. -/
def Reconcile.provide (reconcile : Reconcile) (answer : Option RouteHandle) : Reconcile :=
  match reconcile.remaining with
  | [] => reconcile
  | provider :: remaining =>
    match (reconcile.existing.get provider.moduleId).or answer with
    | some route =>
      { reconcile with
        remaining
        providers := reconcile.providers ++ [provider]
        routes := reconcile.routes.insert provider.moduleId route }
    | none => { reconcile with remaining }

/-- A reconcile that is through replaces the session. -/
def finish : Session :=
  match session.reconcile with
  | some ⟨[], _, providers, routes⟩ =>
    match sessionInnerFromDesired routes providers .empty with
    | some next => { session with inner := replaceInner session.inner next, reconcile := none }
    | none => { session with reconcile := none }
  | _ => session

/-- What one step does. -/
def step : Step → Session
  | .start desired liveToken => start session desired liveToken
  | .provide answer => { session with reconcile := session.reconcile.map (·.provide answer) }
  | .fail => { session with reconcile := none }
  | .finish => finish session
  | .goodbye handle =>
    { session with
      inner := removeRoute session.inner handle, closed := handle :: session.closed }

/-- No GOODBYE is processed for a handle that a reconcile holds, and no reconcile
records an opened handle whose GOODBYE was already processed. -/
def Orderly : Step → Prop
  | .goodbye handle => ∀ reconcile ∈ session.reconcile,
    ¬ Holds reconcile.existing handle ∧ ¬ Holds reconcile.routes handle
  | .provide answer => ∀ handle ∈ answer, handle ∉ session.closed
  | _ => True

/-- No closed handle is left anywhere. -/
structure Clean : Prop where
  bound : Bound session.inner.bindings session.inner.routes
  routes : ∀ handle ∈ session.closed, ¬ Holds session.inner.routes handle
  reconcile : ∀ reconcile ∈ session.reconcile, ∀ handle ∈ session.closed,
    ¬ Holds reconcile.existing handle ∧ ¬ Holds reconcile.routes handle

end

/-- A session from its start. -/
def run (steps : List Step) : Session := steps.foldl step {}

variable {inner : SessionInner}

/-- Tools are bound over a route of the session. -/
theorem Bound.bindTools (h : Bound bindings routes) (hroute : Holds routes route)
    {tools : List DesiredTool} : Bound (tools.foldl (bindTool route) bindings) routes := by
  induction tools generalizing bindings with
  | nil => exact h
  | cons tool tools ih =>
    refine ih ?_
    intro name found hget
    rcases of_get_insert hget with ⟨-, hnew⟩ | ⟨-, hold⟩
    · cases hmode : tool.mode with
      | forward =>
        rw [hmode] at hnew
        cases hnew
        exact hroute
      | ackOnly =>
        rw [hmode] at hnew
        cases hnew
    · exact h name found hold

/-- The wanted session has the given routes and binds over them. -/
theorem Bound.fromDesired (h : Bound bindings routes)
    (hsome : sessionInnerFromDesired routes desired bindings = some inner) :
    inner.routes = routes ∧ Bound inner.bindings routes := by
  induction desired generalizing bindings with
  | nil =>
    cases hsome
    exact ⟨rfl, h⟩
  | cons provider desired ih =>
    obtain ⟨route, hget, hrest⟩ := Option.bind_eq_some_iff.mp hsome
    exact ih (h.bindTools ⟨_, hget⟩) hrest

/-- The bindings that are carried over go over no route. -/
theorem Bound.replaceInner (h : Bound next.bindings routes) :
    Bound (replaceInner inner next).bindings routes := by
  refine List.foldlRecOn (motive := (Bound · routes)) _ _ h fun bindings hbound entry hmem => ?_
  have hack := (List.mem_filter.mp hmem).2
  intro name route hget
  rcases of_get_insert hget with ⟨-, hnew⟩ | ⟨-, hold⟩
  · simp [hnew] at hack
  · exact hbound name route hold

/-- A GOODBYE takes its handle out, and the bindings with it. -/
theorem removeRoute_spec (h : Bound inner.bindings inner.routes) :
    Bound (removeRoute inner handle).bindings (removeRoute inner handle).routes ∧
      ∀ other, Holds (removeRoute inner handle).routes other →
        other ≠ handle ∧ Holds inner.routes other := by
  unfold removeRoute
  split
  case isTrue =>
    refine ⟨fun name route hget => ?_, ?_⟩
    · rw [get_retain, Option.filter_eq_some_iff] at hget
      obtain ⟨owner, howner⟩ := h name route hget.1
      exact ⟨owner, by rw [get_retain, howner, Option.filter_some, if_pos hget.2]⟩
    · rintro other ⟨moduleId, hget⟩
      rw [get_retain, Option.filter_eq_some_iff] at hget
      exact ⟨bne_iff_ne.mp hget.2, moduleId, hget.1⟩
  case isFalse habsent =>
    refine ⟨h, fun other hholds => ⟨?_, hholds⟩⟩
    rintro rfl
    exact habsent ((mem_values _).mpr hholds)

/-- Every orderly step keeps closed handles out. -/
theorem Clean.step (h : Clean session) (next : Step) (horderly : Orderly session next) :
    Clean (step session next) := by
  cases next with
  | start desired liveToken =>
    simp only [SessionRoutes.step, start]
    split
    · exact h
    refine ⟨h.bound, h.routes, ?_⟩
    rintro reconcile ⟨⟩ handle hclosed
    refine ⟨?_, nofun⟩
    rintro ⟨moduleId, hget⟩
    rw [get_retain, Option.filter_eq_some_iff] at hget
    exact h.routes handle hclosed ⟨moduleId, hget.1⟩
  | provide answer =>
    refine ⟨h.bound, h.routes, fun reconcile hmem handle hclosed => ?_⟩
    obtain ⟨before, hbefore, rfl⟩ := Option.map_eq_some_iff.mp hmem
    have hold := h.reconcile before hbefore handle hclosed
    unfold Reconcile.provide
    split
    · exact hold
    split
    case h_1 route hroute =>
      refine ⟨hold.1, ?_⟩
      rintro ⟨moduleId, hget⟩
      rcases of_get_insert hget with ⟨-, rfl⟩ | ⟨-, hkept⟩
      · rcases Option.or_eq_some_iff.mp hroute with hcopied | ⟨-, hopened⟩
        · exact hold.1 ⟨_, hcopied⟩
        · exact horderly _ hopened hclosed
      · exact hold.2 ⟨_, hkept⟩
    case h_2 => exact hold
  | fail => exact ⟨h.bound, h.routes, nofun⟩
  | finish =>
    simp only [SessionRoutes.step, finish]
    split
    case h_2 => exact h
    rename_i routes hreconcile
    split
    case h_2 => exact ⟨h.bound, h.routes, nofun⟩
    rename_i hnext
    have hempty : Bound .empty routes := nofun
    obtain ⟨rfl, hbound⟩ := hempty.fromDesired hnext
    refine ⟨hbound.replaceInner, fun handle hclosed => ?_, nofun⟩
    exact (h.reconcile _ hreconcile handle hclosed).2
  | goodbye handle =>
    obtain ⟨hbound, hroutes⟩ := removeRoute_spec h.bound
    refine ⟨hbound, fun other hclosed hmem => ?_, fun reconcile hreconcile other hclosed => ?_⟩
    · rcases List.mem_cons.mp hclosed with rfl | hold
      · exact (hroutes _ hmem).1 rfl
      · exact h.routes other hold (hroutes other hmem).2
    · rcases List.mem_cons.mp hclosed with rfl | hold
      · exact horderly reconcile hreconcile
      · exact h.reconcile reconcile hreconcile other hold

/-- In every run of orderly steps, a handle whose GOODBYE was processed is neither a
route of the session nor the target of a forward binding. -/
theorem run_closed_stay_out (steps : List Step) (horderly : Throughout step Orderly {} steps) :
    ∀ handle ∈ (run steps).closed, ¬ Holds (run steps).inner.routes handle ∧
      ∀ name, (run steps).inner.bindings.get name ≠ some (.forward handle) := by
  have hclean : Clean (run steps) :=
    horderly.induction Clean (fun _ next hnext h => h.step next hnext) ⟨nofun, nofun, nofun⟩
  intro handle hclosed
  have hout := hclean.routes handle hclosed
  exact ⟨hout, fun name hget => hout (hclean.bound name handle hget)⟩

/-- One module with one tool. -/
def desired : List DesiredProvider := [⟨"memory", [⟨"memory_note", .forward⟩]⟩]

/-- The module's route is opened. -/
def opening : List Step := [.start desired 1, .provide (some ⟨⟨7, 1⟩, 1⟩), .finish]

/-- A GOODBYE between two reconciles is followed by a new handle. -/
theorem run_closed_stay_out_reopened : ¬ Holds (run (opening ++ [.goodbye ⟨⟨7, 1⟩, 1⟩,
    .start desired 1, .provide (some ⟨⟨7, 2⟩, 1⟩), .finish])).inner.routes ⟨⟨7, 1⟩, 1⟩ := by
  refine (run_closed_stay_out _ ?_ ⟨⟨7, 1⟩, 1⟩ (by decide)).1
  refine ⟨trivial, nofun, trivial, nofun, trivial, ?_, trivial, trivial⟩
  rintro handle ⟨⟩
  decide

/-- A reconcile that copied the route before its GOODBYE puts it back. -/
theorem copied_before_goodbye :
    ∃ session, session = run (opening ++ [.start desired 1, .goodbye ⟨⟨7, 1⟩, 1⟩, .provide none,
      .finish]) ∧ ⟨⟨7, 1⟩, 1⟩ ∈ session.closed ∧ Holds session.inner.routes ⟨⟨7, 1⟩, 1⟩ :=
  ⟨_, rfl, by decide, "memory", by decide⟩

end Subconscious.SessionRoutes
