import Subconscious.ReverseRelay

/-!
# The gateway's pending requests and the handles its reader accepts

On its connection to the daemon the MCP gateway keeps the requests that wait for a
reply, and for each channel the epoch whose frames the reader accepts. Each table
has a lock of its own, and a step here is one locked section: requests are
registered and withdrawn, sessions drop routes, and the reader works through one
frame after another. When a provider closes a route, the reader drops the handle
first and settles the requests that wait on it afterwards. A registration does not
look at the live handles, and a session that drops a route not at the requests.
-/

namespace Subconscious.GatewayHandles

open HashMaps HashMap Protocol Runs ReverseRelay

/-- What the reader does in its next locked section. -/
inductive Reader where
  | reading
  | installing (handle : RouteKey)
  | dropping (handle : RouteKey)
  | settling (handle : RouteKey)
  | ended
  deriving DecidableEq, Repr

/-- The tables of one connection. A channel and an epoch name a handle of it, since
all have its token. -/
structure Connection where
  /-- The requests, with whether one asks to open a route. -/
  pending : HashMap PendingKey Bool := .empty
  liveEpochs : HashMap Nat Nat := .empty
  reader : Reader := .reading

/-- One locked section. -/
inductive Step where
  | registerAndSend (key : PendingKey) (opens : Bool)
  /-- A last frame or an overflow, a failed send, or a request that is given up. -/
  | removePending (key : PendingKey)
  /-- A session drops a route, or the reader one whose opener is gone. -/
  | dropEpoch (handle : RouteKey)
  /-- The response to a request for a route, with the handle in its body. -/
  | readOpened (key : PendingKey) (handle : RouteKey)
  | readGoodbye (handle : RouteKey)
  | readEnd
  /-- The reader's next locked section. -/
  | proceed
  deriving DecidableEq, Repr

section

variable (connection : Connection)

/-- The flag is set in the section in which the reader ends. -/
@[simp] def Connection.closed : Bool := connection.reader == .ended

/-- Whether the reader accepts frames on the handle. -/
def validateIngress (handle : RouteKey) : Bool :=
  connection.liveEpochs.get handle.channel == some handle.epoch

/-- A duplicate key fails the caller, and the request is replaced all the same. -/
def registerAndSend (key : PendingKey) (opens : Bool) : Connection :=
  if connection.closed then connection
  else { connection with pending := connection.pending.insert key opens }

/-- A request is answered or withdrawn. -/
def removePending (key : PendingKey) : Connection :=
  { connection with pending := connection.pending.remove key }

/-- A handle that is not live any more leaves the channel to its successor. -/
def dropEpoch (handle : RouteKey) : Connection :=
  { connection with
    liveEpochs :=
      if validateIngress connection handle then connection.liveEpochs.remove handle.channel
      else connection.liveEpochs }

/-- An invalid handle is refused, and the request is gone all the same. -/
def readOpened (key : PendingKey) (handle : RouteKey) : Connection :=
  if connection.reader = .reading ∧
      (key.route.channel = 0 ∨ validateIngress connection key.route) then
    { removePending connection key with
      reader :=
        if connection.pending.get key = some true ∧ handle.channel ≠ 0 ∧ handle.epoch ≠ 0 then
          .installing handle
        else .reading }
  else connection

/-- A GOODBYE on a live handle. -/
def readGoodbye (handle : RouteKey) : Connection :=
  if connection.reader = .reading ∧ handle.channel ≠ 0 ∧ validateIngress connection handle then
    { connection with reader := .dropping handle }
  else connection

/-- The requests are drained under the lock that a registration takes. -/
def readEnd : Connection :=
  if connection.reader = .reading then { connection with pending := .empty, reader := .ended }
  else connection

/-- The reader's next section, by what it is at. -/
def proceed : Connection :=
  match connection.reader with
  | .reading => connection
  | .installing handle =>
    { connection with
      liveEpochs := connection.liveEpochs.insert handle.channel handle.epoch, reader := .reading }
  | .dropping handle => { dropEpoch connection handle with reader := .settling handle }
  | .settling handle =>
    { connection with
      pending := connection.pending.retain fun key _ => key.route != handle, reader := .reading }
  | .ended => { connection with liveEpochs := .empty }

/-- What one step does. -/
def step : Step → Connection
  | .registerAndSend key opens => registerAndSend connection key opens
  | .removePending key => removePending connection key
  | .dropEpoch handle => dropEpoch connection handle
  | .readOpened key handle => readOpened connection key handle
  | .readGoodbye handle => readGoodbye connection handle
  | .readEnd => readEnd connection
  | .proceed => proceed connection

/-- Whether a request waits on the handle. -/
def Waits (handle : RouteKey) : Prop :=
  ∃ corr opens, connection.pending.get ⟨handle, corr⟩ = some opens

/-- No request waits on a closed connection, and the reader accepts the answers of
every request that waits on a route, or is about to settle it. -/
def Answerable : Prop :=
  ∀ handle, Waits connection handle → connection.closed = false ∧
    (handle.channel ≠ 0 →
      validateIngress connection handle = true ∨ connection.reader = .settling handle)

/-- A request on a route is registered only while its handle is live, and while one
waits, its handle ends only in a GOODBYE: not with its session, and not because the
channel gets another epoch. -/
def Orderly : Step → Prop
  | .registerAndSend key _ =>
    key.route.channel = 0 ∨ validateIngress connection key.route = true
  | .dropEpoch handle => ¬ Waits connection handle
  | .proceed => ∀ opened handle, connection.reader = .installing opened →
    Waits connection handle → handle.channel = opened.channel → handle = opened
  | _ => True

end

/-- A connection from its start. -/
def run (steps : List Step) : Connection := steps.foldl step {}

/-- A request that is left was there before. -/
theorem Waits.of_remove (h : Waits (removePending connection key) handle) :
    Waits connection handle := by
  obtain ⟨corr, opens, hget⟩ := h
  exact ⟨corr, opens, (of_get_remove hget).2⟩

/-- The reader accepts the epoch that is live on the channel. -/
theorem validateIngress_iff : validateIngress connection handle = true ↔
    connection.liveEpochs.get handle.channel = some handle.epoch := by
  simp [validateIngress]

/-- Dropping a handle ends that handle and no other. -/
theorem validateIngress_dropEpoch (hlive : validateIngress connection other = true)
    (hne : other ≠ handle) : validateIngress (dropEpoch connection handle) other = true := by
  rw [validateIngress_iff] at hlive ⊢
  unfold dropEpoch
  split
  case isTrue hdropped =>
    rw [validateIngress_iff] at hdropped
    have hchannel : other.channel ≠ handle.channel := by
      intro hsame
      rw [hsame, hdropped] at hlive
      cases other
      cases handle
      simp_all
    rw [get_remove, if_neg hchannel]
    exact hlive
  case isFalse => exact hlive

section

variable (h : Answerable connection)
include h

/-- A step adds no request, reopens nothing, and settles next what it ends. -/
theorem Answerable.keeps
    (hreader : (connection.closed = false → next.closed = false) ∧
      ∀ handle, connection.reader = .settling handle → next.reader = .settling handle)
    (hwaits : ∀ handle, Waits next handle → Waits connection handle)
    (hlive : ∀ handle, Waits connection handle → validateIngress connection handle = true →
      validateIngress next handle = true ∨ next.reader = .settling handle) :
    Answerable next := by
  intro handle hnext
  have hold := h handle (hwaits handle hnext)
  refine ⟨hreader.1 hold.1, fun hchannel => ?_⟩
  rcases hold.2 hchannel with hvalid | hsettling
  · exact hlive handle (hwaits handle hnext) hvalid
  · exact .inr (hreader.2 handle hsettling)

/-- A request on a live handle. -/
theorem Answerable.registerAndSend (horderly : Orderly connection (.registerAndSend key opens)) :
    Answerable (registerAndSend connection key opens) := by
  unfold GatewayHandles.registerAndSend
  split
  case isTrue => exact h
  case isFalse hopen =>
    rintro handle ⟨corr, opens, hget⟩
    rcases of_get_insert hget with ⟨rfl, -⟩ | ⟨-, hold⟩
    · exact ⟨eq_false_of_ne_true hopen, fun hchannel => .inl (horderly.resolve_left hchannel)⟩
    · exact h handle ⟨corr, opens, hold⟩

/-- Once the requests on a dropped handle are failed, none needs the settlement. -/
theorem Answerable.settling (hsettling : connection.reader = .settling settled) :
    Answerable { connection with
      pending := connection.pending.retain fun key _ => key.route != settled
      reader := .reading } := by
  rintro handle ⟨corr, opens, hget⟩
  have hkept : handle ≠ settled ∧ connection.pending.get ⟨handle, corr⟩ = some opens := by
    simpa [Option.filter_eq_some_iff, and_comm] using hget
  have hold := h handle ⟨corr, opens, hkept.2⟩
  refine ⟨rfl, fun hchannel => .inl ((hold.2 hchannel).resolve_right ?_)⟩
  rw [hsettling]
  exact fun hsame => hkept.1 (Reader.settling.inj hsame).symm

/-- A new epoch replaces another one only on a channel where no request waits. -/
theorem Answerable.proceed (horderly : Orderly connection .proceed) :
    Answerable (proceed connection) := by
  unfold GatewayHandles.proceed
  split
  case h_1 => exact h
  case h_2 opened hreader =>
    refine h.keeps (by simp [hreader]) (fun _ => id) fun handle hwaits hlive => .inl ?_
    rw [validateIngress_iff] at hlive ⊢
    rw [get_insert]
    split
    case isTrue hsame => rw [horderly opened handle hreader hwaits hsame]
    case isFalse => exact hlive
  case h_3 dropped hreader =>
    refine h.keeps (by simp [hreader]) (fun _ => id) fun handle _ hlive => ?_
    by_cases hsame : handle = dropped
    · exact .inr (hsame ▸ rfl)
    · exact .inl (validateIngress_dropEpoch hlive hsame)
  case h_4 hreader => exact h.settling hreader
  case h_5 hreader =>
    intro handle hwaits
    have hopen := (h handle hwaits).1
    simp [hreader] at hopen

/-- Every orderly step keeps the requests answerable. -/
theorem Answerable.step (next : Step) (horderly : Orderly connection next) :
    Answerable (step connection next) := by
  cases next with
  | registerAndSend key opens => exact h.registerAndSend horderly
  | removePending key =>
    exact h.keeps ⟨id, fun _ => id⟩ (fun _ => Waits.of_remove) fun _ _ => .inl
  | dropEpoch dropped =>
    refine h.keeps ⟨id, fun _ => id⟩ (fun _ => id) fun handle hwaits hlive => .inl ?_
    have hne : handle ≠ dropped := fun hdropped => horderly (hdropped ▸ hwaits)
    exact validateIngress_dropEpoch hlive hne
  | readOpened key handle =>
    simp only [GatewayHandles.step, readOpened]
    split
    case isTrue hreading =>
      refine h.keeps ?_ (fun _ => Waits.of_remove) fun _ _ => .inl
      split_ifs <;> simp [hreading.1]
    case isFalse => exact h
  | readGoodbye handle =>
    simp only [GatewayHandles.step, readGoodbye]
    split
    case isTrue hreading => exact h.keeps (by simp [hreading.1]) (fun _ => id) fun _ _ => .inl
    case isFalse => exact h
  | readEnd =>
    simp only [GatewayHandles.step, readEnd]
    split
    · rintro handle ⟨_, _, hget⟩
      cases hget
    · exact h
  | proceed => exact h.proceed horderly

end

/-- In every run of orderly steps, no request waits on a route whose answers the
reader would discard. -/
theorem run_pending_answerable (steps : List Step) (horderly : Throughout step Orderly {} steps) :
    Answerable (run steps) := by
  have hempty : Answerable {} := by
    rintro handle ⟨_, _, hget⟩
    cases hget
  exact horderly.induction Answerable (fun _ next hnext h => h.step next hnext) hempty

/-- A session opens the route on channel 7. -/
def opening : List Step :=
  [.registerAndSend ⟨⟨0, 0⟩, 1⟩ true, .readOpened ⟨⟨0, 0⟩, 1⟩ ⟨7, 1⟩, .proceed]

/-- The provider says GOODBYE to it. -/
def closing : List Step := [.readGoodbye ⟨7, 1⟩, .proceed, .proceed]

/-- A request that is registered before the GOODBYE of its route is settled. -/
theorem run_pending_answerable_goodbye :
    Answerable (run (opening ++ .registerAndSend ⟨⟨7, 1⟩, 44⟩ false :: closing)) := by
  apply run_pending_answerable
  refine ⟨.inl rfl, trivial, ?_, .inr rfl, trivial, nofun, nofun, trivial⟩
  rintro opened handle - ⟨_, _, hget⟩
  cases hget

/-- A request that is registered after the settlement waits on. -/
theorem registered_after_goodbye :
    ¬ Answerable (run (opening ++ closing ++ [.registerAndSend ⟨⟨7, 1⟩, 44⟩ false])) := by
  intro h
  have hanswer := (h ⟨7, 1⟩ ⟨44, false, by decide⟩).2 (by decide)
  revert hanswer
  decide

end Subconscious.GatewayHandles
