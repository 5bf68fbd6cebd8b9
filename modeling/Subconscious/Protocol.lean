import Mathlib.Data.Nat.Digits.Defs

/-!
# Wire vocabulary shared by the daemon's tables

These are the values the control plane and the forwarding table exchange:
principals, close reasons, error bodies and frames. Channels, epochs and
correlation ids keep their wire width. A frame body is its text, and the
only way to build a frame is through the size check that a reader applies
as well.
-/

namespace Subconscious.Protocol

/-- Identity of one socket, from a counter that never reissues a value. -/
abbrev ConnectionId := Nat

/-- The channel and the epoch that name a route on its connection. -/
structure RouteKey where
  channel : Nat
  epoch : Nat
  deriving DecidableEq, Repr

/-- A route of the gateway, with the token of the connection it was opened on. -/
structure RouteHandle extends RouteKey where
  connectionToken : Nat
  deriving DecidableEq, Repr

/-- Caller fact stamped by the daemon on each route.bind. -/
inductive Principal where
  /-- A daemon-spawned module proved possession of its launch nonce. -/
  | reserved (moduleId : String)
  /-- No consumer identity was presented. -/
  | direct
  /-- Vocabulary for a mode without key authentication. -/
  | unverified
  deriving DecidableEq, Repr

/-- Why the daemon closes a module's client routes. -/
inductive RouteCloseReason where
  | reload
  | restart
  | disable
  | crash
  | capabilityDenied
  | scopeEnded
  | scopeCarrierRemoved
  | scopeDelegationChanged
  | scopeParentEnded
  deriving DecidableEq, Repr

/-- The body of an ERROR frame. `detail` is the JSON text of its object. -/
structure ErrorBody where
  code : String
  message : String
  detail : Option String
  deriving DecidableEq, Repr

/-- An error body without detail. -/
def ErrorBody.new (code message : String) : ErrorBody := ⟨code, message, none⟩

/-- Delivery semantics a module declares for one channel. -/
inductive Concurrency where
  | serial
  | moduleManaged
  | statelessParallel
  deriving DecidableEq, Repr

/-- The frame types of the envelope. -/
inductive FrameType where
  | request
  | response
  | push
  | streamData
  | streamEnd
  | error
  | cancel
  | ping
  | pong
  | hello
  | helloAck
  | goodbye
  deriving DecidableEq, Repr

/-- Scheduling priority carried in the flags byte. -/
inductive Priority where
  | passive
  | interactive
  | background
  deriving DecidableEq, Repr

/-- The priority's two-bit code. -/
def Priority.bits : Priority → UInt8
  | .passive => 0
  | .interactive => 1
  | .background => 2

/-- The flags byte of an envelope. -/
structure Flags where
  bits : UInt8
  deriving DecidableEq, Repr

/-- Binary is bit 0, the priority bits 1 and 2, last is bit 3. -/
def Flags.new (binary : Bool) (priority : Priority) (last : Bool) : Flags :=
  ⟨(if binary then (1 : UInt8) else 0) ||| (priority.bits <<< 1) ||| (if last then 8 else 0)⟩

/-- Bit 6: the daemon wrote the frame itself. -/
def flagDaemonOrigin : UInt8 := 0x40

/-- Bit 7: the client declares the request a held-open subscription. -/
def flagSubscription : UInt8 := 0x80

/-- Whether the request is a subscription. -/
def Flags.isSubscription (flags : Flags) : Bool := flags.bits &&& flagSubscription != 0

/-- Whether the daemon wrote the frame. -/
def Flags.isDaemonOrigin (flags : Flags) : Bool := flags.bits &&& flagDaemonOrigin != 0

/-- Mark a frame as the daemon's own. -/
def Flags.withDaemonOrigin (flags : Flags) : Flags := ⟨flags.bits ||| flagDaemonOrigin⟩

/-- Take the mark off a frame that somebody else wrote. -/
def Flags.withoutDaemonOrigin (flags : Flags) : Flags := ⟨flags.bits &&& ~~~flagDaemonOrigin⟩

/-- The envelope header; `len` is the byte length of the body. -/
structure EnvelopeHeader where
  len : Nat
  ver : UInt8
  ty : FrameType
  flags : Flags
  channel : UInt16
  epoch : UInt32
  corr : UInt64
  deriving DecidableEq, Repr

/-- A complete wire frame with a textual body. -/
structure Frame where
  header : EnvelopeHeader
  body : String
  deriving DecidableEq, Repr

/-- Largest body a frame may carry: 64 MiB. -/
def maxFrameBodyLen : Nat := 64 * 1024 * 1024

/-- The text of the error a too large body gives. -/
def bodyExceedsMax (bodyLen : Nat) : String :=
  s!"frame body {bodyLen} bytes exceeds max {maxFrameBodyLen} bytes"

/-- Build a frame for a negotiated version, with the length taken from the body. -/
def Frame.buildWithVersion (ver : UInt8) (ty : FrameType) (flags : Flags) (channel : UInt16)
    (epoch : UInt32) (corr : UInt64) (body : String) : Except String Frame :=
  if body.utf8ByteSize > maxFrameBodyLen then
    .error (bodyExceedsMax body.utf8ByteSize)
  else
    .ok ⟨⟨body.utf8ByteSize, ver, ty, flags, channel, epoch, corr⟩, body⟩

/-- One optional numeric member of a JSON object, left out when absent. -/
def optionalMember (name : String) : Option Nat → String
  | none => ""
  | some n => s!",\"{name}\":{n}"

/-- The JSON body of a successful route.open response. -/
def routeOpenBody (routeChannel : UInt16) (routeEpoch : UInt32)
    (requestWindow watchWindow : Option Nat) : String :=
  "\x7b\"op\":\"route.open\",\"route_channel\":" ++ toString routeChannel.toNat
    ++ ",\"route_epoch\":" ++ toString routeEpoch.toNat
    ++ optionalMember "request_window" requestWindow
    ++ optionalMember "watch_window" watchWindow ++ "\x7d"

/-- A character takes at most four bytes. -/
theorem utf8ByteSize_ofList_le (chars : List Char) :
    (String.ofList chars).utf8ByteSize ≤ 4 * chars.length := by
  induction chars with
  | nil => simp
  | cons c =>
    have hc := c.utf8Size_le_four
    rw [String.ofList_cons, String.utf8ByteSize_append, String.utf8ByteSize_singleton,
      List.length_cons]
    omega

/-- A number below a power of ten prints in that many characters. -/
theorem utf8ByteSize_toString_le (hdigits : 0 < digits) (h : n < 10 ^ digits) :
    (toString n).utf8ByteSize ≤ 4 * digits := by
  have hsize := utf8ByteSize_ofList_le (Nat.toDigits 10 n)
  have hlength := (Nat.length_toDigits_le_iff (by norm_num) hdigits).mpr h
  have hrepr : toString n = String.ofList (Nat.toDigits 10 n) := Nat.repr_eq_ofList_toDigits
  rw [hrepr]
  omega

/-- An optional member takes its name, its number and four more characters. -/
theorem utf8ByteSize_optionalMember_le (name : String) (hdigits : 0 < digits)
    (h : ∀ n, value = some n → n < 10 ^ digits) :
    (optionalMember name value).utf8ByteSize ≤ name.utf8ByteSize + 4 * digits + 4 := by
  cases value with
  | none => simp [optionalMember]
  | some n =>
    have hn := utf8ByteSize_toString_le hdigits (h n rfl)
    have hopen : (",\"" : String).utf8ByteSize = 2 := by decide +kernel
    have hclose : ("\":" : String).utf8ByteSize = 2 := by decide +kernel
    have hsplit : optionalMember name (some n) = ",\"" ++ name ++ "\":" ++ toString n := by
      simp [optionalMember, toString]
    rw [hsplit, String.utf8ByteSize_append, String.utf8ByteSize_append, String.utf8ByteSize_append]
    omega

/-- The body of a route.open response always fits into a frame. -/
theorem routeOpenBody_fits (routeChannel : UInt16) (routeEpoch : UInt32)
    {requestWindow watchWindow : Option Nat} (hrequest : ∀ n, requestWindow = some n → n < 10 ^ 20)
    (hwatch : ∀ n, watchWindow = some n → n < 10 ^ 20) :
    (routeOpenBody routeChannel routeEpoch requestWindow watchWindow).utf8ByteSize ≤
      maxFrameBodyLen := by
  have hchannel : (toString routeChannel.toNat).utf8ByteSize ≤ 4 * 20 :=
    utf8ByteSize_toString_le (by norm_num) (by have := routeChannel.toNat_lt; omega)
  have hepoch : (toString routeEpoch.toNat).utf8ByteSize ≤ 4 * 20 :=
    utf8ByteSize_toString_le (by norm_num) (by have := routeEpoch.toNat_lt; omega)
  have h1 := utf8ByteSize_optionalMember_le "request_window" (by norm_num) hrequest
  have h2 := utf8ByteSize_optionalMember_le "watch_window" (by norm_num) hwatch
  have hname1 : ("request_window" : String).utf8ByteSize = 14 := by decide +kernel
  have hname2 : ("watch_window" : String).utf8ByteSize = 12 := by decide +kernel
  have hopen : ("\x7b\"op\":\"route.open\",\"route_channel\":" : String).utf8ByteSize = 35 := by
    decide +kernel
  have hmid : (",\"route_epoch\":" : String).utf8ByteSize = 15 := by decide +kernel
  have hclose : ("\x7d" : String).utf8ByteSize = 1 := by decide +kernel
  have hsum : ∀ a b c d : Nat, a ≤ 4 * 20 → b ≤ 4 * 20 → c ≤ 14 + 4 * 20 + 4 →
      d ≤ 12 + 4 * 20 + 4 → 35 + a + 15 + b + c + d + 1 ≤ maxFrameBodyLen := by
    intro a b c d ha hb hc hd
    unfold maxFrameBodyLen
    omega
  rw [hname1] at h1
  rw [hname2] at h2
  unfold routeOpenBody
  rw [String.utf8ByteSize_append, String.utf8ByteSize_append, String.utf8ByteSize_append,
    String.utf8ByteSize_append, String.utf8ByteSize_append, String.utf8ByteSize_append, hopen,
    hmid, hclose]
  exact hsum _ _ _ _ hchannel hepoch h1 h2

/-- A body that fits is framed. -/
theorem Frame.buildWithVersion_ok {body : String} (h : body.utf8ByteSize ≤ maxFrameBodyLen) :
    Frame.buildWithVersion ver ty flags channel epoch corr body =
      .ok ⟨⟨body.utf8ByteSize, ver, ty, flags, channel, epoch, corr⟩, body⟩ := by
  unfold Frame.buildWithVersion
  rw [if_neg (by omega)]

end Subconscious.Protocol
