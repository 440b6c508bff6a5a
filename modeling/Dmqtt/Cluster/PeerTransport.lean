/-
The transport between the nodes of a cluster (`internal/cluster/peer_transport.go`).

A node writes frames to its peers and keeps a waiter for each acknowledgement that it expects,
under the ID of the message or under a hash of the device.  A waiter is told through a channel
that the acknowledgement arrived; channels are numbered in the order in which they are made.
A peer acknowledges a frame when it has read it, before it runs its callback.

The JSON in the frames is left out, and so are the connections themselves: a peer has a stream or
not, and a write fails or not.
-/
import Dmqtt.Broker.Migration
import Dmqtt.Lib.Retransmit

namespace Dmqtt.Cluster

open Lib Codec Broker CircuitBreaker

/-- A published message on its way to another node. -/
structure ForwardMessage where
  id : UInt64
  topic : Str
  payload : Bytes
  qos : UInt8
  retain : Bool
  forwarded : Bool
deriving DecidableEq

/-- The frames on forwarding and on migration. -/
inductive Frame
  | forward (msg : ForwardMessage)
  | forwardAck (id : UInt64)
  | migrateData (msg : MigrateDataMessage)
  | migrateAck (deviceID : Str) (success : Bool)

/-- The key under which the acknowledgement for a device is expected, its FNV-1a hash. -/
def migrationAckKey (deviceID : Str) : UInt64 :=
  (str "migrate:" ++ deviceID).foldl (fun h b => (h ^^^ b.toUInt64) * 1099511628211)
    14695981039346656037

/-- The acknowledgement that `handleConn` writes for a frame, before it runs the callback. -/
def Frame.ack : Frame → Option Frame
  | .forward msg => if msg.qos > 0 then some (.forwardAck msg.id) else none
  | .migrateData msg => some (.migrateAck msg.deviceID true)
  | .forwardAck _ => none
  | .migrateAck _ _ => none

/-- The key that an acknowledgement is expected under. -/
def Frame.ackKey : Frame → Option UInt64
  | .forwardAck id => some id
  | .migrateAck deviceID _ => some (migrationAckKey deviceID)
  | .forward _ => none
  | .migrateData _ => none

/-- The errors of the methods that send.  Those of the stream are passed on. -/
inductive SendError
  | notFound (nodeID : Str)
  | circuitOpen
  | notConnected (nodeID : Str)
  | write (err : Str)
  | failed (nodeID : Str) (attempts : ℕ) (err : SendError)
  | ackTimeout (id : UInt64) (nodeID : Str) (attempts : ℤ)
  | writeMigrate (err : Str)
  | migrateTimeout (deviceID nodeID : Str)
  | shuttingDown
deriving DecidableEq

/-- The text of an error. -/
def SendError.text : SendError → Str
  | .notFound nodeID => str "peer " ++ nodeID ++ str " not found"
  | .circuitOpen => str "circuit breaker is open"
  | .notConnected nodeID => str "peer " ++ nodeID ++ str " not connected"
  | .write err => err
  | .failed nodeID attempts err =>
    str "send to " ++ nodeID ++ str " failed after " ++ str (toString attempts) ++
      str " attempts: " ++ err.text
  | .ackTimeout id nodeID attempts =>
    str "ACK timeout for msg " ++ str (toString id.toNat) ++ str " to " ++ nodeID ++
      str " after " ++ str (toString attempts) ++ str " attempts"
  | .writeMigrate err => str "write migrate message: " ++ err
  | .migrateTimeout deviceID nodeID =>
    str "migrate ACK timeout for device " ++ deviceID ++ str " to " ++ nodeID
  | .shuttingDown => str "transport shutting down"

/-- A peer: whether there is a stream to it, and its circuit breaker. -/
structure PeerConn where
  stream : Bool
  breaker : Option Breaker

/-- Someone who waits for an acknowledgement, on a channel. -/
structure AckWaiter where
  ch : ℕ
  createdAt : ℤ

/-- The transport of a node, with the channels that were made and those that were closed. -/
structure PeerTransport where
  peers : GoMap Str PeerConn
  ackWaiters : GoMap UInt64 AckWaiter
  chans : ℕ
  closed : List ℕ
  msgID : UInt64
  cbConfig : Option CircuitBreaker.Config

namespace PeerTransport

variable (pt : PeerTransport)

/-- A transport that knows no peers yet. -/
def new : PeerTransport := ⟨∅, ∅, 0, [], 0, none⟩

/-- Make a channel and wait on it. -/
def register (key : UInt64) (now : ℤ) : ℕ × PeerTransport :=
  (pt.chans,
    { pt with ackWaiters := pt.ackWaiters.insert key ⟨pt.chans, now⟩, chans := pt.chans + 1 })

/-- Stop waiting. -/
def unregister (key : UInt64) : PeerTransport :=
  { pt with ackWaiters := pt.ackWaiters.erase key }

/-- An acknowledgement closes the channel of whoever waits under its key. -/
def acknowledge (key : UInt64) : PeerTransport :=
  match pt.ackWaiters.lookup key with
  | none => pt
  | some w => { pt with ackWaiters := pt.ackWaiters.erase key, closed := w.ch :: pt.closed }

/-- What `handleConn` does with an acknowledgement. -/
def handleAck (frame : Frame) : PeerTransport :=
  match frame.ackKey with
  | none => pt
  | some key => pt.acknowledge key

/-- Waiters that are older than two minutes are told so, and forgotten. -/
def cleanupStaleAckWaiters (now : ℤ) : PeerTransport :=
  pt.ackWaiters.entries.foldl
    (fun pt w => if now - w.2.createdAt > 120 * second then pt.acknowledge w.1 else pt) pt

/-- Get to know a peer; the connection comes up later. -/
def addPeer (nodeID : Str) : PeerTransport :=
  match pt.peers.lookup nodeID with
  | some _ => pt
  | none =>
    { pt with peers := pt.peers.insert nodeID ⟨false, pt.cbConfig.map Breaker.new⟩ }

/-- Change a peer. -/
def modifyPeer (nodeID : Str) (f : PeerConn → PeerConn) : PeerTransport :=
  match pt.peers.lookup nodeID with
  | none => pt
  | some pc => { pt with peers := pt.peers.insert nodeID (f pc) }

/-- A connection to a peer comes up or goes down. -/
def setStream (nodeID : Str) (up : Bool) : PeerTransport :=
  pt.modifyPeer nodeID fun pc => { pc with stream := up }

/-- `AllowOrError` of the breaker of a peer; without one everything is allowed. -/
def allowOrError (nodeID : Str) (now : ℤ) : Option SendError × PeerTransport :=
  match (pt.peers.lookup nodeID).bind PeerConn.breaker with
  | none => (none, pt)
  | some cb =>
    (if (cb.allow now).1 then none else some .circuitOpen,
      pt.modifyPeer nodeID fun pc => { pc with breaker := some (cb.allow now).2 })

/-- Record the outcome of a write with the breaker of a peer. -/
def record (nodeID : Str) (success : Bool) (now : ℤ) : PeerTransport :=
  pt.modifyPeer nodeID fun pc =>
    { pc with breaker := pc.breaker.map fun cb =>
        if success then cb.recordSuccess else cb.recordFailure now }

/-- Send a message to a peer without waiting; `writeErr` is the error of the stream, if any.  If
no error is returned, then the frame was written. -/
def send (nodeID : Str) (writeErr : Option Str) (now : ℤ) : Option SendError × PeerTransport :=
  match pt.peers.lookup nodeID with
  | none => (some (.notFound nodeID), pt)
  | some pc =>
    match pt.allowOrError nodeID now with
    | (some err, pt) => (some err, pt)
    | (none, pt) =>
      if !pc.stream then (some (.notConnected nodeID), pt.record nodeID false now)
      else
        match writeErr with
        | some err => (some (.write err), pt.record nodeID false now)
        | none => (none, pt.record nodeID true now)

/-- The next message ID. -/
def nextID : UInt64 × PeerTransport := (pt.msgID + 1, { pt with msgID := pt.msgID + 1 })

end PeerTransport

end Dmqtt.Cluster
