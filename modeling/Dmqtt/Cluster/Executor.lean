/-
Migrations of devices from one node to another (`migration.go`, `migration_executor.go`,
`migration_api.go`, and the parts of `connections.go`, `peer_transport.go` and `cluster.go` that
they use).

`Execute` works off a list of devices.  For each it takes the data off the source's broker and
sends them with `SendMigrate`, up to `MaxRetries + 1` times, and it deletes them when a call of
`SendMigrate` succeeds.  It is modelled as a machine whose steps interleave with those of the
network and of the target.  A step either calls the broker or the index, or waits for the
network.
-/
import Dmqtt.Cluster.PeerTransport

namespace Dmqtt.Cluster

open Lib Codec Broker

/-! ### Migrations -/

/-- The phases of a migration. -/
inductive MigrationPhase
  | prepare
  | handshake
  | migrate
  | redirect
  | cleanup
deriving DecidableEq

/-- The next phase; the last one stays. -/
def MigrationPhase.next : MigrationPhase → MigrationPhase
  | .prepare => .handshake
  | .handshake => .migrate
  | .migrate => .redirect
  | .redirect => .cleanup
  | .cleanup => .cleanup

/-- The status of a migration. -/
inductive MigrationStatus
  | pending
  | running
  | completed
  | failed
  | cancelled
deriving DecidableEq

/-- How far a migration has got. -/
structure MigrationProgress where
  total : ℕ
  migrated : ℕ
  failed : ℕ
deriving DecidableEq

/-- The settings of a migration. -/
structure MigrationConfig where
  batchSize : ℤ
  maxRetries : ℤ

/-- A migration. -/
structure ShardMigration where
  id : Str
  fromNode : Str
  toNode : Str
  affectedDevices : List Str
  phase : MigrationPhase
  progress : MigrationProgress
  config : MigrationConfig
  status : MigrationStatus
  error : Str

namespace ShardMigration

variable (m : ShardMigration)

/-- A migration that has not begun. -/
def new (id fromNode toNode : Str) (devices : List Str) (cfg : MigrationConfig) :
    ShardMigration where
  id := id
  fromNode := fromNode
  toNode := toNode
  affectedDevices := devices
  phase := .prepare
  progress := ⟨devices.length, 0, 0⟩
  config := cfg
  status := .pending
  error := []

/-- Go on to the next phase. -/
def advancePhase : ShardMigration :=
  { m with
    status := if m.status = .pending then .running else m.status
    phase := m.phase.next }

/-- The migration is complete. -/
def markCompleted : ShardMigration := { m with status := .completed }

/-- The migration has failed. -/
def markFailed (reason : Str) : ShardMigration := { m with status := .failed, error := reason }

/-- The migration is cancelled. -/
def cancel : ShardMigration := { m with status := .cancelled }

/-- The migration is over. -/
def isTerminal : Bool :=
  m.status = .completed || m.status = .failed || m.status = .cancelled

/-- Count migrated devices. -/
def recordMigrated (n : ℕ) : ShardMigration :=
  { m with progress := { m.progress with migrated := m.progress.migrated + n } }

/-- Count devices that failed to migrate. -/
def recordFailed (n : ℕ) : ShardMigration :=
  { m with progress := { m.progress with failed := m.progress.failed + n } }

/-- The size of the batches. -/
def batchSize : ℕ := if m.config.batchSize ≤ 0 then 1000 else m.config.batchSize.toNat

end ShardMigration

/-- Which devices are connected to which nodes, and which are migrating. -/
structure ConnectionIndex where
  devices : GoMap Str Str
  byNode : GoMap Str (GoMap Str Unit)
  migrating : GoMap Str Bool

namespace ConnectionIndex

variable (idx : ConnectionIndex)

/-- No devices. -/
def new : ConnectionIndex := ⟨∅, ∅, ∅⟩

/-- Remove a device. -/
def remove (deviceID : Str) : ConnectionIndex :=
  match idx.devices.lookup deviceID with
  | none => idx
  | some nodeID =>
    { idx with
      devices := idx.devices.erase deviceID
      byNode := match idx.byNode.lookup nodeID with
        | none => idx.byNode
        | some devs =>
          if (devs.erase deviceID).entries.isEmpty then idx.byNode.erase nodeID
          else idx.byNode.insert nodeID (devs.erase deviceID) }

/-- Mark a device as migrating, or clear the mark. -/
def setMigrating (deviceID : Str) (migrating : Bool) : ConnectionIndex :=
  { idx with
    migrating := if migrating then idx.migrating.insert deviceID true
      else idx.migrating.erase deviceID }

end ConnectionIndex

/-! ### Nodes -/

/-- What a migration needs of a broker with states in `β`. -/
structure MigrationBrokerAPI (β : Type) where
  disconnectDevice : Str → β → β
  getOfflineMessages : Str → ℤ → β → List MigrateOfflineMsg × β
  deleteOfflineMessages : Str → β → β
  getSessionData : Str → β → Option MigrateSessionData
  deleteSession : Str → β → β
  importMigrateData : MigrateDataMessage → ℤ → β → β

/-- The interface as the broker implements it. -/
def migrationAPI (σ ρ : Type) : MigrationBrokerAPI (BrokerState σ ρ) where
  disconnectDevice deviceID b := b.disconnectDevice deviceID
  getOfflineMessages deviceID now b := b.getOfflineMessages deviceID now
  deleteOfflineMessages deviceID b := b.deleteOfflineMessages deviceID
  getSessionData deviceID b := b.getSessionData deviceID
  deleteSession deviceID b := b.deleteSession deviceID
  importMigrateData msg now b := b.importMigrateData msg now

/-- A node of a cluster: the callback of its transport for migrated data, and the broker of its
executor. -/
structure ClusterNode (β : Type) where
  migrateHandler : Option (MigrateDataMessage → ℤ → β → β)
  brokerAPI : Option (MigrationBrokerAPI β)

namespace ClusterNode

variable {β : Type} (c : ClusterNode β)

/-- `NewCluster`: the transport gets a callback for forwarded messages only. -/
def newCluster : ClusterNode β := ⟨none, none⟩

/-- `SetMigrationBrokerAPI` makes an executor. -/
def setMigrationBrokerAPI (api : MigrationBrokerAPI β) : ClusterNode β :=
  { c with brokerAPI := some api }

/-- `SetMigrateHandler` of the transport. -/
def setMigrateHandler (f : MigrateDataMessage → ℤ → β → β) : ClusterNode β :=
  { c with migrateHandler := some f }

/-- A node as the server sets it up. -/
def configured (σ ρ : Type) : ClusterNode (BrokerState σ ρ) :=
  newCluster.setMigrationBrokerAPI (migrationAPI σ ρ)

/-- A node whose callback for migrated data is `ImportMigrateData`. -/
def importing (σ ρ : Type) : ClusterNode (BrokerState σ ρ) :=
  (configured σ ρ).setMigrateHandler (migrationAPI σ ρ).importMigrateData

end ClusterNode

/-! ### `SendMigrate` -/

/-- `SendMigrate`, until it waits on a channel; `writeErr` is the error of the stream, if any. -/
def PeerTransport.sendMigrate (pt : PeerTransport) (nodeID : Str) (msg : MigrateDataMessage)
    (writeErr : Option Str) (now : ℤ) : Except SendError ℕ × PeerTransport :=
  match pt.peers.lookup nodeID with
  | none => (.error (.notFound nodeID), pt)
  | some pc =>
    let key := migrationAckKey msg.deviceID
    let (ch, pt) := pt.register key now
    if !pc.stream then (.error (.notConnected nodeID), pt.unregister key)
    else
      match writeErr with
      | some err => (.error (.writeMigrate err), pt.unregister key)
      | none => (.ok ch, pt)

/-! ### `Execute` -/

/-- A batch that is being worked off: its devices still to come, those of the batches after it,
and how many of its devices were migrated and failed. -/
structure Batch where
  todo : List Str
  later : List Str
  migrated : ℕ
  failed : ℕ

/-- Where `Execute` stands. -/
inductive ExecStage
  | prepare
  | marking (rest : List Str)
  | handshake
  | migrate
  | batches (rest : List Str)
  | device (b : Batch)
  | sending (b : Batch) (msg : MigrateDataMessage) (retry : ℕ)
  | waiting (b : Batch) (msg : MigrateDataMessage) (retry ch : ℕ)
  | cleanup (b : Batch) (msg : MigrateDataMessage)
  | redirect
  | clearing (rest : List Str)
  | finishing
  | concluding
  | returned (err : Option Str)

/-- A source that executes a migration, its target, and what is under way between them: the data
of the devices, numbered as they come up, and acknowledgements.  `imports` are the data with which
the target's callback was run. -/
structure Migrating (β : Type) where
  migration : ShardMigration
  connIdx : ConnectionIndex
  stage : ExecStage
  entry : ℕ
  transport : PeerTransport
  network : Network MigrateDataMessage Frame
  source : β
  target : β
  imports : List (ℕ × MigrateDataMessage)

/-- What happens: `Execute` calls the broker or the index; it sends; its wait is ended by the
acknowledgement, by a timeout or by a shutdown; the target reads a frame or runs its callback; a
frame gets lost; the target crashes and comes up again; an acknowledgement is read or lost; old
waiters are cleaned up; or a connection comes up or goes down. -/
inductive MigratingOp (β : Type)
  | exec
  | send (writeErr : Option Str)
  | receive
  | timeout
  | shutdown
  | read (k : ℕ)
  | handle (k : ℕ)
  | lose (k : ℕ)
  | crash (restored : β)
  | readAck (k : ℕ)
  | loseAck (k : ℕ)
  | cleanup
  | setStream (up : Bool)

namespace Migrating

variable {β : Type} (source target : ClusterNode β) (s : Migrating β)

/-- A migration about to be executed. -/
def init (m : ShardMigration) (connIdx : ConnectionIndex) (transport : PeerTransport)
    (source target : β) : Migrating β where
  migration := m
  connIdx := connIdx
  stage := .prepare
  entry := 0
  transport := transport
  network := .empty
  source := source
  target := target
  imports := []

/-- The next device of a batch: it is disconnected, and its data are collected.  Without a single
attempt the source goes on as if it had sent them. -/
def gather (api : MigrationBrokerAPI β) (deviceID : Str) (b : Batch) (now : ℤ) : Migrating β :=
  let source := api.disconnectDevice deviceID s.source
  let (messages, source) := api.getOfflineMessages deviceID now source
  let msg : MigrateDataMessage := ⟨deviceID, messages, api.getSessionData deviceID source⟩
  { s with
    source := source
    entry := s.entry + 1
    stage := if 0 ≤ s.migration.config.maxRetries then .sending b msg 0 else .cleanup b msg }

/-- The end of the migration. -/
def conclude : Migrating β :=
  let failed := s.migration.progress.failed
  if failed > 0 then
    { s with
      migration := s.migration.markFailed
        (str (toString failed) ++ str " devices failed to migrate")
      stage := .returned (some (str "migration " ++ s.migration.id ++ str ": " ++
        str (toString failed) ++ str " devices failed")) }
  else { s with migration := s.migration.markCompleted, stage := .returned none }

/-- The next step of `Execute` unless it sends or waits. -/
def exec (api : MigrationBrokerAPI β) (now : ℤ) : Migrating β :=
  match s.stage with
  | .prepare =>
    { s with
      migration := s.migration.advancePhase
      stage := .marking s.migration.affectedDevices }
  | .marking [] => { s with stage := .handshake }
  | .marking (d :: rest) =>
    { s with connIdx := s.connIdx.setMigrating d true, stage := .marking rest }
  | .handshake => { s with migration := s.migration.advancePhase, stage := .migrate }
  | .migrate =>
    { s with
      migration := s.migration.advancePhase
      stage := .batches s.migration.affectedDevices }
  | .batches [] => { s with stage := .redirect }
  | .batches (d :: rest) =>
    let n := s.migration.batchSize
    { s with stage := .device ⟨(d :: rest).take n, (d :: rest).drop n, 0, 0⟩ }
  | .device ⟨[], later, migrated, failed⟩ =>
    { s with
      migration := (s.migration.recordMigrated migrated).recordFailed failed
      stage := .batches later }
  | .device ⟨d :: todo, later, migrated, failed⟩ =>
    s.gather api d ⟨todo, later, migrated, failed⟩ now
  | .cleanup b msg =>
    { s with
      source := api.deleteSession msg.deviceID (api.deleteOfflineMessages msg.deviceID s.source)
      stage := .device { b with migrated := b.migrated + 1 } }
  | .redirect =>
    { s with
      migration := s.migration.advancePhase
      stage := .clearing s.migration.affectedDevices }
  | .clearing [] => { s with stage := .finishing }
  | .clearing (d :: rest) =>
    { s with connIdx := (s.connIdx.setMigrating d false).remove d, stage := .clearing rest }
  | .finishing => { s with migration := s.migration.advancePhase, stage := .concluding }
  | .concluding => s.conclude
  | .sending _ _ _ => s
  | .waiting _ _ _ _ => s
  | .returned _ => s

/-- A call of `SendMigrate` failed: the source tries again, or gives the device up. -/
def failAttempt (b : Batch) (msg : MigrateDataMessage) (retry : ℕ) : ExecStage :=
  if (retry : ℤ) < s.migration.config.maxRetries then .sending b msg (retry + 1)
  else .device { b with failed := b.failed + 1 }

/-- A call of `SendMigrate`, until it waits. -/
def send (writeErr : Option Str) (now : ℤ) : Migrating β :=
  match s.stage with
  | .sending b msg retry =>
    match s.transport.sendMigrate s.migration.toNode msg writeErr now with
    | (.ok ch, transport) =>
      { s with
        transport
        stage := .waiting b msg retry ch
        network := s.network.write s.entry msg }
    | (.error _, transport) => { s with transport, stage := s.failAttempt b msg retry }
  | _ => s

/-- The target runs its callback, if any, with data that it has read. -/
def handle (k : ℕ) (now : ℤ) : Migrating β :=
  let (parcel, network) := s.network.take k
  let s := { s with network }
  match parcel, target.migrateHandler with
  | some (i, msg), some f =>
    { s with target := f msg now s.target, imports := s.imports ++ [(i, msg)] }
  | _, _ => s

/-- The two nodes after an operation at some instant. -/
def step (o : ℤ × MigratingOp β) : Migrating β :=
  match o.2 with
  | .exec =>
    match source.brokerAPI with
    | none => s
    | some api => s.exec api o.1
  | .send writeErr => s.send writeErr o.1
  | .receive =>
    match s.stage with
    | .waiting b msg _ ch =>
      if ch ∈ s.transport.closed then { s with stage := .cleanup b msg } else s
    | _ => s
  | .timeout =>
    match s.stage with
    | .waiting b msg retry _ =>
      { s with
        transport := s.transport.unregister (migrationAckKey msg.deviceID)
        stage := s.failAttempt b msg retry }
    | _ => s
  | .shutdown =>
    match s.stage with
    | .waiting b msg retry _ => { s with stage := s.failAttempt b msg retry }
    | _ => s
  | .read k => { s with network := s.network.read (fun msg => (Frame.migrateData msg).ack) k }
  | .handle k => s.handle target k o.1
  | .lose k => { s with network := s.network.lose k }
  | .crash restored => { s with network := s.network.drop fun _ => true, target := restored }
  | .readAck k =>
    let (frame, network) := s.network.takeAck k
    { s with
      network
      transport := match frame with
        | none => s.transport
        | some frame => s.transport.handleAck frame }
  | .loseAck k => { s with network := s.network.loseAck k }
  | .cleanup => { s with transport := s.transport.cleanupStaleAckWaiters o.1 }
  | .setStream up => { s with transport := s.transport.setStream s.migration.toNode up }

end Migrating

end Dmqtt.Cluster
