/-
The broker's side of a migration (`MigrationBrokerAPI`, implemented in
`internal/broker/broker.go`), with the data that is transferred
(`internal/cluster/peer_transport.go`).
-/
import Dmqtt.Broker.State

namespace Dmqtt.Broker

open Lib Codec Plugin

/-- A single offline message being migrated. -/
structure MigrateOfflineMsg where
  topic : Str
  payload : Bytes
  qos : UInt8
deriving DecidableEq

/-- Session state transferred during migration. -/
structure MigrateSessionData where
  clientID : Str
  cleanStart : Bool
  expiryInterval : UInt32
  subscriptions : GoMap Str UInt8

/-- Device data transferred from the source to the target node. -/
structure MigrateDataMessage where
  deviceID : Str
  messages : List MigrateOfflineMsg
  session : Option MigrateSessionData

/-- An offline message in the form in which it is migrated. -/
def OfflineMessage.migrated (m : OfflineMessage) : MigrateOfflineMsg := ⟨m.topic, m.payload, m.qos⟩

/-- A migrated message as it is queued on the target. -/
def MigrateOfflineMsg.offline (m : MigrateOfflineMsg) : OfflineMessage where
  topic := m.topic
  payload := m.payload
  qos := m.qos

/-- Queue messages one after the other. -/
def OfflineStore.enqueueAll (s : OfflineStore) (clientID : Str) (msgs : List OfflineMessage)
    (now : ℤ) : OfflineStore :=
  msgs.foldl (fun s m => (s.enqueue clientID m now).2) s

/-! ### How often a message is queued -/

namespace OfflineStore

variable {s : OfflineStore}

/-- How often the queue of a client holds a message, up to what a migration leaves out. -/
def stock (s : OfflineStore) (clientID : Str) (x : MigrateOfflineMsg) : ℕ :=
  ((s.queue clientID).map OfflineMessage.migrated).count x

/-- The queues of a store are parts of those of another one. -/
def PartOf (s t : OfflineStore) : Prop := ∀ e ∈ s.queues.entries, e.2.Sublist (t.queue e.1)

instance (s t : OfflineStore) : Decidable (s.PartOf t) := List.decidableBAll _ _

lemma PartOf.stock_le {t : OfflineStore} (h : s.PartOf t) (clientID : Str)
    (x : MigrateOfflineMsg) : s.stock clientID x ≤ t.stock clientID x := by
  rw [stock, stock, queue]
  cases hl : s.queues.lookup clientID with
  | none => exact Nat.zero_le _
  | some q => exact ((h ⟨clientID, q⟩ (AList.mem_lookup_iff.1 hl)).map _).count_le x

variable (clientID d : Str) (msg : OfflineMessage) (now : ℤ)

lemma migrated_stamp : (s.stamp msg now).migrated = msg.migrated := by
  rw [stamp]
  split
  · rfl
  · rfl
  · split_ifs <;> rfl

lemma stock_enqueue_le (x : MigrateOfflineMsg) :
    (s.enqueue clientID msg now).2.stock d x ≤
      s.stock d x + if d = clientID then [msg.migrated].count x else 0 := by
  obtain ⟨q, m, hq, hm, heq⟩ := s.enqueue_eq clientID msg now
  rw [heq, stock, stock, queue_insert]
  split_ifs with hd
  · rw [List.map_append, List.count_append, hd, ← migrated_stamp msg now]
    exact Nat.add_le_add ((hq.map _).count_le x) ((hm.map OfflineMessage.migrated).count_le x)
  · exact Nat.le_add_right _ _

lemma stock_enqueueAll_le (msgs : List OfflineMessage) (now : ℤ) (x : MigrateOfflineMsg) :
    (s.enqueueAll clientID msgs now).stock d x ≤
      s.stock d x + if d = clientID then (msgs.map OfflineMessage.migrated).count x else 0 := by
  induction msgs generalizing s with
  | nil => exact Nat.le_add_right _ _
  | cons m msgs ih =>
    refine (ih (s := (s.enqueue clientID m now).2)).trans ?_
    have hone := stock_enqueue_le (s := s) clientID d m now x
    rw [List.map_cons, ← List.singleton_append, List.count_append]
    split_ifs at hone ⊢ <;> omega

end OfflineStore

/-! ### The interface of the broker -/

namespace BrokerState

variable {σ ε ρ : Type} (b : BrokerState σ ρ)

/-- Forcefully disconnect a device. -/
def disconnectDevice (deviceID : Str) : BrokerState σ ρ := b.disconnectExisting deviceID

/-- The offline messages of a device.  They are taken off the queue and queued again. -/
def getOfflineMessages (deviceID : Str) (now : ℤ) : List MigrateOfflineMsg × BrokerState σ ρ :=
  let out := b.offlineStore.dequeue deviceID (b.offlineStore.queue deviceID).length now
  (out.1.map OfflineMessage.migrated,
    { b with offlineStore := out.2.enqueueAll deviceID out.1 now })

/-- Remove all offline messages of a device. -/
def deleteOfflineMessages (deviceID : Str) : BrokerState σ ρ :=
  { b with offlineStore := b.offlineStore.removeAll deviceID }

/-- Session data for migration. -/
def getSessionData (clientID : Str) : Option MigrateSessionData :=
  (b.sessions.get clientID).map fun session =>
    ⟨session.clientID, session.cleanStart, session.expiryInterval, session.subscriptions⟩

/-- Remove a session. -/
def deleteSession (clientID : Str) : BrokerState σ ρ :=
  { b with sessions := b.sessions.remove clientID }

/-- Store a migrated session, and add its subscriptions to the index. -/
def importSession (session : MigrateSessionData) : BrokerState σ ρ :=
  let addr := b.sessions.next
  let sessions := b.sessions.create session.clientID session.cleanStart session.expiryInterval
  let b := session.subscriptions.entries.foldl
    (fun b f => { b with
      sessions := b.sessions.setSubscription session.clientID addr f.1 f.2
      subscriptions := b.subscriptions.add session.clientID f.1 f.2 })
    { b with sessions := sessions }
  { b with sessions := b.sessions.save session.clientID }

/-- Store incoming migration data. -/
def importMigrateData (msg : MigrateDataMessage) (now : ℤ) : BrokerState σ ρ :=
  let b := { b with
    offlineStore := b.offlineStore.enqueueAll msg.deviceID
      (msg.messages.map MigrateOfflineMsg.offline) now }
  match msg.session with
  | none => b
  | some session => b.importSession session

/-- The index after a session was imported: no other part of it matters for matching. -/
lemma subscriptions_importSession (session : MigrateSessionData) :
    (b.importSession session).subscriptions = session.subscriptions.entries.foldl
      (fun idx f => idx.add session.clientID f.1 f.2) b.subscriptions := by
  rw [importSession]
  exact (List.foldl_hom BrokerState.subscriptions fun _ _ => rfl).symm

section Stock

variable {b} (deviceID d : Str) (now : ℤ) (x : MigrateOfflineMsg)

lemma offlineStore_disconnectDevice : (b.disconnectDevice deviceID).offlineStore = b.offlineStore :=
  congrArg (fun b => b.offlineStore) (b.stores_disconnectExisting deviceID)

/-- What is exported was queued, and nothing is queued that was not before. -/
lemma stock_getOfflineMessages :
    (b.getOfflineMessages deviceID now).1.count x ≤ b.offlineStore.stock deviceID x ∧
      (b.getOfflineMessages deviceID now).2.offlineStore.stock d x ≤
        b.offlineStore.stock d x := by
  generalize hn : (b.offlineStore.queue deviceID).length = n
  have hsub := b.offlineStore.dequeue_subperm deviceID n now
  have hcount : ((b.offlineStore.dequeue deviceID n now).1.map OfflineMessage.migrated).count x +
      (b.offlineStore.dequeue deviceID n now).2.stock deviceID x ≤
        b.offlineStore.stock deviceID x := by
    rw [OfflineStore.stock, ← List.count_append, ← List.map_append, OfflineStore.stock,
      List.count_eq_countP, List.countP_map, List.count_eq_countP, List.countP_map]
    exact hsub.countP_le _
  rw [getOfflineMessages, hn]
  refine ⟨(Nat.le_add_right _ _).trans hcount, ?_⟩
  refine (OfflineStore.stock_enqueueAll_le deviceID d _ now x).trans ?_
  split_ifs with hd
  · rw [hd, Nat.add_comm]
    exact hcount
  · rw [OfflineStore.stock, OfflineStore.queue_dequeue_of_ne hd]
    exact le_refl _

lemma stock_deleteOfflineMessages :
    (b.deleteOfflineMessages deviceID).offlineStore.stock d x =
      if d = deviceID then 0 else b.offlineStore.stock d x := by
  rw [deleteOfflineMessages, OfflineStore.removeAll, OfflineStore.stock,
    OfflineStore.queue_erase]
  split_ifs <;> rfl

lemma offlineStore_importSession (session : MigrateSessionData) :
    (b.importSession session).offlineStore = b.offlineStore := by
  rw [importSession]
  refine (foldl_frame (fun b : BrokerState σ ρ => b.offlineStore) ?_ _ _).trans rfl
  intro b f
  rfl

/-- An import adds each message at most as often as the data hold it. -/
lemma stock_importMigrateData_le (msg : MigrateDataMessage) (d : Str) (now : ℤ)
    (x : MigrateOfflineMsg) :
    (b.importMigrateData msg now).offlineStore.stock d x ≤
      b.offlineStore.stock d x + if d = msg.deviceID then msg.messages.count x else 0 := by
  have hmigrated : (msg.messages.map MigrateOfflineMsg.offline).map OfflineMessage.migrated =
      msg.messages := by
    rw [List.map_map]
    exact List.map_id _
  have hle := OfflineStore.stock_enqueueAll_le (s := b.offlineStore) msg.deviceID d
    (msg.messages.map MigrateOfflineMsg.offline) now x
  rw [hmigrated] at hle
  rw [importMigrateData]
  cases msg.session with
  | none => exact hle
  | some session =>
    rw [offlineStore_importSession]
    exact hle

end Stock

end BrokerState

end Dmqtt.Broker
