/-
The queues of messages for clients that are offline (`internal/broker/offline.go`), in
memory.  The zero instant of the source is `none`.
-/
import Dmqtt.Codec.Packets
import Dmqtt.Lib.GoTypes
import Mathlib.Data.List.Sort

namespace Dmqtt.Broker

open Lib

def priorityHigh : UInt8 := 0
def priorityMedium : UInt8 := 1
def priorityLow : UInt8 := 2

/-- A message for a client that is offline. -/
structure OfflineMessage where
  topic : Str
  payload : Bytes
  qos : UInt8
  priority : UInt8 := 0
  createdAt : Option ℤ := none
  expiresAt : Option ℤ := none
deriving DecidableEq

/-- Capacities and lifetimes by priority. -/
structure TierConfig where
  highMax : ℤ
  highTTL : ℤ
  midMax : ℤ
  midTTL : ℤ
  lowMax : ℤ
  lowTTL : ℤ

/-- The queues by client ID. -/
structure OfflineStore where
  queues : GoMap Str (List OfflineMessage)
  maxPerClient : ℤ
  defaultTTL : ℤ
  tierConfig : Option TierConfig

namespace OfflineMessage

/-- The message has not expired. -/
def live (m : OfflineMessage) (now : ℤ) : Bool :=
  match m.expiresAt with
  | none => true
  | some t => !decide (now > t)

/-- The order of delivery: by priority, then by age. -/
def before (a b : OfflineMessage) : Prop :=
  a.priority < b.priority ∨ (a.priority = b.priority ∧ a.createdAt.getD 0 ≤ b.createdAt.getD 0)

instance : DecidableRel before := fun _ _ => inferInstanceAs (Decidable (_ ∨ _))

end OfflineMessage

/-- The lifetime of a message by its priority. -/
def TierConfig.ttl (cfg : TierConfig) (priority : UInt8) : Option ℤ :=
  if priority = priorityHigh then some cfg.highTTL
  else if priority = priorityMedium then some cfg.midTTL
  else if priority = priorityLow then some cfg.lowTTL
  else none

namespace OfflineStore

/-- A store without messages. -/
def new (maxPerClient defaultTTL : ℤ) : OfflineStore := ⟨∅, maxPerClient, defaultTTL, none⟩

/-- The queue of a client. -/
def queue (s : OfflineStore) (clientID : Str) : List OfflineMessage :=
  (s.queues.lookup clientID).getD []

/-- The message with its instants filled in. -/
def stamp (s : OfflineStore) (msg : OfflineMessage) (now : ℤ) : OfflineMessage :=
  let created := msg.createdAt.getD now
  let msg := { msg with createdAt := some created }
  match msg.expiresAt, s.tierConfig with
  | some _, _ => msg
  | none, some cfg => { msg with expiresAt := (cfg.ttl msg.priority).map fun ttl => created + ttl }
  | none, none =>
    if s.defaultTTL > 0 then { msg with expiresAt := some (created + s.defaultTTL) } else msg

/-- Evict the oldest message of the lowest priority that is not above `priority`. -/
def evict (queue : List OfflineMessage) (priority : UInt8) : Option (List OfflineMessage) :=
  [priorityLow, priorityMedium, priorityHigh].findSome? fun p =>
    if p ≥ priority ∧ queue.any fun m => m.priority = p then
      some (queue.eraseP fun m => m.priority = p)
    else none

/-- The error for a full queue. -/
def fullErr (s : OfflineStore) (clientID : Str) : Str :=
  str "offline queue full for client " ++ clientID ++ str " (limit: " ++
    str (toString s.maxPerClient) ++ str ")"

/-- Queue a message, after the expired ones are dropped. -/
def enqueue (s : OfflineStore) (clientID : Str) (msg : OfflineMessage) (now : ℤ) :
    Except Str Unit × OfflineStore :=
  let queue := (s.queue clientID).filter fun m => m.live now
  let msg := s.stamp msg now
  let full := (.error (s.fullErr clientID),
    { s with queues := s.queues.insert clientID queue })
  let done := fun queue : List OfflineMessage =>
    (.ok (), { s with queues := s.queues.insert clientID (queue ++ [msg]) })
  if (queue.length : ℤ) ≥ s.maxPerClient then
    match s.tierConfig with
    | none => full
    | some _ =>
      match evict queue msg.priority with
      | none => full
      | some queue => done queue
  else done queue

/-- Take up to `maxCount` messages off the queue of a client; expired ones are dropped. -/
def dequeue (s : OfflineStore) (clientID : Str) (maxCount : ℕ) (now : ℤ) :
    List OfflineMessage × OfflineStore :=
  match s.queues.lookup clientID with
  | none => ([], s)
  | some queue =>
    let valid := (queue.filter fun m => m.live now).insertionSort OfflineMessage.before
    let remaining := valid.drop maxCount
    (valid.take maxCount,
      { s with queues :=
          if remaining = [] then s.queues.erase clientID
          else s.queues.insert clientID remaining })

/-- Drop the queue of a client. -/
def removeAll (s : OfflineStore) (clientID : Str) : OfflineStore :=
  { s with queues := s.queues.erase clientID }

/-! ### What the operations do to the queues -/

variable {s : OfflineStore} (clientID d : Str)

lemma queue_insert (q : List OfflineMessage) :
    queue { s with queues := s.queues.insert clientID q } d =
      if d = clientID then q else s.queue d := by
  rw [queue, queue]
  rw [GoMap.lookup_insert_eq]
  split_ifs <;> rfl

lemma queue_erase :
    queue { s with queues := s.queues.erase clientID } d =
      if d = clientID then [] else s.queue d := by
  rw [queue, queue]
  rw [GoMap.lookup_erase_eq]
  split_ifs <;> rfl

lemma queue_removeAll : (s.removeAll clientID).queue d = if d = clientID then [] else s.queue d :=
  queue_erase clientID d

lemma evict_sublist {q q' : List OfflineMessage} {priority : UInt8}
    (h : evict q priority = some q') : q'.Sublist q := by
  obtain ⟨p, -, hp⟩ := List.exists_of_findSome?_eq_some h
  split_ifs at hp
  cases hp
  exact List.eraseP_sublist

/-- The new queue of the client is a part of the old one, possibly with the message. -/
lemma enqueue_eq (msg : OfflineMessage) (now : ℤ) :
    ∃ q m : List OfflineMessage, q.Sublist (s.queue clientID) ∧ m.Sublist [s.stamp msg now] ∧
      (s.enqueue clientID msg now).2 = { s with queues := s.queues.insert clientID (q ++ m) } := by
  have hlive : ((s.queue clientID).filter fun m => m.live now).Sublist (s.queue clientID) :=
    List.filter_sublist
  rw [enqueue]
  split_ifs
  · cases s.tierConfig with
    | none => exact ⟨_, [], hlive, List.nil_sublist _, by rw [List.append_nil]⟩
    | some cfg =>
      cases hevict : evict ((s.queue clientID).filter fun m => m.live now)
          (s.stamp msg now).priority with
      | none => exact ⟨_, [], hlive, List.nil_sublist _, by rw [List.append_nil]⟩
      | some q =>
        exact ⟨q, _, (evict_sublist hevict).trans hlive, List.Sublist.refl _, rfl⟩
  · exact ⟨_, _, hlive, List.Sublist.refl _, rfl⟩

lemma dequeue_subperm (n : ℕ) (now : ℤ) :
    ((s.dequeue clientID n now).1 ++ (s.dequeue clientID n now).2.queue clientID).Subperm
      (s.queue clientID) := by
  rw [dequeue]
  cases hl : s.queues.lookup clientID with
  | none => exact (List.Subperm.refl _)
  | some q =>
    have hq : s.queue clientID = q := by
      rw [queue, hl]
      rfl
    have hvalid : ((q.filter fun m => m.live now).insertionSort
        OfflineMessage.before).Subperm q :=
      (List.perm_insertionSort _ _).subperm.trans List.filter_sublist.subperm
    dsimp only
    rw [hq]
    generalize (q.filter fun m => m.live now).insertionSort OfflineMessage.before = valid
      at hvalid ⊢
    split_ifs with hrem
    · rw [queue_erase, if_pos rfl, List.append_nil]
      exact (List.take_sublist _ _).subperm.trans hvalid
    · rw [queue_insert, if_pos rfl, List.take_append_drop]
      exact hvalid

lemma queue_dequeue_of_ne {clientID d : Str} (h : d ≠ clientID) (n : ℕ) (now : ℤ) :
    (s.dequeue clientID n now).2.queue d = s.queue d := by
  rw [dequeue]
  cases s.queues.lookup clientID with
  | none => rfl
  | some q =>
    dsimp only
    split_ifs
    · rw [queue_erase, if_neg h]
    · rw [queue_insert, if_neg h]

end OfflineStore

end Dmqtt.Broker
