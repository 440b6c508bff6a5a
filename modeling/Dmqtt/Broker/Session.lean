/-
Client sessions (`internal/broker/session.go`).

A session is a heap object in the source: a handler that has looked it up keeps its pointer
while the map may get another session for the same client.  `addr` is the address of the
object, and a pointer is the client ID together with the address.  The persistent store, when
there is one, holds a copy of each session under the client ID.
-/
import Dmqtt.Codec.Packets
import Dmqtt.Lib.GoTypes

namespace Dmqtt.Broker

open Lib

/-- The expiry interval of sessions that never expire. -/
def neverExpires : UInt32 := 0xFFFFFFFF

/-- The state of a client that outlives its connection. -/
structure Session where
  addr : ℕ
  clientID : Str
  cleanStart : Bool
  expiryInterval : UInt32
  subscriptions : GoMap Str UInt8
  disconnectedAt : Option ℤ

/-- The sessions by client ID, the next free address, and the persistent copies. -/
structure SessionStore where
  sessions : GoMap Str Session
  next : ℕ
  store : Option (GoMap Str Session)

/-- The instant after which the reaper may remove a session that was marked at `t`. -/
def Session.deadline (s : Session) (t : ℤ) : ℤ := t + s.expiryInterval.toNat * second

/-- The session is due at the given instant: it is marked disconnected, does not live forever,
and its deadline has passed. -/
def Session.expired (s : Session) (now : ℤ) : Bool :=
  match s.disconnectedAt with
  | none => false
  | some t => s.expiryInterval ≠ neverExpires && now > s.deadline t

namespace SessionStore

/-- A store without sessions; `persistent` tells whether there is a persistent store. -/
def new (persistent : Bool) : SessionStore :=
  ⟨∅, 0, if persistent then some ∅ else none⟩

/-- Look up the session of a client. -/
def get (ss : SessionStore) (clientID : Str) : Option Session := ss.sessions.lookup clientID

/-- Write a session to the persistent store. -/
def persist (ss : SessionStore) (clientID : Str) (s : Session) : SessionStore :=
  { ss with store := ss.store.map fun store => store.insert clientID s }

/-- Put a session into the map and write it to the persistent store. -/
def put (ss : SessionStore) (clientID : Str) (s : Session) : SessionStore :=
  { ss with sessions := ss.sessions.insert clientID s }.persist clientID s

/-- The new session that `create` makes. -/
def fresh (ss : SessionStore) (clientID : Str) (cleanStart : Bool) (expiryInterval : UInt32) :
    Session where
  addr := ss.next
  clientID := clientID
  cleanStart := cleanStart
  expiryInterval := expiryInterval
  subscriptions := ∅
  disconnectedAt := none

/-- Make a new session for a client, in the place of the one that is there. -/
def create (ss : SessionStore) (clientID : Str) (cleanStart : Bool) (expiryInterval : UInt32) :
    SessionStore :=
  { ss with next := ss.next + 1 }.put clientID (ss.fresh clientID cleanStart expiryInterval)

/-- Mark the session of a client as disconnected. -/
def markDisconnected (ss : SessionStore) (clientID : Str) (now : ℤ) : SessionStore :=
  match ss.get clientID with
  | none => ss
  | some s => ss.put clientID { s with disconnectedAt := some now }

/-- The clients whose sessions are due. -/
def expiredSessions (ss : SessionStore) (now : ℤ) : List Str :=
  (ss.sessions.entries.filter fun e => e.2.expired now).map Sigma.fst

/-- Remove the session of a client. -/
def remove (ss : SessionStore) (clientID : Str) : SessionStore :=
  { ss with
    sessions := ss.sessions.erase clientID
    store := ss.store.map fun store => store.erase clientID }

/-- Persist the session of a client. -/
def save (ss : SessionStore) (clientID : Str) : SessionStore :=
  match ss.get clientID with
  | none => ss
  | some s => ss.persist clientID s

/-- `SetSubscription` on the session object at the address `addr`.  An object that is no
longer in the map is out of reach of everyone but the holder of its pointer. -/
def setSubscription (ss : SessionStore) (clientID : Str) (addr : ℕ) (topic : Str) (qos : UInt8) :
    SessionStore :=
  match ss.get clientID with
  | none => ss
  | some s =>
    if s.addr = addr then
      let s := { s with subscriptions := s.subscriptions.insert topic qos }
      { ss with sessions := ss.sessions.insert clientID s }
    else ss

/-- `RemoveSubscription` on the session object at the address `addr`. -/
def removeSubscription (ss : SessionStore) (clientID : Str) (addr : ℕ) (topic : Str) :
    SessionStore :=
  match ss.get clientID with
  | none => ss
  | some s =>
    if s.addr = addr then
      let s := { s with subscriptions := s.subscriptions.erase topic }
      { ss with sessions := ss.sessions.insert clientID s }
    else ss

/-! ### Lookups after updates -/

variable (ss : SessionStore) (clientID : Str) (addr : ℕ) (topic : Str) (qos : UInt8)
  (clientID' : Str)

lemma get_put (s : Session) :
    (ss.put clientID s).get clientID' =
      if clientID' = clientID then some s else ss.get clientID' := by
  rw [get, put, persist]
  exact GoMap.lookup_insert_eq ..

lemma get_create (cleanStart : Bool) (expiryInterval : UInt32) (clientID' : Str) :
    (ss.create clientID cleanStart expiryInterval).get clientID' =
      if clientID' = clientID then some (ss.fresh clientID cleanStart expiryInterval)
      else ss.get clientID' := by
  rw [create, get_put]
  rfl

lemma get_markDisconnected (now : ℤ) (clientID' : Str) :
    (ss.markDisconnected clientID now).get clientID' =
      if clientID' = clientID then
        (ss.get clientID).map fun s => { s with disconnectedAt := some now }
      else ss.get clientID' := by
  rw [markDisconnected]
  cases hs : ss.get clientID with
  | none =>
    split_ifs with h
    · subst h
      exact hs
    · rfl
  | some s => exact ss.get_put clientID clientID' _

lemma get_remove :
    (ss.remove clientID).get clientID' =
      if clientID' = clientID then none else ss.get clientID' := by
  rw [get, remove]
  exact GoMap.lookup_erase_eq ..

@[simp] lemma get_save : (ss.save clientID).get clientID' = ss.get clientID' := by
  rw [save]
  cases ss.get clientID <;> rfl

/-- A change of the subscriptions of the session object at the address `addr`. -/
lemma get_changeSubscriptions (f : GoMap Str UInt8 → GoMap Str UInt8) (clientID : Str) (addr : ℕ)
    (clientID' : Str) :
    (match ss.get clientID with
      | none => ss
      | some s =>
        if s.addr = addr then
          { ss with sessions :=
              ss.sessions.insert clientID { s with subscriptions := f s.subscriptions } }
        else ss).get clientID' =
      (ss.get clientID').map fun s =>
        if clientID' = clientID ∧ s.addr = addr then
          { s with subscriptions := f s.subscriptions }
        else s := by
  cases hs : ss.get clientID with
  | none =>
    rcases eq_or_ne clientID' clientID with rfl | hne
    · simp [hs]
    · simp [hne]
  | some s =>
    dsimp only
    rcases eq_or_ne clientID' clientID with rfl | hne
    · split_ifs with haddr
      · simp [get, haddr, show ss.sessions.lookup clientID' = some s from hs]
      · simp [hs, haddr]
    · split_ifs with haddr
      · simp [get, AList.lookup_insert_ne hne, hne]
      · simp [hne]

lemma get_setSubscription :
    (ss.setSubscription clientID addr topic qos).get clientID' =
      (ss.get clientID').map fun s =>
        if clientID' = clientID ∧ s.addr = addr then
          { s with subscriptions := s.subscriptions.insert topic qos }
        else s :=
  ss.get_changeSubscriptions (fun subs => subs.insert topic qos) clientID addr clientID'

lemma get_removeSubscription :
    (ss.removeSubscription clientID addr topic).get clientID' =
      (ss.get clientID').map fun s =>
        if clientID' = clientID ∧ s.addr = addr then
          { s with subscriptions := s.subscriptions.erase topic }
        else s :=
  ss.get_changeSubscriptions (fun subs => subs.erase topic) clientID addr clientID'

lemma map_get_setSubscription {α : Type} {f : Session → α}
    (hf : ∀ s subs, f { s with subscriptions := subs } = f s) (clientID : Str) (addr : ℕ)
    (topic : Str) (qos : UInt8) (clientID' : Str) :
    ((ss.setSubscription clientID addr topic qos).get clientID').map f =
      (ss.get clientID').map f := by
  rw [get_setSubscription, Option.map_map]
  congr 1
  funext s
  rw [Function.comp]
  split_ifs
  · exact hf s _
  · rfl

lemma mem_expiredSessions {now : ℤ} {clientID : Str} :
    clientID ∈ ss.expiredSessions now ↔ ∃ s, ss.get clientID = some s ∧ s.expired now = true := by
  simp only [expiredSessions, List.mem_map, List.mem_filter, get]
  constructor
  · rintro ⟨⟨clientID, s⟩, ⟨hmem, hexp⟩, rfl⟩
    exact ⟨s, AList.mem_lookup_iff.2 hmem, hexp⟩
  · rintro ⟨s, hs, hexp⟩
    exact ⟨⟨clientID, s⟩, ⟨AList.mem_lookup_iff.1 hs, hexp⟩, rfl⟩

end SessionStore

end Dmqtt.Broker
