/-
The packet IDs of the deliveries on one connection.

`PacketIDAllocator` counts through the 16-bit numbers without zero, whether or not the IDs are
still in use.  A ledger numbers the deliveries of a connection without a bound and keeps the
numbers of the unacknowledged ones; the packet ID of a delivery is its number in the cycle of
length 65535.  `packetIDs_run` concludes when an ID is given to two messages at once.
-/
import Dmqtt.Codec.Stream
import Dmqtt.Broker.Delivery

namespace Dmqtt.Broker

open Lib Codec Plugin

/-! ### Numbers and IDs -/

/-- The packet ID of the `n`-th delivery. -/
def packetIDOf (n : ℕ) : UInt16 := if n = 0 then 0 else UInt16.ofNat ((n - 1) % 65535 + 1)

lemma toNat_packetIDOf {n : ℕ} (h : 0 < n) : (packetIDOf n).toNat = (n - 1) % 65535 + 1 := by
  rw [packetIDOf, if_neg (by omega), UInt16.toNat_ofNat', Nat.mod_eq_of_lt (by omega)]

lemma nextPacketID_packetIDOf (n : ℕ) : nextPacketID (packetIDOf n) = packetIDOf (n + 1) := by
  rcases Nat.eq_zero_or_pos n with rfl | hn
  · rfl
  have hid := toNat_packetIDOf hn
  have hsucc := toNat_packetIDOf (n := n + 1) (by omega)
  have hadd : (packetIDOf n + 1).toNat = ((packetIDOf n).toNat + 1) % 65536 := UInt16.toNat_add ..
  rw [nextPacketID]
  split_ifs with h₀
  · rw [h₀, UInt16.toNat_zero] at hadd
    apply UInt16.toNat_inj.1
    rw [hsucc]
    change 1 = _
    omega
  · have hne : (packetIDOf n + 1).toNat ≠ 0 := fun h => h₀ (UInt16.toNat_inj.1 h)
    apply UInt16.toNat_inj.1
    omega

/-- Two deliveries have the same ID if they are a multiple of 65535 deliveries apart. -/
lemma packetIDOf_eq_iff {m n : ℕ} (hm : 0 < m) (hmn : m ≤ n) :
    packetIDOf m = packetIDOf n ↔ 65535 ∣ n - m := by
  rw [← UInt16.toNat_inj, toNat_packetIDOf hm, toNat_packetIDOf (by omega)]
  omega

lemma nextPacketID_ne_zero (id : UInt16) : nextPacketID id ≠ 0 := by
  rw [nextPacketID]
  split_ifs with h
  · decide
  · exact h

/-! ### The steps of a connection -/

/-- What happens on a connection: a delivery above QoS 0, with or without room in the buffer of
the channel, a PUBACK or a PUBREC. -/
inductive ConnStep
  | deliver (room : Bool) (topic : Str) (payload : Bytes) (qos : UInt8) (hq : 0 < qos) (now : ℤ)
  | puback (data : Bytes)
  | pubrec (data : Bytes)

namespace ConnStep

/-- The step is a delivery. -/
def isDelivery : ConnStep → Bool
  | deliver .. => true
  | _ => false

/-- The packet ID that a step acknowledges. -/
def acked : ConnStep → Option UInt16
  | deliver .. => none
  | puback data => (decodePubackPacket data 4).toOption.map AckPacket.packetID
  | pubrec data => (decodePubrecPacket data 4).toOption.map AckPacket.packetID

end ConnStep

/-- The handler of a step. -/
def BrokerState.handle {σ ρ : Type} (b : BrokerState σ ρ) (c : ℕ) : ConnStep → BrokerState σ ρ
  | .deliver room topic payload qos _ now => b.deliverBuffered room c topic payload qos now
  | .puback data => b.handlePuback c data
  | .pubrec data => b.handlePubrec c data

/-- The deliveries of a connection, accepted or not, and the numbers of the ones that were
accepted and are not acknowledged. -/
structure Ledger where
  deliveries : ℕ
  unacked : List ℕ

namespace Ledger

/-- A delivery. -/
def deliver (l : Ledger) (accepted : Bool) : Ledger where
  deliveries := l.deliveries + 1
  unacked := if accepted then l.unacked ++ [l.deliveries + 1] else l.unacked

/-- An acknowledgement. -/
def acknowledge (l : Ledger) (packetID : UInt16) : Ledger :=
  { l with unacked := l.unacked.filter fun m => packetIDOf m ≠ packetID }

/-- The ledger after a step; `accepted` tells whether a delivery is accepted. -/
def after (l : Ledger) (accepted : Bool) (o : ConnStep) : Ledger :=
  if o.isDelivery then l.deliver accepted
  else
    match o.acked with
    | none => l
    | some packetID => l.acknowledge packetID

end Ledger

/-! ### What a step does to its connection -/

namespace Client

variable {client : Client}

/-- The connection after a step. -/
def after (client : Client) : ConnStep → Client
  | .deliver room topic payload qos _ now =>
    if client.Accepts ∧ room = true then
      (client.record topic payload qos now).push
        (.publish { topic, payload, qos, packetID := client.nextID })
    else client.record topic payload qos now
  | .puback data =>
    match decodePubackPacket data 4 with
    | .error _ => client
    | .ok pkt => { client with inflight := client.inflight.remove pkt.packetID }
  | .pubrec data =>
    match decodePubrecPacket data 4 with
    | .error _ => client
    | .ok pkt =>
      push { client with inflight := client.inflight.remove pkt.packetID } (.pubrel pkt.packetID)

lemma packetIDs_after_deliver (room : Bool) (topic : Str) (payload : Bytes) {qos : UInt8}
    (hq : 0 < qos) (now : ℤ) :
    (client.after (.deliver room topic payload qos hq now)).packetIDs = client.nextID := by
  rw [after]
  split_ifs
  · exact packetIDs_push _
  · rfl

/-- A delivery leaves the messages in flight as `record` leaves them. -/
lemma inflight_after_deliver (room : Bool) (topic : Str) (payload : Bytes) {qos : UInt8}
    (hq : 0 < qos) (now : ℤ) :
    (client.after (.deliver room topic payload qos hq now)).inflight =
      (client.record topic payload qos now).inflight := by
  rw [after]
  split_ifs
  · exact inflight_push _
  · rfl

/-- An acknowledgement that can be decoded takes its message out of flight. -/
lemma after_ack (client : Client) {o : ConnStep} (ho : o.isDelivery = false) :
    (o.acked = none ∧ client.after o = client) ∨ ∃ packetID, o.acked = some packetID ∧
      (client.after o).packetIDs = client.packetIDs ∧
      (client.after o).inflight = client.inflight.remove packetID ∧
      ∃ new, (client.after o).sent = client.sent ++ new ∧ ∀ pkt, .publish pkt ∉ new := by
  cases o with
  | deliver room topic payload qos hq now => cases ho
  | puback data =>
    rw [after, ConnStep.acked]
    cases decodePubackPacket data 4 with
    | error err => exact Or.inl ⟨rfl, rfl⟩
    | ok pkt => exact Or.inr ⟨_, rfl, rfl, rfl, [], by simp⟩
  | pubrec data =>
    rw [after, ConnStep.acked]
    cases decodePubrecPacket data 4 with
    | error err => exact Or.inl ⟨rfl, rfl⟩
    | ok pkt =>
      refine Or.inr ⟨_, rfl, packetIDs_push _, inflight_push _, _, sent_push _, fun pkt => ?_⟩
      split_ifs <;> simp

lemma limit_after (o : ConnStep) :
    (client.after o).inflight.limit = client.inflight.limit := by
  cases ho : o.isDelivery with
  | true =>
    cases o with
    | deliver room topic payload qos hq now =>
      rw [inflight_after_deliver, limit_record]
    | _ => cases ho
  | false =>
    rcases client.after_ack ho with ⟨-, heq⟩ | ⟨_, -, -, heq, -⟩ <;> rw [heq]
    rfl

lemma sent_after (o : ConnStep) :
    ∃ new, (client.after o).sent = client.sent ++ new ∧
      ∀ pkt, Outgoing.publish pkt ∈ new → pkt.packetID ≠ 0 := by
  have hsame : ∃ new, client.sent = client.sent ++ new ∧
      ∀ pkt, Outgoing.publish pkt ∈ new → pkt.packetID ≠ 0 := ⟨[], by simp⟩
  cases ho : o.isDelivery with
  | true =>
    cases o with
    | deliver room topic payload qos hq now =>
      rw [after]
      split_ifs
      · refine ⟨_, sent_push _, fun pkt hpkt => ?_⟩
        split_ifs at hpkt
        · cases hpkt
        · obtain rfl := Outgoing.publish.inj (List.mem_singleton.1 hpkt)
          exact nextPacketID_ne_zero _
      · exact hsame
    | _ => cases ho
  | false =>
    rcases client.after_ack ho with ⟨-, heq⟩ | ⟨_, -, -, -, new, hsent, hnew⟩
    · rwa [heq]
    · exact ⟨new, hsent, fun pkt hpkt => absurd hpkt (hnew pkt)⟩

end Client

lemma BrokerState.lookup_handle {σ ρ : Type} {b : BrokerState σ ρ} {c : ℕ} {client : Client}
    (hc : b.conns.lookup c = some client) (o : ConnStep) :
    (b.handle c o).conns.lookup c = some (client.after o) := by
  cases o with
  | deliver room topic payload qos hq now =>
    exact lookup_deliverBuffered hc room topic payload hq now
  | puback data =>
    rw [handle, handlePuback, Client.after]
    cases decodePubackPacket data 4 with
    | error err => exact hc
    | ok pkt => exact lookup_modifyClient hc _
  | pubrec data =>
    rw [handle, handlePubrec, Client.after]
    cases decodePubrecPacket data 4 with
    | error err => exact hc
    | ok pkt => exact lookup_send_eq (lookup_modifyClient hc _) _

/-! ### The ledger and the connection -/

/-- The ledger tells what the connection holds. -/
structure Agrees (client : Client) (l : Ledger) : Prop where
  packetIDs : client.packetIDs = packetIDOf l.deliveries
  numbers : ∀ m ∈ l.unacked, 0 < m ∧ m ≤ l.deliveries
  inflight : ∀ id, id ∈ client.inflight.messages ↔ ∃ m ∈ l.unacked, packetIDOf m = id
  count : (client.inflight.messages.entries.length : ℤ) ≤ client.inflight.limit

namespace Agrees

variable {client : Client} {l : Ledger}

lemma nextID (h : Agrees client l) : client.nextID = packetIDOf (l.deliveries + 1) := by
  rw [Client.nextID, h.packetIDs, nextPacketID_packetIDOf]

/-- The next packet ID is in use if and only if an unacknowledged delivery is a multiple of
65535 deliveries back. -/
lemma nextID_notMem_iff (h : Agrees client l) :
    client.nextID ∉ client.inflight.messages ↔
      ∀ m ∈ l.unacked, ¬ 65535 ∣ l.deliveries + 1 - m := by
  rw [h.inflight, h.nextID]
  constructor
  · intro hno m hm hdvd
    obtain ⟨hpos, hle⟩ := h.numbers m hm
    exact hno ⟨m, hm, (packetIDOf_eq_iff hpos (by omega)).2 hdvd⟩
  · rintro hno ⟨m, hm, heq⟩
    obtain ⟨hpos, hle⟩ := h.numbers m hm
    exact hno m hm ((packetIDOf_eq_iff hpos (by omega)).1 heq)

lemma length_le (h : Agrees client l) :
    client.inflight.messages.entries.length ≤ l.unacked.length := by
  have hsub : client.inflight.messages.keys ⊆ l.unacked.map packetIDOf := by
    intro id hid
    obtain ⟨m, hm, rfl⟩ := (h.inflight id).1 hid
    exact List.mem_map_of_mem hm
  have hle := (List.subperm_of_subset client.inflight.messages.nodupKeys hsub).length_le
  simpa [AList.keys, List.keys] using hle

lemma deliver (h : Agrees client l) (room : Bool) (topic : Str) (payload : Bytes) {qos : UInt8}
    (hq : 0 < qos) (now : ℤ) :
    Agrees (client.after (.deliver room topic payload qos hq now))
      (l.deliver (decide client.Accepts)) := by
  have hids : (client.after (.deliver room topic payload qos hq now)).packetIDs =
      packetIDOf (l.deliveries + 1) := by
    rw [Client.packetIDs_after_deliver, h.nextID]
  by_cases hacc : client.Accepts
  · have hmsgs : (client.after (.deliver room topic payload qos hq now)).inflight.messages = _ :=
      (congrArg InflightStore.messages
        (Client.inflight_after_deliver room topic payload hq now)).trans
        (Client.inflight_record_of_accepts hacc topic payload qos now)
    refine ⟨hids, ?_, ?_, ?_⟩
    · intro m hm
      simp only [Ledger.deliver, hacc, decide_true, if_true, List.mem_append,
        List.mem_singleton] at hm ⊢
      rcases hm with hm | rfl
      · have := h.numbers m hm
        omega
      · omega
    · intro id
      rw [hmsgs, AList.mem_insert, h.inflight, h.nextID]
      simp [Ledger.deliver, hacc, or_comm, or_and_right, exists_or, eq_comm]
    · rw [hmsgs, Client.limit_after, AList.entries_insert, List.length_cons]
      have hle := (List.kerase_sublist client.nextID client.inflight.messages.entries).length_le
      rw [Client.Accepts] at hacc
      omega
  · have hsame : (client.after (.deliver room topic payload qos hq now)).inflight =
        client.inflight :=
      (Client.inflight_after_deliver room topic payload hq now).trans
        (Client.inflight_record_of_not_accepts hacc topic payload qos now)
    refine ⟨hids, ?_, ?_, ?_⟩
    · intro m hm
      simp only [Ledger.deliver, hacc, decide_false, Bool.false_eq_true, if_false] at hm ⊢
      have := h.numbers m hm
      omega
    · simpa [hsame, Ledger.deliver, hacc] using h.inflight
    · rw [hsame]
      exact h.count

lemma acknowledge (h : Agrees client l) {client' : Client} {packetID : UInt16}
    (hids : client'.packetIDs = client.packetIDs)
    (hmsgs : client'.inflight = client.inflight.remove packetID) :
    Agrees client' (l.acknowledge packetID) := by
  refine ⟨hids.trans h.packetIDs, ?_, ?_, ?_⟩
  · intro m hm
    exact h.numbers m (List.mem_filter.1 hm).1
  · intro id
    rw [hmsgs, InflightStore.remove, AList.mem_erase, h.inflight]
    simp only [Ledger.acknowledge, List.mem_filter, decide_eq_true_eq]
    constructor
    · rintro ⟨hne, m, hm, rfl⟩
      exact ⟨m, ⟨hm, hne⟩, rfl⟩
    · rintro ⟨m, ⟨hm, hne⟩, rfl⟩
      exact ⟨hne, m, hm, rfl⟩
  · have hle : (client.inflight.messages.erase packetID).entries.length ≤ _ :=
      (List.kerase_sublist packetID client.inflight.messages.entries).length_le
    have hcount := h.count
    simp only [hmsgs, InflightStore.remove]
    omega

lemma after (h : Agrees client l) (o : ConnStep) :
    Agrees (client.after o) (l.after (decide client.Accepts) o) := by
  cases ho : o.isDelivery with
  | true =>
    cases o with
    | deliver room topic payload qos hq now => exact h.deliver room topic payload hq now
    | _ => cases ho
  | false =>
    rw [Ledger.after, ho, if_neg (by simp)]
    rcases client.after_ack ho with ⟨hack, heq⟩ | ⟨packetID, hack, hids, hmsgs, -⟩ <;> rw [hack]
    · rwa [heq]
    · exact h.acknowledge hids hmsgs

end Agrees

/-! ### Runs -/

/-- A broker with the ledger of one of its connections. -/
structure Numbered (σ ρ : Type) where
  broker : BrokerState σ ρ
  ledger : Ledger

namespace Numbered

variable {σ ρ : Type} {c : ℕ}

/-- A broker with a connection on which nothing was delivered yet. -/
def start (b : BrokerState σ ρ) : Numbered σ ρ := ⟨b, ⟨0, []⟩⟩

/-- A delivery on the connection would be accepted. -/
def accepts (c : ℕ) (s : Numbered σ ρ) : Bool :=
  (s.broker.conns.lookup c).any fun client => client.Accepts

/-- A step of the connection. -/
def step (c : ℕ) (s : Numbered σ ρ) (o : ConnStep) : Numbered σ ρ :=
  ⟨s.broker.handle c o, s.ledger.after (s.accepts c) o⟩

/-- If the step is a delivery that is accepted, then its packet ID is not in use. -/
def Fresh (c : ℕ) (s : Numbered σ ρ) (o : ConnStep) : Prop :=
  o.isDelivery = true → ∀ client, s.broker.conns.lookup c = some client → client.Accepts →
    client.nextID ∉ client.inflight.messages

/-- If the step is a delivery that is accepted, then no unacknowledged delivery is a multiple of
65535 deliveries back. -/
def Timely (c : ℕ) (s : Numbered σ ρ) (o : ConnStep) : Prop :=
  o.isDelivery = true → s.accepts c = true →
    ∀ m ∈ s.ledger.unacked, ¬ 65535 ∣ s.ledger.deliveries + 1 - m

instance decidableTimely (c : ℕ) (s : Numbered σ ρ) (o : ConnStep) : Decidable (s.Timely c o) :=
  inferInstanceAs (Decidable (_ → _ → ∀ m ∈ s.ledger.unacked, ¬ _ ∣ _))

/-- What holds in every run of a connection that had the limit `limit` and had sent `sent`. -/
def Inv (c : ℕ) (limit : ℤ) (sent : List Outgoing) (s : Numbered σ ρ) : Prop :=
  ∃ client, s.broker.conns.lookup c = some client ∧ Agrees client s.ledger ∧
    client.inflight.limit = limit ∧ ∃ new, client.sent = sent ++ new ∧
      ∀ pkt, Outgoing.publish pkt ∈ new → pkt.packetID ≠ 0

variable {sent : List Outgoing} {s : Numbered σ ρ} {limit : ℤ}

lemma Inv.step (h : Inv c limit sent s) (o : ConnStep) : Inv c limit sent (s.step c o) := by
  obtain ⟨client, hc, hag, hlimit, new, hsent, hnew⟩ := h
  obtain ⟨new', hsent', hnew'⟩ := client.sent_after o
  have hacc : s.accepts c = decide client.Accepts := by rw [accepts, hc, Option.any_some]
  refine ⟨client.after o, BrokerState.lookup_handle hc o, ?_, ?_, new ++ new', ?_, ?_⟩
  · rw [Numbered.step, hacc]
    exact hag.after o
  · rw [Client.limit_after, hlimit]
  · rw [hsent', hsent, List.append_assoc]
  · intro pkt hpkt
    rcases List.mem_append.1 hpkt with hpkt | hpkt
    · exact hnew pkt hpkt
    · exact hnew' pkt hpkt

lemma Inv.accepts_of_lt (h : Inv c limit sent s) (hlen : s.ledger.unacked.length < limit) :
    s.accepts c = true := by
  obtain ⟨client, hc, hag, hlimit, -⟩ := h
  have hle := hag.length_le
  rw [accepts, hc, Option.any_some, decide_eq_true_eq, Client.Accepts, hlimit]
  omega

lemma broker_foldl_step (s : Numbered σ ρ) (os : List ConnStep) :
    (os.foldl (step c) s).broker = os.foldl (fun b o => b.handle c o) s.broker :=
  (List.foldl_hom broker fun _ _ => rfl).symm

lemma Inv.fresh_iff_timely (h : Inv c limit sent s) (o : ConnStep) :
    s.Fresh c o ↔ s.Timely c o := by
  obtain ⟨client, hc, hag, -⟩ := h
  have hacc : s.accepts c = true ↔ client.Accepts := by
    rw [accepts, hc, Option.any_some, decide_eq_true_eq]
  rw [Fresh, Timely, hacc, ← hag.nextID_notMem_iff, hc]
  simp only [Option.some.injEq, forall_eq']

/-- **The packet IDs of a connection.**  In every run of deliveries, PUBACKs and PUBRECs on a
new connection: no PUBLISH with the packet ID zero is sent, the number of messages in flight
stays within the limit, and no accepted delivery gets the packet ID of an unacknowledged one,
if and only if at no accepted delivery an unacknowledged one is a multiple of 65535 deliveries
back. -/
theorem packetIDs_run (b : BrokerState σ ρ) (c : ℕ) (client : Client)
    (hc : b.conns.lookup c = some client) (hids : client.packetIDs = 0)
    (hempty : client.inflight.messages = ∅) (hlimit : 0 ≤ client.inflight.limit)
    (os : List ConnStep) :
    (∀ pkt, Outgoing.publish pkt ∈ b.sentSince (os.foldl (fun b o => b.handle c o) b) c →
      pkt.packetID ≠ 0) ∧
    (∃ client', (os.foldl (fun b o => b.handle c o) b).conns.lookup c = some client' ∧
      (client'.inflight.messages.entries.length : ℤ) ≤ client.inflight.limit) ∧
    ((∀ x ∈ trace (step c) (start b) os, Fresh c x.1 x.2) ↔
      ∀ x ∈ trace (step c) (start b) os, Timely c x.1 x.2) := by
  have hstart : Inv c client.inflight.limit client.sent (start b) := by
    refine ⟨client, hc, ⟨hids, by simp [start], ?_, ?_⟩, rfl, [], by simp⟩
    · simp [hempty, start]
    · simpa [hempty] using hlimit
  have hinv : ∀ x ∈ trace (step c) (start b) os, Inv c client.inflight.limit client.sent x.1 :=
    trace_invariant _ (fun _ _ => True) (fun s o h _ => h.step o) hstart fun _ _ => trivial
  have hend : Inv c client.inflight.limit client.sent (os.foldl (step c) (start b)) :=
    foldl_invariant _ (fun _ _ => True) (fun s o h _ => h.step o) hstart fun _ _ => trivial
  obtain ⟨client', hc', hag, hlim, new, hsent, hnew⟩ := hend
  have hbroker : (os.foldl (step c) (start b)).broker = os.foldl (fun b o => b.handle c o) b :=
    broker_foldl_step _ _
  rw [hbroker] at hc'
  refine ⟨?_, ⟨client', hc', hlim ▸ hag.count⟩, ?_⟩
  · rw [BrokerState.sentSince_eq hc hc' hsent]
    exact hnew
  · exact forall₂_congr fun x hx => (hinv x hx).fresh_iff_timely x.2

/-! ### A slow acknowledgement -/

/-- A delivery of QoS 1. -/
def delivery : ConnStep := .deliver true (str "t") [0x2A] 1 (by decide) 1

/-- The PUBACK of a packet ID. -/
def pubackOf (packetID : UInt16) : ConnStep :=
  .puback (AckPacket.body { packetID, protocolVersion := 4 })

lemma acked_pubackOf (packetID : UInt16) : (pubackOf packetID).acked = some packetID := by
  have hlen : (AckPacket.body { packetID, protocolVersion := 4 }).length ≤ maxRemainingLength := by
    change 2 ≤ _
    decide
  have hprops : PropertiesFit none := by decide
  have hdecode := decodeAck_body (p := { packetID, protocolVersion := 4 })
    "PUBACK packet too short" hprops hlen
  have hdecoded : AckPacket.decoded { packetID, protocolVersion := 4 } =
      { packetID, protocolVersion := 4 } := rfl
  rw [pubackOf, ConnStep.acked, decodePubackPacket, hdecode, hdecoded]
  rfl

theorem packetIDs_run_sample :
    let os := [delivery, delivery, pubackOf 1, delivery]
    let b := BrokerState.resumedBroker 0
    (∀ x ∈ trace (step 1) (start b) os, Fresh 1 x.1 x.2) ∧
    (os.foldl (step 1) (start b)).ledger.unacked = [2, 3] :=
  ⟨(packetIDs_run (BrokerState.resumedBroker 0) 1 BrokerState.persistentClient rfl rfl rfl
    (by decide) [delivery, delivery, pubackOf 1, delivery]).2.2.2 (by decide), by decide⟩

/-- A message that is not acknowledged while `k` others are delivered and acknowledged. -/
def slowRun (k : ℕ) : List ConnStep :=
  delivery :: (List.range k).flatMap fun i => [delivery, pubackOf (packetIDOf (i + 2))]

/-- One delivery that is acknowledged at once, while the first one is not. -/
lemma ledger_step_step (h : Inv c 20 sent s) {n : ℕ} (hn : 0 < n) (hn' : n < 65535)
    (hl : s.ledger = ⟨n, [1]⟩) :
    ((s.step c delivery).step c (pubackOf (packetIDOf (n + 1)))).ledger = ⟨n + 1, [1]⟩ := by
  have hacc : s.accepts c = true := h.accepts_of_lt (by simp [hl])
  have hne : packetIDOf 1 ≠ packetIDOf (n + 1) := fun heq => by
    have := (packetIDOf_eq_iff Nat.one_pos (by omega)).1 heq
    omega
  have hone : (s.step c delivery).ledger = ⟨n + 1, [1, n + 1]⟩ := by
    rw [step, hacc, hl]
    rfl
  rw [step, Ledger.after, hone, acked_pubackOf, if_neg (by simp [pubackOf, ConnStep.isDelivery])]
  simp [Ledger.acknowledge, hne]

/-- After `slowRun` the first delivery is the only unacknowledged one. -/
lemma ledger_slowRun {b : BrokerState σ ρ} (h : Inv c 20 sent (start b)) {k : ℕ} (hk : k ≤ 65534) :
    Inv c 20 sent ((slowRun k).foldl (step c) (start b)) ∧
      ((slowRun k).foldl (step c) (start b)).ledger = ⟨k + 1, [1]⟩ := by
  refine ⟨List.foldlRecOn _ _ h fun _ h o _ => h.step o, ?_⟩
  induction k with
  | zero =>
    have hacc : (start b).accepts c = true := h.accepts_of_lt (by simp [start])
    change ((start b).step c delivery).ledger = _
    rw [step, hacc]
    rfl
  | succ k ih =>
    have hrun : slowRun (k + 1) = slowRun k ++ [delivery, pubackOf (packetIDOf (k + 2))] := by
      simp [slowRun, List.range_succ]
    have hinv : Inv c 20 sent ((slowRun k).foldl (step c) (start b)) :=
      List.foldlRecOn _ _ h fun _ h o _ => h.step o
    rw [hrun, List.foldl_append]
    exact ledger_step_step hinv (by omega) (by omega) (ih (by omega))

/-- If the first message is not acknowledged while 65534 others are, then the next one gets its
packet ID. -/
theorem packetID_reused :
    ∃ client, ((slowRun 65534).foldl (fun b o => b.handle 1 o)
        (BrokerState.resumedBroker 0)).conns.lookup 1 = some client ∧
      client.Accepts ∧ client.nextID = 1 ∧ client.nextID ∈ client.inflight.messages := by
  have hstart : Inv 1 20 BrokerState.persistentClient.sent
      (start (BrokerState.resumedBroker 0)) :=
    ⟨BrokerState.persistentClient, rfl, ⟨rfl, by simp [start], by simp [start,
      BrokerState.persistentClient], by decide⟩, rfl, [], by simp⟩
  obtain ⟨⟨client, hc, hag, hlimit, -⟩, hl⟩ := ledger_slowRun hstart le_rfl
  rw [hl] at hag
  have hlen : _ ≤ 1 := hag.length_le
  have hnext : client.nextID = 1 := by
    rw [hag.nextID]
    decide
  rw [broker_foldl_step] at hc
  refine ⟨client, hc, ?_, hnext, ?_⟩
  · rw [Client.Accepts, hlimit]
    omega
  · rw [hnext, hag.inflight]
    exact ⟨1, List.mem_singleton_self _, by decide⟩

end Numbered

end Dmqtt.Broker
