/-
PUBLISH packets of version 5.

A PUBLISH of version 5 has a property section, which is one byte long at least.
`handlePublish` decodes every PUBLISH as one of version 4, so the section ends up in front of
the payload; `deliverMessage` sends every PUBLISH without a section, so a client of version 5
looks for one in the payload.  `publish_v5_iff` says that nothing that is routed, retained or
sent escapes this.
-/
import Dmqtt.Codec.Bounds
import Dmqtt.Broker.Delivery

namespace Dmqtt.Broker.BrokerState

open Lib Codec Plugin

variable {σ ε ρ : Type} (cfg : Config σ ε ρ) (b : BrokerState σ ρ)

/-- What is retained, given to the interceptors, or routed if there are none, between `b` and
`b'` has the topic and the payload of the packet `p`. -/
structure Conveys (b' : BrokerState σ ρ) (p : PublishPacket) : Prop where
  retained : ∀ topic payload qos, Call.retainSet topic payload qos ∈ b.callsSince b' →
    topic = p.topic ∧ payload = p.payload
  intercepted : ∀ evt accepted, Call.onPublish evt accepted ∈ b.callsSince b' →
    evt.topic = p.topic ∧ evt.payload = p.payload
  routed : b.interceptors = none → ∀ topic payload qos retain forwarded,
    Call.routeMessage topic payload qos retain forwarded ∈ b.callsSince b' →
      topic = p.topic ∧ payload = p.payload

/-- A client of version 5 that receives the packet finds the topic and the payload in it. -/
def DecodesTo (pkt : PublishPacket) (topic : Str) (payload : Bytes) : Prop :=
  ∃ q, decodePublishPacket pkt.body pkt.qos 5 = .ok q ∧ q.topic = topic ∧ q.payload = payload

/-! ### Lengths -/

lemma one_le_length_encode (props : Option Properties) : 1 ≤ (Properties.encode props).length := by
  cases props with
  | none => exact le_rfl
  | some p =>
    have h := Base128.length_encode_pos p.body.length
    rw [Properties.encode, encodeVarInt, List.length_append]
    omega

lemma length_body (p : PublishPacket) :
    p.body.length = 2 + p.topic.length + (if 0 < p.qos then 2 else 0) + p.propsData.length +
      p.payload.length := by
  have hid : p.idBytes.length = if 0 < p.qos then 2 else 0 := by
    rw [PublishPacket.idBytes]
    split_ifs <;> rfl
  simp only [PublishPacket.body, List.length_append, length_lengthPrefixed, hid]

/-- Read as version 4, a PUBLISH of version 5 has another topic or a longer payload. -/
lemma ne_of_decodePublishPacket_four {p pkt : PublishPacket} (hp : p.protocolVersion = 5)
    (h : decodePublishPacket p.body p.qos 4 = .ok pkt) :
    ¬ (pkt.topic = p.topic ∧ pkt.payload = p.payload) := by
  rintro ⟨htopic, hpayload⟩
  obtain ⟨n, -, hn, hlen⟩ := (reads_decodePublishPacket p.qos 4).of_eq_ok h
  have hprops : 1 ≤ p.propsData.length := by
    rw [PublishPacket.propsData, if_pos hp]
    exact one_le_length_encode _
  have h₀ : n = 0 := hn (by decide)
  rw [length_body, htopic, hpayload] at hlen
  omega

/-- Read as version 5, a PUBLISH without a property section has another topic or a shorter
payload. -/
lemma not_decodesTo {pkt : PublishPacket} (hp : pkt.protocolVersion ≠ 5) :
    ¬ DecodesTo pkt pkt.topic pkt.payload := by
  rintro ⟨q, h, htopic, hpayload⟩
  obtain ⟨n, hn, -, hlen⟩ := (reads_decodePublishPacket pkt.qos 5).of_eq_ok h
  have hprops : pkt.propsData = [] := by rw [PublishPacket.propsData, if_neg hp]
  have h₁ : 1 ≤ n := hn rfl
  rw [length_body, hprops, htopic, hpayload, List.length_nil] at hlen
  omega

/-! ### What is routed and what is sent -/

variable {b}

/-- A PUBLISH that gets past the checks is routed, or given to the interceptors if there are
any. -/
lemma exists_mem_calls_storeAndRoute (client : Client) (fh : FixedHeader) (pkt : PublishPacket)
    (now : ℤ) :
    ∃ new, (b.storeAndRoute cfg client fh pkt now).calls = b.calls ++ new ∧
      ((b.interceptors = none ∧
          Call.routeMessage pkt.topic pkt.payload fh.qos fh.retain false ∈ new) ∨
        ∃ accepted, Call.onPublish (publishEvent client fh pkt) accepted ∈ new) := by
  cases hs : b.interceptors with
  | none =>
    exact ⟨_, calls_storeAndRoute_none cfg hs client fh pkt now, Or.inl (by simp)⟩
  | some s =>
    refine ⟨_, (calls_storeAndRoute cfg hs client fh pkt now).1, Or.inr ?_⟩
    rw [publishCalls, routingCalls]
    cases (cfg.hooks.onPublish (publishEvent client fh pkt, s)).1 with
    | error err => exact ⟨none, by simp⟩
    | ok u => exact ⟨some (cfg.hooks.onPublish (publishEvent client fh pkt, s)).2.1, by simp⟩

/-- What `handlePublish` makes of a PUBLISH of version 5 has its topic and payload only if it
makes nothing of it. -/
lemma conveys_iff {c : ℕ} {p : PublishPacket} (hp : p.protocolVersion = 5) (now : ℤ) :
    b.Conveys (b.handlePublish cfg c p.fixedHeader p.body now) p ↔
      ∀ client pkt, ¬ Passes cfg b c p.fixedHeader p.body now client pkt := by
  rcases handlePublish_cases cfg b c p.fixedHeader p.body now with ⟨hcalls, -, -, hno⟩ | h
  · have hnil : b.callsSince (b.handlePublish cfg c p.fixedHeader p.body now) = [] :=
      callsSince_eq (by rw [hcalls, List.append_nil])
    refine iff_of_true ?_ hno
    constructor <;> simp [hnil]
  · obtain ⟨client, pkt, b₁, hpass, hcalls, -, hint, heq⟩ := h
    refine iff_of_false (fun hconv => ?_) fun h => h client pkt hpass
    have hne := ne_of_decodePublishPacket_four hp hpass.decoded
    obtain ⟨new, hnew, hmem⟩ :=
      exists_mem_calls_storeAndRoute cfg (b := b₁) client p.fixedHeader pkt now
    rw [hcalls] at hnew
    rw [heq] at hconv
    have hsince := callsSince_eq hnew
    rcases hmem with ⟨hnone, hmem⟩ | ⟨accepted, hmem⟩
    · exact hne (hconv.routed (hint.symm.trans hnone) _ _ _ _ _ (hsince ▸ hmem))
    · exact hne (hconv.intercepted _ _ (hsince ▸ hmem))

/-- What `deliverMessage` sends can be read by a client of version 5 only if it sends nothing. -/
lemma sent_decodesTo_iff {c : ℕ} {client : Client} (hc : b.conns.lookup c = some client)
    (topic : Str) (payload : Bytes) (qos : UInt8) (now : ℤ) :
    (∀ pkt, Outgoing.publish pkt ∈ b.sentSince (b.deliverMessage c topic payload qos now) c →
      DecodesTo pkt topic payload) ↔ ¬ Sendable client qos := by
  constructor
  · intro h hsend
    have hpkt := h _ ((mem_sentSince_deliverMessage hc topic payload qos now _).2 ⟨hsend, rfl⟩)
    have hversion : (0 : UInt8) ≠ 5 := by decide
    exact not_decodesTo hversion hpkt
  · intro hsend pkt hmem
    exact absurd ((mem_sentSince_deliverMessage hc topic payload qos now _).1 hmem).1 hsend

/-- **Version 5 on the publish path.**  For every connection, every PUBLISH that is encoded for
version 5 and every message to deliver: `handlePublish` routes and retains the topic and the
payload of the PUBLISH only if a check stops it, so that nothing is routed or retained; and
what `deliverMessage` sends decodes to the message under version 5 only if nothing is sent. -/
theorem publish_v5_iff (b : BrokerState σ ρ) (c : ℕ) (client : Client)
    (hc : b.conns.lookup c = some client) (p : PublishPacket) (hp : p.protocolVersion = 5)
    (topic : Str) (payload : Bytes) (qos : UInt8) (now : ℤ) :
    (b.Conveys (b.handlePublish cfg c p.fixedHeader p.body now) p ↔
      ∀ client pkt, ¬ Passes cfg b c p.fixedHeader p.body now client pkt) ∧
    ((∀ pkt, Outgoing.publish pkt ∈ b.sentSince (b.deliverMessage c topic payload qos now) c →
      DecodesTo pkt topic payload) ↔ ¬ Sendable client qos) :=
  ⟨conveys_iff cfg hp now, sent_decodesTo_iff hc topic payload qos now⟩

/-! ### A client of version 5 -/

/-- The CONNECT of a client of version 5. -/
def connectV5 : ConnectPacket where
  protocolName := str "MQTT"
  protocolLevel := 5
  cleanSession := true
  clientID := str "five"

/-- The broker once the client is connected. -/
def brokerV5 : BrokerState TenantChain Unit :=
  ((BrokerState.accept sampleConfig (.new () none) 0).handleConnect sampleConfig 0 connectV5 1).2

/-- A PUBLISH of the client. -/
def publishV5 : PublishPacket where
  topic := str "t"
  packetID := 1
  qos := 2
  payload := [0x2A]
  protocolVersion := 5

/-- The connection of the client after the PUBLISH. -/
def clientV5 : Client where
  clientID := str "five"
  username := []
  will := none
  packetIDs := 0
  inflight := ⟨∅, 20⟩
  protocolVersion := 5
  closed := false
  sent := [.connack { returnCode := connackAccepted, protocolVersion := 5 }, .pubrec 1]

/-- The second time, the PUBLISH is a duplicate. -/
theorem publish_v5_iff_sample :
    let b := brokerV5.handlePublish sampleConfig 0 publishV5.fixedHeader publishV5.body 2
    b.Conveys (b.handlePublish sampleConfig 0 publishV5.fixedHeader publishV5.body 3)
        publishV5 ∧
      ¬ ∀ pkt, Outgoing.publish pkt ∈ b.sentSince (b.deliverMessage 0 (str "t") [0x2A] 0 3) 0 →
        DecodesTo pkt (str "t") [0x2A] := by
  have h := publish_v5_iff sampleConfig
    (brokerV5.handlePublish sampleConfig 0 publishV5.fixedHeader publishV5.body 2) 0 clientV5 rfl
    publishV5 rfl (str "t") [0x2A] 0 3
  refine ⟨h.1.2 fun client pkt hpass => ?_, fun hsent => h.2.1 hsent ⟨rfl, by decide⟩⟩
  obtain rfl : clientV5 = client := Option.some_injective _ hpass.conn
  obtain rfl : PublishPacket.mk (str "t") 1 2 false false [0x00, 0x2A] none 4 = pkt :=
    Except.ok.inj hpass.decoded
  exact absurd (hpass.fresh rfl) (by decide)

/-- The empty property section of the PUBLISH is routed as part of its payload, and the client
cannot decode what is sent to it. -/
theorem publish_v5_not_conveyed :
    (brokerV5.conns.lookup 0).map Client.protocolVersion = some 5 ∧
    brokerV5.callsSince
      (brokerV5.handlePublish sampleConfig 0 publishV5.fixedHeader publishV5.body 2) =
        [.routeMessage (str "t") [0x00, 0x2A] 2 false false] ∧
    ¬ brokerV5.Conveys
      (brokerV5.handlePublish sampleConfig 0 publishV5.fixedHeader publishV5.body 2) publishV5 ∧
    brokerV5.sentSince (brokerV5.deliverMessage 0 (str "t") [0x2A] 0 2) 0 =
      [.publish { topic := str "t", payload := [0x2A] }] ∧
    ¬ DecodesTo { topic := str "t", payload := [0x2A] } (str "t") [0x2A] := by
  have hcalls : brokerV5.callsSince
      (brokerV5.handlePublish sampleConfig 0 publishV5.fixedHeader publishV5.body 2) =
        [.routeMessage (str "t") [0x00, 0x2A] 2 false false] := by decide
  refine ⟨rfl, hcalls, fun h => ?_, by decide, ?_⟩
  · have hpayload := (h.routed rfl _ _ _ _ _ (hcalls ▸ List.mem_singleton_self _)).2
    exact absurd hpayload (by decide)
  · rintro ⟨q, hq, -⟩
    have herr : (decodePublishPacket (PublishPacket.body
        { topic := str "t", payload := [0x2A] }) 0 5).toOption = none := by decide
    have hq' : decodePublishPacket (PublishPacket.body
        { topic := str "t", payload := [0x2A] }) 0 5 = .ok q := hq
    rw [hq'] at herr
    cases herr

end Dmqtt.Broker.BrokerState
