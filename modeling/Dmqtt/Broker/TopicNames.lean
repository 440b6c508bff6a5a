/-
The topics on which PUBLISH packets are routed and retained.

`TopicValid` says which topics a PUBLISH may have, but nothing calls it: the decoder takes the bytes
of the topic as they are, `handlePublish` passes them on, and so does the retain store.
`published_names_valid_iff` says what has to hold of the packets and of the interceptors for
the topics to be valid all the same.
-/
import Dmqtt.Broker.Authorization

namespace Dmqtt.Broker

open Lib Codec Plugin

/-- A PUBLISH of a connection, with the instant at which it is handled. -/
structure Publication where
  c : ℕ
  fh : FixedHeader
  data : Bytes
  now : ℤ

/-- Every topic that has a retained message is valid. -/
def RetainStore.NamesValid (rs : RetainStore) : Prop :=
  ∀ topic ∈ rs.messages, topicValid topic = true

namespace BrokerState

variable {σ ε ρ : Type} (cfg : Config σ ε ρ) (b : BrokerState σ ρ)

/-- One PUBLISH of a run. -/
def publish (p : Publication) : BrokerState σ ρ := b.handlePublish cfg p.c p.fh p.data p.now

/-- The topics on which a PUBLISH is routed and retained are valid. -/
def NamesValid (p : Publication) : Prop :=
  ∀ topic ∈ emittedTopics (b.callsSince (b.publish cfg p)), topicValid topic = true

/-- The condition on a PUBLISH that gets past the checks: its topic is valid if it is to be
retained or if there are no interceptors, and the interceptors leave a valid topic or reject. -/
def WellNamed (p : Publication) : Prop :=
  ∀ client pkt, Passes cfg b p.c p.fh p.data p.now client pkt →
    (p.fh.retain = true ∨ b.interceptors = none → topicValid pkt.topic = true) ∧
    ∀ s, b.interceptors = some s →
      (cfg.hooks.onPublish (publishEvent client p.fh pkt, s)).1 = .ok () →
      topicValid (cfg.hooks.onPublish (publishEvent client p.fh pkt, s)).2.1.topic = true

/-! ### One PUBLISH -/

variable {b}

lemma namesValid_iff (p : Publication) : NamesValid cfg b p ↔ WellNamed cfg b p := by
  rcases handlePublish_cases cfg b p.c p.fh p.data p.now with ⟨hcalls, -, -, hno⟩ | h
  · refine iff_of_true ?_ fun client pkt hp => absurd hp (hno client pkt)
    rw [NamesValid, publish, callsSince_eq (hcalls.trans (List.append_nil _).symm)]
    intro topic ht
    cases ht
  obtain ⟨client, pkt, b₁, hp, hcalls, -, hint, heq⟩ := h
  obtain ⟨new, hnew, htopics⟩ := b₁.topics_storeAndRoute cfg client p.fh pkt p.now
  rw [hcalls, ← heq] at hnew
  rw [NamesValid, publish, callsSince_eq hnew, htopics]
  simp only [List.mem_append, mem_routedTopics, hint, topic_publishEvent]
  constructor
  · intro h client' pkt' hp'
    obtain ⟨rfl, rfl⟩ := hp.unique hp'
    refine ⟨?_, fun s hs hok => h _ (Or.inr (Or.inr ⟨s, hs, hok, rfl⟩))⟩
    rintro (hretain | hnone)
    · exact h _ (Or.inl (by simp [hretain]))
    · exact h _ (Or.inr (Or.inl ⟨hnone, rfl⟩))
  · intro h topic ht
    obtain ⟨hown, hleft⟩ := h client pkt hp
    rcases ht with ht | ⟨hnone, rfl⟩ | ⟨s, hs, hok, rfl⟩
    · split_ifs at ht with hretain
      · rw [List.mem_singleton.1 ht]
        exact hown (Or.inl hretain)
      · cases ht
    · exact hown (Or.inr hnone)
    · exact hleft s hs hok

lemma retainStore_interceptAndRoute (b : BrokerState σ ρ) (evt : PublishEvent) (now : ℤ) :
    (b.interceptAndRoute cfg evt now).retainStore = b.retainStore := by
  cases hs : b.interceptors with
  | none =>
    rw [interceptAndRoute, hs]
    exact retainStore_routeMessage ..
  | some s => exact (calls_interceptAndRoute cfg hs evt now).2

lemma mem_messages_set {rs : RetainStore} {topic topic' : Str} {payload : Bytes} {qos : UInt8}
    (h : topic' ∈ (rs.set topic payload qos).messages) : topic' = topic ∨ topic' ∈ rs.messages := by
  rw [RetainStore.set] at h
  split_ifs at h
  · exact Or.inr (AList.mem_erase.1 h).2
  · exact AList.mem_insert _ |>.1 h

/-- A PUBLISH retains a message under its own topic. -/
lemma mem_messages_publish {p : Publication} {topic : Str}
    (h : topic ∈ (b.publish cfg p).retainStore.messages) :
    topic ∈ b.retainStore.messages ∨ ∃ client pkt,
      Passes cfg b p.c p.fh p.data p.now client pkt ∧ p.fh.retain = true ∧ topic = pkt.topic := by
  rw [publish] at h
  rcases handlePublish_cases cfg b p.c p.fh p.data p.now with ⟨-, hretain, -, -⟩ | hpasses
  · rw [hretain] at h
    exact Or.inl h
  obtain ⟨client, pkt, b₁, hp, -, hretain, -, heq⟩ := hpasses
  rw [heq, storeAndRoute, retainStore_interceptAndRoute] at h
  split_ifs at h with hflag
  · rcases mem_messages_set h with rfl | hmem
    · exact Or.inr ⟨client, pkt, hp, hflag, rfl⟩
    · exact Or.inl (hretain ▸ hmem)
  · exact Or.inl (hretain ▸ h)

lemma retained_namesValid_publish {p : Publication} (hb : b.retainStore.NamesValid)
    (hp : WellNamed cfg b p) : (b.publish cfg p).retainStore.NamesValid := by
  intro topic ht
  rcases mem_messages_publish cfg ht with hmem | ⟨client, pkt, hpasses, hretain, rfl⟩
  · exact hb topic hmem
  · exact (hp client pkt hpasses).1 (Or.inl hretain)

/-! ### Runs -/

/-- **When only valid topic names enter the broker.**  In a run of PUBLISH packets of any clients,
the topics on which messages are routed and retained are valid exactly if every PUBLISH that gets
past the checks is well named; and then every topic with a retained message is valid, if that
was so before the run. -/
theorem published_names_valid_iff (b : BrokerState σ ρ) (ps : List Publication) :
    ((∀ x ∈ trace (publish cfg) b ps, NamesValid cfg x.1 x.2) ↔
      ∀ x ∈ trace (publish cfg) b ps, WellNamed cfg x.1 x.2) ∧
    (b.retainStore.NamesValid → (∀ x ∈ trace (publish cfg) b ps, WellNamed cfg x.1 x.2) →
      (ps.foldl (publish cfg) b).retainStore.NamesValid) :=
  ⟨forall₂_congr fun x _ => namesValid_iff cfg x.2, fun hb h =>
    foldl_invariant (fun b => b.retainStore.NamesValid) (WellNamed cfg)
      (fun _ _ hb hp => retained_namesValid_publish cfg hb hp) hb h⟩

/-- A client is connected to a broker without interceptors. -/
def openBroker : BrokerState TenantChain Unit :=
  { connectedBroker false with interceptors := none }

/-- A retained PUBLISH of the topic `a/#`. -/
def wildcardPublish : Publication where
  c := 0
  fh := { packetType := PUBLISH, retain := true, remainingLength := 6 }
  data := [0, 3, 0x61, 0x2F, 0x23, 0x2A]
  now := 1

/-- The message is retained and routed on `a/#`, as if that were the name of a topic. -/
theorem wildcard_name_published :
    topicValid (str "a/#") = false ∧
    openBroker.callsSince (openBroker.publish sampleConfig wildcardPublish) =
      [.retainSet (str "a/#") [0x2A] 0, .routeMessage (str "a/#") [0x2A] 0 true false] ∧
    (openBroker.publish sampleConfig wildcardPublish).retainStore.messages.lookup (str "a/#") =
      some ⟨str "a/#", [0x2A], 0⟩ ∧
    ¬ ∀ x ∈ trace (publish sampleConfig) openBroker [wildcardPublish],
      NamesValid sampleConfig x.1 x.2 := by
  have hcalls : openBroker.callsSince (openBroker.publish sampleConfig wildcardPublish) =
      [.retainSet (str "a/#") [0x2A] 0, .routeMessage (str "a/#") [0x2A] 0 true false] := by
    decide
  refine ⟨by decide, hcalls, by decide, fun h => ?_⟩
  have hvalid := h (openBroker, wildcardPublish) (by simp [trace]) (str "a/#")
    (by rw [hcalls]; exact List.mem_cons_self)
  exact absurd hvalid (by decide)

end BrokerState

end Dmqtt.Broker
