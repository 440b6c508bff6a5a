/-
MQTT over WebSocket (`internal/transport/ws.go`): the connection as a stream of bytes.

`NextReader` hands out a reader for each message; `Read` takes the bytes of the binary messages from
these readers, one after the other, across any number of calls.  `outcome_iteration` lists what an
iteration of its loop can do.  `yields_newWSConn` says that the connection is itself a source: of
the payloads of the binary messages, and then of the error of `NextReader`, whatever parts the
readers return.
-/
import Dmqtt.Codec.Packets
import Dmqtt.Lib.PartialReads

namespace Dmqtt.Transport

open Lib
open Codec (Err)

/-- The types of the messages that `NextReader` hands out. -/
inductive MessageType
  | text
  | binary
deriving DecidableEq

/-- A message, with its reader. -/
structure Message (ρ : Type) where
  messageType : MessageType
  reader : ρ

/-- A `websocket.Conn`: the messages that are still to come, and the error after them. -/
structure Socket (ρ E : Type) where
  messages : List (Message ρ)
  failure : E

variable {ρ E : Type}

def Socket.nextReader (ws : Socket ρ E) : Except E (Message ρ) × Socket ρ E :=
  match ws.messages with
  | [] => (.error ws.failure, ws)
  | m :: messages => (.ok m, { ws with messages })

/-- A connection, with the reader of the message that is being read. -/
structure WsConn (ρ E : Type) where
  ws : Socket ρ E
  reader : Option ρ

def newWSConn (ws : Socket ρ E) : WsConn ρ E := ⟨ws, none⟩

namespace WsConn

/-- An iteration of the loop of `Read` returns, or it is followed by another. -/
inductive Iteration (ρ E : Type)
  | done (result : ReadResult UInt8 E) (c : WsConn ρ E)
  | again (c : WsConn ρ E)

/-- The iterations that are possible without an iteration that returns. -/
def pending (c : WsConn ρ E) : ℕ := 2 * c.ws.messages.length + if c.reader.isSome then 1 else 0

/-- The readers from which bytes may be taken. -/
def readers (c : WsConn ρ E) : List ρ :=
  c.reader.toList ++
    (c.ws.messages.filter fun m => m.messageType = .binary).map Message.reader

variable [DecidableEq E] (eof : E) (readMessage : ρ → ℕ → ReadResult UInt8 E × ρ)

/-- The body of the loop of `Read`. -/
def iteration (c : WsConn ρ E) (size : ℕ) : Iteration ρ E :=
  match c.reader with
  | some reader =>
    match readMessage reader size with
    | (⟨part, some err⟩, reader') =>
      if err = eof then
        if 0 < part.length then .done ⟨part, none⟩ { c with reader := none }
        else .again { c with reader := none }
      else .done ⟨part, some err⟩ { c with reader := some reader' }
    | (⟨part, none⟩, reader') => .done ⟨part, none⟩ { c with reader := some reader' }
  | none =>
    match c.ws.nextReader with
    | (.error err, ws) => .done ⟨[], some err⟩ { c with ws }
    | (.ok m, ws) =>
      if m.messageType ≠ .binary then .again { c with ws }
      else .again { ws, reader := some m.reader }

/-- What an iteration can do: it returns what the reader returns, or the last part of the message
without the `EOF`, or the error of `NextReader`; or it drops the reader, or takes a message. -/
inductive Outcome (size : ℕ) : WsConn ρ E → Iteration ρ E → Prop
  | part {ws r bytes r'} (h : readMessage r size = (⟨bytes, none⟩, r')) :
      Outcome size ⟨ws, some r⟩ (.done ⟨bytes, none⟩ ⟨ws, some r'⟩)
  | lastPart {ws r bytes r'} (h : readMessage r size = (⟨bytes, some eof⟩, r'))
      (pos : 0 < bytes.length) : Outcome size ⟨ws, some r⟩ (.done ⟨bytes, none⟩ ⟨ws, none⟩)
  | ended {ws r r'} (h : readMessage r size = (⟨[], some eof⟩, r')) :
      Outcome size ⟨ws, some r⟩ (.again ⟨ws, none⟩)
  | broken {ws r bytes e r'} (h : readMessage r size = (⟨bytes, some e⟩, r')) (ne_eof : e ≠ eof) :
      Outcome size ⟨ws, some r⟩ (.done ⟨bytes, some e⟩ ⟨ws, some r'⟩)
  | taken {m messages failure} (binary : m.messageType = .binary) :
      Outcome size ⟨⟨m :: messages, failure⟩, none⟩ (.again ⟨⟨messages, failure⟩, some m.reader⟩)
  | skipped {m messages failure} (not_binary : m.messageType ≠ .binary) :
      Outcome size ⟨⟨m :: messages, failure⟩, none⟩ (.again ⟨⟨messages, failure⟩, none⟩)
  | failed {failure} :
      Outcome size ⟨⟨[], failure⟩, none⟩ (.done ⟨[], some failure⟩ ⟨⟨[], failure⟩, none⟩)

lemma outcome_iteration (c : WsConn ρ E) (size : ℕ) :
    Outcome eof readMessage size c (iteration eof readMessage c size) := by
  obtain ⟨⟨messages, failure⟩, _ | r⟩ := c
  · cases messages with
    | nil => exact .failed
    | cons m messages =>
      by_cases hbinary : m.messageType = .binary
      · simp only [iteration, Socket.nextReader, if_neg (not_not.2 hbinary)]
        exact .taken hbinary
      · simp only [iteration, Socket.nextReader, if_pos hbinary, ne_eq]
        exact .skipped hbinary
  · rcases hread : readMessage r size with ⟨⟨bytes, _ | e⟩, r'⟩
    · simp only [iteration, hread]
      exact .part hread
    · simp only [iteration, hread]
      by_cases he : e = eof
      · subst he
        rw [if_pos rfl]
        split_ifs with hpos
        · exact .lastPart hread hpos
        · rw [List.length_eq_zero_iff.1 (Nat.eq_zero_of_not_pos hpos)] at hread
          exact .ended hread
      · rw [if_neg he]
        exact .broken hread he

lemma pending_lt_of_again {c c' : WsConn ρ E} {size : ℕ}
    (h : iteration eof readMessage c size = .again c') : c'.pending < c.pending := by
  have hout := outcome_iteration eof readMessage c size
  rw [h] at hout
  cases hout with
  | ended h => exact Nat.lt_succ_self _
  | taken binary | skipped not_binary => simp [pending, mul_add]

/-- Read into a buffer of this size. -/
def read (c : WsConn ρ E) (size : ℕ) : ReadResult UInt8 E × WsConn ρ E :=
  match h : iteration eof readMessage c size with
  | .done result c' => (result, c')
  | .again c' => read c' size
termination_by c.pending
decreasing_by exact pending_lt_of_again eof readMessage h

lemma read_of_done {c c' : WsConn ρ E} {size : ℕ} {result : ReadResult UInt8 E}
    (h : iteration eof readMessage c size = .done result c') :
    read eof readMessage c size = (result, c') := by
  rw [read]
  split
  · next heq =>
      rw [h] at heq
      cases heq
      rfl
  · next heq =>
      rw [h] at heq
      cases heq

lemma read_of_again {c c' : WsConn ρ E} {size : ℕ}
    (h : iteration eof readMessage c size = .again c') :
    read eof readMessage c size = read eof readMessage c' size := by
  rw [read]
  split
  · next heq =>
      rw [h] at heq
      cases heq
  · next heq =>
      rw [h] at heq
      cases heq
      rfl

/-! ### One call -/

/-- The reader of every message that is left yields some bytes and then `EOF`. -/
def Sound (c : WsConn ρ E) : Prop := ∀ r ∈ c.readers, ∃ payload, Yields readMessage eof r payload

/-- What a caller can rely on, for one call. -/
structure ReadSpec (c : WsConn ρ E) (size : ℕ) (x : ReadResult UInt8 E × WsConn ρ E) : Prop where
  sound : Sound eof readMessage x.2
  of_empty : x.1 = ⟨[], none⟩ → ∃ r ∈ c.readers, ∃ r', readMessage r size = (⟨[], none⟩, r') ∧
    x.2.reader = some r'
  of_error : ∀ e, x.1.err = some e → x.1.part = [] ∧ x.2.ws.nextReader.1 = .error e

omit [DecidableEq E] in
lemma Outcome.readers_subset {c c' : WsConn ρ E} {size : ℕ}
    (h : Outcome eof readMessage size c (.again c')) : c'.readers ⊆ c.readers := by
  cases h with
  | ended h => exact List.subset_cons_self _ _
  | taken binary => simp [readers, binary]
  | skipped not_binary => simp [readers, not_binary]

omit [DecidableEq E] in
lemma Outcome.readSpec {c c' : WsConn ρ E} {size : ℕ} {result : ReadResult UInt8 E}
    (h : Outcome eof readMessage size c (.done result c')) (hc : Sound eof readMessage c)
    (hsize : 0 < size) : ReadSpec eof readMessage c size (result, c') := by
  cases h with
  | @part ws r bytes r' h =>
    obtain ⟨⟨payload, -, -, -, goesOn⟩, hrest⟩ := List.forall_mem_cons.1 hc
    have hnext := goesOn size hsize (by rw [h])
    rw [h] at hnext
    refine ⟨List.forall_mem_cons.2 ⟨⟨_, hnext⟩, hrest⟩, fun hempty => ?_, fun e he => ?_⟩
    · cases hempty
      exact ⟨r, List.mem_cons_self, r', h, rfl⟩
    · cases he
  | lastPart h pos =>
    refine ⟨(List.forall_mem_cons.1 hc).2, fun hempty => ?_, fun e he => ?_⟩
    · cases hempty
      cases pos
    · cases he
  | @broken ws r bytes e r' h ne_eof =>
    obtain ⟨⟨payload, -, -, ends, -⟩, -⟩ := List.forall_mem_cons.1 hc
    exact absurd (ends size hsize e (by rw [h])).1 ne_eof
  | failed =>
    refine ⟨hc, fun hempty => ?_, fun e he => ?_⟩
    · cases hempty
    · cases he
      exact ⟨rfl, rfl⟩

lemma readSpec_read {c : WsConn ρ E} (hc : Sound eof readMessage c) {size : ℕ} (hsize : 0 < size) :
    ReadSpec eof readMessage c size (read eof readMessage c size) := by
  have hout := outcome_iteration eof readMessage c size
  cases h : iteration eof readMessage c size with
  | done result c' =>
    rw [h] at hout
    rw [read_of_done eof readMessage h]
    exact hout.readSpec eof readMessage hc hsize
  | again c' =>
    rw [h] at hout
    have hsub := hout.readers_subset eof readMessage
    obtain ⟨hsound, hempty, herror⟩ := readSpec_read (fun r hr => hc r (hsub hr)) hsize
    rw [read_of_again eof readMessage h]
    refine ⟨hsound, fun h => ?_, herror⟩
    obtain ⟨r, hr, hread⟩ := hempty h
    exact ⟨r, hsub hr, hread⟩
termination_by c.pending
decreasing_by exact pending_lt_of_again eof readMessage h

/-! ### All calls -/

/-- The message is of that type, and its reader yields that payload. -/
def Carries (m : Message ρ) (sent : MessageType × Bytes) : Prop :=
  m.messageType = sent.1 ∧ Yields readMessage eof m.reader sent.2

/-- The payloads of the binary messages. -/
def binaryPayloads (sent : List (MessageType × Bytes)) : Bytes :=
  sent.flatMap fun m => if m.1 = .binary then m.2 else []

omit [DecidableEq E] in
lemma sound_newWSConn {messages : List (Message ρ)} {sent : List (MessageType × Bytes)}
    (h : List.Forall₂ (Carries eof readMessage) messages sent) (failure : E) :
    Sound eof readMessage (newWSConn ⟨messages, failure⟩) := by
  intro r hr
  obtain ⟨m, hm, rfl⟩ := List.mem_map.1 hr
  have hmem := List.mem_of_mem_filter hm
  clear hr hm
  induction h with
  | nil => cases hmem
  | @cons m' p messages sent hm' hmessages ih =>
    rcases List.mem_cons.1 hmem with rfl | hmem
    · exact ⟨p.2, hm'.2⟩
    · exact ih hmem

section Stream

variable {messages : List (Message ρ)} {failure : E}

/-- The message that is being read comes first, whatever follows it. -/
lemma yields_reader {rest : Bytes}
    (hrest : Yields (read eof readMessage) failure ⟨⟨messages, failure⟩, none⟩ rest) {r : ρ}
    {payload : Bytes} (h : Yields readMessage eof r payload) :
    Yields (read eof readMessage) failure ⟨⟨messages, failure⟩, some r⟩ (payload ++ rest) := by
  induction h with
  | @intro r payload fits starts ends goesOn ih =>
    refine Yields.of_calls fun size hsize => ?_
    have hfits := fits size hsize
    have hout := outcome_iteration eof readMessage ⟨⟨messages, failure⟩, some r⟩ size
    generalize hiter : iteration eof readMessage ⟨⟨messages, failure⟩, some r⟩ size = i at hout
    cases hout with
    | @part ws r bytes r' h =>
      have hnext := ih size hsize (by rw [h])
      have happend := List.prefix_iff_eq_append.1 (starts size hsize)
      rw [h] at hfits hnext happend
      refine Or.inr (Or.inl ⟨bytes, _, _, read_of_done eof readMessage hiter, hfits, ?_, hnext⟩)
      rw [← List.append_assoc, happend]
    | @lastPart ws r bytes r' h pos =>
      obtain ⟨-, hbytes⟩ := ends size hsize eof (by rw [h])
      rw [h] at hfits hbytes
      subst hbytes
      exact Or.inr (Or.inl ⟨bytes, _, rest, read_of_done eof readMessage hiter, hfits, rfl, hrest⟩)
    | ended h =>
      obtain ⟨-, hbytes⟩ := ends size hsize eof (by rw [h])
      rw [h] at hbytes
      subst hbytes
      exact Or.inr (Or.inr ⟨_, read_of_again eof readMessage hiter, hrest⟩)
    | @broken ws r bytes e r' h ne_eof =>
      exact absurd (ends size hsize e (by rw [h])).1 ne_eof

/-- A new connection yields the payloads of the binary messages. -/
lemma yields_newWSConn {sent : List (MessageType × Bytes)}
    (h : List.Forall₂ (Carries eof readMessage) messages sent) (failure : E) :
    Yields (read eof readMessage) failure (newWSConn ⟨messages, failure⟩)
      (binaryPayloads sent) := by
  induction h with
  | nil =>
    refine Yields.of_calls fun size _ => Or.inl ⟨_, read_of_done eof readMessage rfl, ?_⟩
    exact Nat.zero_le size
  | @cons m p messages sent hm hmessages ih =>
    obtain ⟨htype, hyields⟩ := hm
    refine Yields.of_calls fun size _ => Or.inr (Or.inr ?_)
    have hout := outcome_iteration eof readMessage (newWSConn ⟨m :: messages, failure⟩) size
    generalize hiter : iteration eof readMessage (newWSConn ⟨m :: messages, failure⟩) size = i
      at hout
    rw [binaryPayloads, List.flatMap_cons]
    cases hout with
    | taken binary =>
      refine ⟨_, read_of_again eof readMessage hiter, ?_⟩
      rw [if_pos (htype ▸ binary)]
      exact yields_reader eof readMessage ih hyields
    | skipped not_binary =>
      refine ⟨_, read_of_again eof readMessage hiter, ?_⟩
      rw [if_neg (htype ▸ not_binary)]
      exact ih

end Stream

/-- **The stream of a WebSocket connection.**  The calls of `Read` return the payloads of the binary
messages, put together, until `NextReader` fails.  A call returns nothing, and no error, only if the
reader of a message did; and it returns an error only if `NextReader` does. -/
theorem read_reassembles {messages : List (Message ρ)} {sent : List (MessageType × Bytes)}
    (h : List.Forall₂ (Carries eof readMessage) messages sent) (failure : E) (sizes : ℕ → ℕ)
    (hsizes : ∀ k, 0 < sizes k) :
    let c := newWSConn ⟨messages, failure⟩
    let call := nthCall (read eof readMessage) sizes c
    let conn := afterCalls (read eof readMessage) sizes c
    (∃ n, (∀ k < n, (call k).err = none) ∧ call n = ⟨[], some failure⟩ ∧
      received (read eof readMessage) sizes c n = binaryPayloads sent) ∧
    ∀ k,
      (call k = ⟨[], none⟩ → ∃ r ∈ (conn k).readers, ∃ r',
        readMessage r (sizes k) = (⟨[], none⟩, r') ∧ (conn (k + 1)).reader = some r') ∧
      ∀ e, (call k).err = some e →
        (call k).part = [] ∧ (conn (k + 1)).ws.nextReader.1 = .error e := by
  intro c call conn
  have hsound : ∀ k, Sound eof readMessage (conn k) := by
    refine afterCalls_invariant _ hsizes (fun c size hsize hc => ?_)
      (sound_newWSConn eof readMessage h failure)
    exact (readSpec_read eof readMessage hc hsize).sound
  have hspec : ∀ k, ReadSpec eof readMessage (conn k) (sizes k) (call k, conn (k + 1)) := by
    intro k
    have hread := readSpec_read eof readMessage (hsound k) (hsizes k)
    rwa [← Prod.mk.eta (p := read eof readMessage (conn k) (sizes k)), ← afterCalls_succ] at hread
  refine ⟨?_, fun k => ⟨(hspec k).of_empty, (hspec k).of_error⟩⟩
  obtain ⟨n, hbefore, hlast, hreceived⟩ :=
    (yields_newWSConn eof readMessage h failure).exists_run hsizes
  have hpart : (call n).part = [] := ((hspec n).of_error failure hlast).1
  refine ⟨n, hbefore, ReadResult.ext hpart hlast, ?_⟩
  rw [received_concat] at hreceived
  rwa [← List.append_nil (received _ _ _ n), ← hpart]

/-- Two binary messages with a text and an empty one between them, read three bytes at a time. -/
theorem read_reassembles_split :
    let sent := [(MessageType.binary, [1, 2, 3, 4]), (.text, [9]), (.binary, []), (.binary, [5])]
    let messages := sent.map fun m => Message.mk m.1 m.2
    ∃ n, received (read Err.eof (readList Err.eof)) (fun _ => 3)
      (newWSConn ⟨messages, Err.unexpectedEOF⟩) n = [1, 2, 3, 4, 5] := by
  intro sent messages
  have hmessages : List.Forall₂ (Carries Err.eof (readList Err.eof)) messages sent := by
    refine List.forall₂_map_left_iff.2 (List.forall₂_same.2 fun m _ => ?_)
    exact ⟨rfl, yields_readList Err.eof m.2⟩
  obtain ⟨n, -, -, hreceived⟩ :=
    (read_reassembles Err.eof (readList Err.eof) hmessages Err.unexpectedEOF
      (fun _ => 3) fun _ => by decide).1
  exact ⟨n, hreceived⟩

end WsConn

end Dmqtt.Transport
