/-
The frames between the nodes of a cluster (`writeFrame` and `readFrame` of
`internal/cluster/peer_transport.go`).

A frame is the length of its data in four bytes and the data.  The writer takes data of any
length; the reader refuses a frame of more than ten megabytes, and with the first frame that it
refuses `handleConn` gives up the connection.  `frames_lossless_iff` says which lists of frames
arrive.
-/
import Dmqtt.Codec.FixedHeader
import Mathlib.Data.List.TakeWhile

namespace Dmqtt.Cluster

open Lib Lib.BigEndian Codec

/-- What `readFrame` can return instead of data: an error of the stream, or `frame too large` with
the length. -/
inductive FrameErr
  | read (err : Err)
  | tooLarge (length : UInt32)
deriving DecidableEq

/-- The largest length that `readFrame` accepts. -/
def maxFrame : UInt32 := 10 * 1024 * 1024

/-- The bytes that are written for some data; the length is cut off to 32 bits. -/
def writeFrame (data : Bytes) : Bytes := put32 (UInt32.ofNat data.length) ++ data

/-- Read a frame; the second component is the rest of the stream. -/
def readFrame (r : Bytes) : Except FrameErr (Bytes × Bytes) := do
  let (header, r) ← (readFull r 4).mapError .read
  let length ← (uint32 header).mapError .read
  if length > maxFrame then
    throw (.tooLarge length)
  (readFull r length.toNat).mapError .read

/-! ### One frame -/

lemma readFrame_writeFrame {data : Bytes} (h : data.length < 2 ^ 32) (r : Bytes) :
    readFrame (writeFrame data ++ r) =
      if data.length ≤ maxFrame.toNat then .ok (data, r)
      else .error (.tooLarge (UInt32.ofNat data.length)) := by
  have hlength : (UInt32.ofNat data.length).toNat = data.length := UInt32.toNat_ofNat_of_lt' h
  have hheader : uint32 (put32 (UInt32.ofNat data.length)) = .ok (UInt32.ofNat data.length) := by
    have hput := uint32_put32 (UInt32.ofNat data.length) []
    rwa [List.append_nil] at hput
  have hlimit : UInt32.ofNat data.length > maxFrame ↔ ¬ data.length ≤ maxFrame.toNat := by
    rw [gt_iff_lt, UInt32.lt_iff_toNat_lt, hlength, not_le]
  rw [readFrame, writeFrame, List.append_assoc, readFull_append (length_put32 _).symm]
  simp only [Except.mapError, bind, Except.bind, hheader, hlimit]
  split_ifs
  · rw [readFull_append hlength]
  · rfl

lemma length_lt_of_readFrame {r data rest : Bytes} (h : readFrame r = .ok (data, rest)) :
    rest.length < r.length := by
  have hfull : ∀ {r a b : Bytes} {n : ℕ}, readFull r n = .ok (a, b) →
      b.length + n = r.length := by
    intro r a b n h
    rw [readFull] at h
    split_ifs at h with hn
    cases h
    rw [List.length_drop]
    omega
  rw [readFrame] at h
  cases hheader : readFull r 4 with
  | error err => simp [hheader, Except.mapError, bind, Except.bind] at h
  | ok out =>
    have hlen := hfull hheader
    simp only [hheader, Except.mapError, bind, Except.bind] at h
    cases hword : uint32 out.1 with
    | error err => simp [hword] at h
    | ok length =>
      simp only [hword] at h
      split_ifs at h
      cases hdata : readFull out.2 length.toNat with
      | error err => simp [hdata] at h
      | ok out' =>
        have hlen' := hfull hdata
        simp only [hdata, Except.ok.injEq] at h
        rw [h] at hlen'
        dsimp only at hlen'
        omega

/-! ### The read loop -/

/-- The read loop of `handleConn`: the frames up to the first error, the error, and the stream at
which it came up. -/
def readFrames (r : Bytes) : List Bytes × FrameErr × Bytes :=
  match h : readFrame r with
  | .error err => ([], err, r)
  | .ok (data, rest) =>
    have := length_lt_of_readFrame h
    let out := readFrames rest
    (data :: out.1, out.2)
termination_by r.length

lemma readFrames_of_error {r : Bytes} {err : FrameErr} (h : readFrame r = .error err) :
    readFrames r = ([], err, r) := by
  rw [readFrames]
  split
  · rename_i h'
    cases h.symm.trans h'
    rfl
  · rename_i h'
    cases h.symm.trans h'

lemma readFrames_nil : readFrames [] = ([], .read .eof, []) := readFrames_of_error rfl

lemma readFrames_of_ok {r data rest : Bytes} (h : readFrame r = .ok (data, rest)) :
    readFrames r = (data :: (readFrames rest).1, (readFrames rest).2) := by
  rw [readFrames]
  split
  · rename_i h'
    cases h.symm.trans h'
  · rename_i h'
    cases h.symm.trans h'
    rfl

/-- What arrives of a list of frames: those before the first one that is too large. -/
lemma readFrames_flatMap {frames : List Bytes} (h : ∀ data ∈ frames, data.length < 2 ^ 32) :
    (readFrames (frames.flatMap writeFrame)).1 =
      frames.takeWhile fun data => data.length ≤ maxFrame.toNat := by
  induction frames with
  | nil => rw [List.flatMap_nil, readFrames_nil, List.takeWhile_nil]
  | cons data frames ih =>
    have hread := readFrame_writeFrame (h data List.mem_cons_self) (frames.flatMap writeFrame)
    rw [List.flatMap_cons, List.takeWhile_cons]
    by_cases hle : data.length ≤ maxFrame.toNat
    · rw [if_pos hle] at hread
      rw [readFrames_of_ok hread, if_pos (decide_eq_true hle),
        ih fun data' hmem => h data' (List.mem_cons_of_mem _ hmem)]
    · rw [if_neg hle] at hread
      rw [readFrames_of_error hread, if_neg (by simpa using hle)]

lemma snd_readFrames_flatMap {frames : List Bytes}
    (h : ∀ data ∈ frames, data.length ≤ maxFrame.toNat) :
    (readFrames (frames.flatMap writeFrame)).2 = (.read .eof, []) := by
  induction frames with
  | nil => rw [List.flatMap_nil, readFrames_nil]
  | cons data frames ih =>
    have hle := h data List.mem_cons_self
    have hread := readFrame_writeFrame (hle.trans_lt (by decide)) (frames.flatMap writeFrame)
    rw [if_pos hle] at hread
    rw [List.flatMap_cons, readFrames_of_ok hread]
    exact ih fun data' hmem => h data' (List.mem_cons_of_mem _ hmem)

/-- **When framing is lossless.**  Of any list of data of less than 4 gigabytes each, written frame
by frame, the read loop returns exactly this list, and reads the stream to its end, if and only if
no data are larger than ten megabytes. -/
theorem frames_lossless_iff {frames : List Bytes} (h : ∀ data ∈ frames, data.length < 2 ^ 32) :
    readFrames (frames.flatMap writeFrame) = (frames, .read .eof, []) ↔
      ∀ data ∈ frames, data.length ≤ 10 * 1024 * 1024 := by
  have hmax : maxFrame.toNat = 10 * 1024 * 1024 := rfl
  rw [← hmax]
  constructor
  · intro hread data hmem
    have hfirst := readFrames_flatMap h
    rw [hread] at hfirst
    exact of_decide_eq_true (List.takeWhile_eq_self_iff.1 hfirst.symm data hmem)
  · intro hle
    refine Prod.ext ?_ (snd_readFrames_flatMap hle)
    rw [readFrames_flatMap h]
    exact List.takeWhile_eq_self_iff.2 fun data hmem => decide_eq_true (hle data hmem)

/-- Two short frames arrive. -/
theorem frames_lossless_iff_short :
    readFrames ([[1, 2], []].flatMap writeFrame) = ([[1, 2], []], .read .eof, []) :=
  (frames_lossless_iff (by decide)).2 (by decide)

/-- Data with a byte too many. -/
def oversized : Bytes := List.replicate (10 * 1024 * 1024 + 1) 0

/-- Nothing arrives of data with a byte too many, and of short data behind them. -/
theorem frames_lost :
    (∀ data ∈ [oversized, [1]], data.length < 2 ^ 32) ∧
      (readFrames ([oversized, [1]].flatMap writeFrame)).1 = [] := by
  have hlength : oversized.length = 10 * 1024 * 1024 + 1 := List.length_replicate
  have hlt : ∀ data ∈ [oversized, [1]], data.length < 2 ^ 32 := by
    simp [hlength]
  refine ⟨hlt, ?_⟩
  rw [readFrames_flatMap hlt, List.takeWhile_cons_of_neg]
  rw [hlength]
  decide

end Dmqtt.Cluster
