import Sur40.VideoSystem
import Sur40.Lib.PacketStream

/-!
# The stream of the video endpoint

The device sends frame after frame, each a header packet and the packets of its
image. The endpoint's packets have 512 bytes at most. A transfer of the driver takes
packets from this stream.

## Main definitions

* `VideoFrame`: a frame as the device sends it, whole or cut short.
* `videoPackets`, `headerPos`: the stream, and where its headers are.
* `headerSeen`: the headers that the driver gets to see.
* `VideoReceiver`: what the driver is there for, in terms of frames and buffers.
* `VideoLink`, `videoLink`: the driver and the stream.
-/

namespace Sur40

open Devlib

/-! ## Frames -/

/-- A frame of the device: a header, and the packets of an image. The first `sent`
packets arrive. None of them could be taken for a header. -/
structure VideoFrame where
  packetId : UInt32
  size : UInt32
  timestamp : UInt32
  unknown : UInt32
  image : List UInt8
  sent : ℕ
  length_image : image.length = size.toNat
  nonempty : 0 < size.toNat
  no_header : size.toNat % 512 ≠ 20
  sent_le : 512 * sent < size.toNat + 512

namespace VideoFrame

def header (f : VideoFrame) : Sur40ImageHeader where
  magic := videoHeaderMagic
  packetId := f.packetId
  size := f.size
  timestamp := f.timestamp
  unknown := f.unknown

def imagePacket (f : VideoFrame) (i : ℕ) : List UInt8 := (f.image.drop (512 * i)).take 512

def packets (f : VideoFrame) : List (List UInt8) :=
  Sur40ImageHeader.layout.encode f.header :: (List.range f.sent).map f.imagePacket

/-- The whole image arrives. -/
def Complete (f : VideoFrame) : Prop := f.size.toNat ≤ 512 * f.sent

instance (f : VideoFrame) : Decidable f.Complete := inferInstanceAs (Decidable (_ ≤ _))

theorem complete_iff {f : VideoFrame} : f.Complete ↔ f.size.toNat ≤ 512 * f.sent := Iff.rfl

@[simp] theorem length_packets (f : VideoFrame) : f.packets.length = f.sent + 1 := by
  simp [packets]

end VideoFrame

/-- A dark image of the size that userspace expects. -/
def blackFrame (sent : ℕ) (h : 512 * sent < 518400 + 512) : VideoFrame where
  packetId := 0
  size := 518400
  timestamp := 0
  unknown := 0
  image := List.replicate 518400 0
  sent
  length_image := List.length_replicate
  nonempty := by decide
  no_header := by decide
  sent_le := h

/-! ## The stream -/

/-- The packets of all frames. -/
def videoPackets (frames : ℕ → VideoFrame) : ℕ → List UInt8 :=
  concatBlocks fun i => (frames i).packets

/-- The position of the header of frame `i`. -/
def headerPos (frames : ℕ → VideoFrame) (i : ℕ) : ℕ := blockStart (fun i => (frames i).packets) i

section Stream

variable {frames : ℕ → VideoFrame}

theorem packets_pos (i : ℕ) : 0 < (frames i).packets.length := by simp

theorem headerPos_succ (i : ℕ) :
    headerPos frames (i + 1) = headerPos frames i + 1 + (frames i).sent := by
  simp only [headerPos]
  rw [blockStart_succ, VideoFrame.length_packets]
  omega

theorem headerPos_strictMono : StrictMono (headerPos frames) :=
  blockStart_strictMono packets_pos

theorem headerPos_lt_iff {i j : ℕ} : headerPos frames i < headerPos frames j ↔ i < j :=
  headerPos_strictMono.lt_iff_lt

/-- The headers before a position inside block `k`. -/
theorem headerPos_lt_add_iff {i k m : ℕ} (hm : m ≤ (frames k).sent) :
    headerPos frames i < headerPos frames k + 1 + m ↔ i < k + 1 := by
  have hnext : headerPos frames (k + 1) = _ := headerPos_succ k
  constructor
  · intro h
    by_contra hlt
    have := headerPos_strictMono.monotone (f := headerPos frames) (not_lt.mp hlt)
    omega
  · intro h
    have := headerPos_strictMono.monotone (f := headerPos frames) (Nat.lt_succ_iff.mp h)
    omega

theorem videoPackets_header (i : ℕ) :
    videoPackets frames (headerPos frames i) =
      Sur40ImageHeader.layout.encode (frames i).header :=
  concatBlocks_at packets_pos (j := 0) (packets_pos i)

@[simp] theorem length_videoPackets_header (i : ℕ) :
    (videoPackets frames (headerPos frames i)).length = 20 := by
  rw [videoPackets_header, Codec.length_encode]
  rfl

/-- Behind the header comes the image. -/
theorem videoPackets_image (i : ℕ) :
    Carries 512 (videoPackets frames) (headerPos frames i + 1) (frames i).image
      (frames i).sent := by
  intro j hj
  have hat : videoPackets frames (headerPos frames i + (j + 1)) = _ :=
    concatBlocks_at packets_pos (i := i) (j := j + 1) (by simpa using hj)
  rw [Nat.add_assoc, Nat.add_comm 1]
  refine hat.trans ?_
  simp [VideoFrame.packets, VideoFrame.imagePacket]

/-- The rest of a frame. -/
theorem videoPackets_tail {i j : ℕ} (hj : j ≤ (frames i).sent) :
    TailPackets 512 20 (videoPackets frames) (headerPos frames i + 1 + j)
      ((frames i).sent - j) := by
  have hsent := (frames i).sent_le
  have hheader := (frames i).no_header
  have hlen : ∀ k < (frames i).sent,
      (videoPackets frames (headerPos frames i + 1 + k)).length =
        min 512 ((frames i).size.toNat - 512 * k) := by
    intro k hk
    rw [videoPackets_image i k hk, List.length_take, List.length_drop, (frames i).length_image]
  constructor
  · intro k hk
    rw [Nat.add_assoc, hlen _ (by omega)]
    omega
  · intro k hk
    rw [Nat.add_assoc, hlen _ (by omega)]
    omega
  · intro k hk
    rw [Nat.add_assoc, hlen _ (by omega)]
    omega

end Stream

/-! ## Headers that are seen -/

/-- Does the driver look at header `i`, if streaming is started at position `start`? Not
if it came before; and not if the frame before it is cut short and the driver, which
has seen the header of that one and believed its size, takes the header for image
data. -/
def headerSeen (frames : ℕ → VideoFrame) (start : ℕ) : ℕ → Bool
  | 0 => start ≤ headerPos frames 0
  | i + 1 => start ≤ headerPos frames (i + 1) &&
      !(headerSeen frames start i && !decide (frames i).Complete &&
        decide ((frames i).size.toNat ≤ sur40MaxFrameSize))

section Seen

variable {frames : ℕ → VideoFrame} {start : ℕ}

theorem start_le_of_headerSeen {i : ℕ} (h : headerSeen frames start i = true) :
    start ≤ headerPos frames i := by
  cases i with
  | zero => exact of_decide_eq_true h
  | succ i =>
      rw [headerSeen, Bool.and_eq_true] at h
      exact of_decide_eq_true h.1

theorem headerSeen_succ {i : ℕ} (hstart : start ≤ headerPos frames (i + 1)) :
    headerSeen frames start (i + 1) = true ↔
      (headerSeen frames start i = true → (frames i).Complete ∨
        sur40MaxFrameSize < (frames i).size.toNat) := by
  rw [headerSeen]
  by_cases hseen : headerSeen frames start i = true
  · simp [hseen, hstart, or_comm]
  · simp [hseen, hstart]

/-- Without cuts every header is seen that comes after the start. -/
theorem headerSeen_of_complete (hall : ∀ i, (frames i).Complete) (i : ℕ) :
    headerSeen frames start i = true ↔ start ≤ headerPos frames i := by
  refine ⟨start_le_of_headerSeen, fun hstart => ?_⟩
  cases i with
  | zero => exact decide_eq_true hstart
  | succ i => exact (headerSeen_succ hstart).mpr fun _ => .inl (hall i)

end Seen

/-! ## What the driver is there for -/

/-- What happens to a receiver: a buffer is queued, or the header of a frame comes. -/
inductive StreamEvent where
  | bufferQueue (buf : Sur40Buffer)
  | frame (i : ℕ)
  deriving DecidableEq

/-- The receiver in terms of frames and buffers. -/
structure VideoReceiver where
  waiting : List Sur40Buffer
  returned : List Vb2BufferDone
  sequence : UInt32
  dropped : ℕ

namespace VideoReceiver

/-- The buffer comes back with the frame, or broken if the frame is cut short. -/
def finish (r : VideoReceiver) (buf : Sur40Buffer) (f : VideoFrame) : VideoReceiver :=
  if f.Complete then
    { r with
      returned := r.returned ++ [⟨buf, .done, some (r.sequence, f.image)⟩]
      sequence := r.sequence + 1 }
  else { r with returned := r.returned ++ [⟨buf, .error, none⟩] }

/-- A frame of the expected size goes into the next buffer, or is dropped if none is
waiting. Other frames are skipped. -/
def step (frames : ℕ → VideoFrame) (sizeimage : ℕ) (r : VideoReceiver) :
    StreamEvent → VideoReceiver
  | .bufferQueue buf => { r with waiting := r.waiting ++ [buf] }
  | .frame i =>
      if (frames i).size.toNat ≠ sizeimage then r
      else
        match r.waiting with
        | [] => { r with dropped := r.dropped + 1 }
        | buf :: bufs => finish { r with waiting := bufs } buf (frames i)

def run (frames : ℕ → VideoFrame) (sizeimage : ℕ) (r : VideoReceiver)
    (events : List StreamEvent) : VideoReceiver :=
  events.foldl (step frames sizeimage) r

theorem run_append (frames : ℕ → VideoFrame) (sizeimage : ℕ) (r : VideoReceiver)
    (events : List StreamEvent) (e : StreamEvent) :
    r.run frames sizeimage (events ++ [e]) =
      (r.run frames sizeimage events).step frames sizeimage e := by
  simp [run]

end VideoReceiver

/-- The frames among the events. -/
def StreamEvent.frame? : StreamEvent → Option ℕ
  | .bufferQueue _ => none
  | .frame i => some i

/-- The buffers among the events. -/
def StreamEvent.buffer? : StreamEvent → Option Sur40Buffer
  | .bufferQueue buf => some buf
  | .frame _ => none

/-- An event as the driver's history records it. -/
def StreamEvent.traced (frames : ℕ → VideoFrame) : StreamEvent → VideoEvent
  | .bufferQueue buf => .bufferQueue buf
  | .frame i => .handleHeader (frames i).header

/-- The driver seen as a receiver. -/
def Sur40State.receiver (s : Sur40State) : VideoReceiver where
  waiting := s.bufList
  returned := s.done
  sequence := s.sequence
  dropped := s.framesDropped

/-! ## The driver on the stream -/

/-- The driver, and the next packet of the device. -/
structure VideoLink where
  video : VideoSys
  pos : ℕ

inductive LinkAction where
  | bufferQueue (buf : Sur40Buffer)
  /-- The URB completes with the next packets. Submissions succeed. -/
  | transfer (u : VideoUrb)

def LinkAction.isTransfer : LinkAction → Bool
  | .bufferQueue _ => false
  | .transfer _ => true

/-- What a transfer brings to the handler of its URB. -/
def streamCompletion (r : BulkIn UInt8) : Completion where
  status := if r.overflow then -eoverflow else 0
  data := r.data

def LinkAction.step (frames : ℕ → VideoFrame) : LinkAction → VideoLink → Option VideoLink
  | .bufferQueue buf, c =>
      ((VideoAction.bufferQueue buf).step c.video).map fun video => { c with video }
  | .transfer u, c =>
      let r := bulkIn 512 (videoPackets frames) c.pos (c.video.drv.videoUrb u).transferBufferLength
      ((VideoAction.complete u (streamCompletion r) 0).step c.video).map fun video =>
        { video, pos := r.pos }

def videoLink (frames : ℕ → VideoFrame) : Machine VideoLink LinkAction := ⟨LinkAction.step frames⟩

end Sur40
