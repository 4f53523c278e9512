import Sur40.Usb
import Sur40.Input

/-!
# The driver state

`struct sur40_state` as far as the touch and the video pipeline use it, followed
by a history of what the driver did to its surroundings. The history fields have
no counterpart in the C struct and no function of the driver reads them.

## Main definitions

* `Sur40State`: the state.
* `Vb2BufferDone`, `VideoEvent`: entries of the history.
* `sur40Probe`: the state after a successful probe.
-/

namespace Sur40

/-! ## Constants -/

def sensorResX : ℕ := 1920
def sensorResY : ℕ := 1080
def videoHeaderMagic : UInt32 := 0x46425553
/-- Number of URBs kept queued on the touch endpoint. -/
def sur40TouchUrbs : ℕ := 8

theorem sur40TouchUrbs_pos : 0 < sur40TouchUrbs := by decide

/-- The first URB of the touch endpoint. -/
def firstTouchUrb : Fin sur40TouchUrbs := ⟨0, sur40TouchUrbs_pos⟩

/-- Size of the scratch buffer used to discard video data. -/
def sur40DrainSize : ℕ := 64 * 1024
/-- Upper bound for a plausible frame size announced by the device. -/
def sur40MaxFrameSize : ℕ := 4 * sensorResX * sensorResY

/-! ## Pixel formats -/

/-- `struct v4l2_pix_format`: the fields that the pipelines read. -/
structure V4l2PixFormat where
  pixelformat : UInt32
  sizeimage : ℕ
  deriving DecidableEq

/-- The fourcc codes `GREY` and `TU08`. -/
def v4l2PixFmtGrey : UInt32 := 0x59455247
def v4l2TchFmtTu08 : UInt32 := 0x38305554

/-- `sur40_pix_format[0]` and `sur40_pix_format[1]`. -/
def sur40PixFormatGrey : V4l2PixFormat :=
  { pixelformat := v4l2PixFmtGrey, sizeimage := (sensorResX / 2) * (sensorResY / 2) }
def sur40PixFormatTu08 : V4l2PixFormat :=
  { pixelformat := v4l2TchFmtTu08, sizeimage := (sensorResX / 2) * (sensorResY / 2) }

/-- Look up a pixel format; anything unknown falls back to the default for the
current mode. -/
def sur40FindFormat (videoNode : Bool) (pixelformat : UInt32) : V4l2PixFormat :=
  if pixelformat = v4l2PixFmtGrey then sur40PixFormatGrey
  else if pixelformat = v4l2TchFmtTu08 then sur40PixFormatTu08
  else if videoNode then sur40PixFormatGrey else sur40PixFormatTu08

/-- Every format of the table describes the same image. -/
@[simp] theorem sur40FindFormat_sizeimage (videoNode : Bool) (pixelformat : UInt32) :
    (sur40FindFormat videoNode pixelformat).sizeimage = 518400 := by
  rw [sur40FindFormat]
  split_ifs <;> rfl

/-! ## History -/

inductive Vb2BufferState where
  | done
  | error
  | queued
  deriving DecidableEq

/-- One `vb2_buffer_done` call. A good frame comes with its sequence number and
the bytes that the transfer put into the buffer. -/
structure Vb2BufferDone where
  buf : Sur40Buffer
  state : Vb2BufferState
  frame : Option (UInt32 × List UInt8)
  deriving DecidableEq

/-- What reaches the video pipeline from outside, in order of arrival. -/
inductive VideoEvent where
  | bufferQueue (buf : Sur40Buffer)
  | handleHeader (img : Sur40ImageHeader)
  deriving DecidableEq

/-! ## The state -/

/-- `struct sur40_state`, with the history of the run. -/
structure Sur40State where
  pixFmt : V4l2PixFormat
  bufList : List Sur40Buffer
  sequence : UInt32
  /-- Consumers of the touch pipeline: the input device, and video streaming. -/
  users : ℕ
  touchUrbs : Fin sur40TouchUrbs → Urb
  needBlobs : ℤ
  videoHdrUrb : Urb
  videoFrameUrb : Urb
  videoDrainUrb : Urb
  videoPktSize : ℕ
  /-- 0 = resync: hunt for the next header. -/
  drainRemaining : ℕ
  curBuf : Option Sur40Buffer
  framesDropped : ℕ
  disconnected : Bool
  input : InputDev
  /-- History: calls of `vb2_buffer_done`. -/
  done : List Vb2BufferDone
  /-- History: buffers queued and headers handled. -/
  videoTrace : List VideoEvent
  /-- History: the count that the last successful drain submission asked for. -/
  drainRequested : ℕ
  /-- History: calls of `sur40_init`. -/
  inits : ℕ
  /-- History: `WARN_ON(users == 0)` fired. -/
  warnedUsers : Bool
  /-- History: `WARN_ON(!buf)` fired. -/
  warnedBuf : Bool

/-- A URB as `sur40_alloc_bulk_urb` makes it: poisoned once. -/
def sur40AllocBulkUrb (size : ℕ) : Urb :=
  { transferBufferLength := size, sg := none, reject := 1, inFlight := false }

/-- The input device as `input_mt_init_slots` leaves it. -/
def InputDev.init : InputDev where
  slots := fun _ => { active := false, key := 0, used := false, val := fun _ => 0 }
  slot := ⟨0, by decide⟩
  calls := []

/-- The state after a successful `sur40_probe`. -/
def sur40Probe (videoNode : Bool) (touchPktSize videoPktSize : ℕ) : Sur40State where
  pixFmt := sur40FindFormat videoNode 0
  bufList := []
  sequence := 0
  users := 0
  touchUrbs := fun _ => sur40AllocBulkUrb touchPktSize
  needBlobs := 0
  videoHdrUrb := sur40AllocBulkUrb videoPktSize
  videoFrameUrb := sur40AllocBulkUrb 0
  videoDrainUrb := sur40AllocBulkUrb 0
  videoPktSize := videoPktSize
  drainRemaining := 0
  curBuf := none
  framesDropped := 0
  disconnected := false
  input := InputDev.init
  done := []
  videoTrace := []
  drainRequested := 0
  inits := 0
  warnedUsers := false
  warnedBuf := false

end Sur40
