import Mathlib.Algebra.Order.Ring.Int
import Mathlib.Tactic.SplitIfs

/-!
# URBs and the USB core

The driver's transfers, with the accounting the USB core keeps for each of them:
the poison counter and whether the host controller holds the URB. Return codes
are the C ones, zero or a negative errno. What the environment decides, such as
the outcome of a submission, is an argument.

## Main definitions

* `Sur40Buffer`: a videobuf2 buffer, the target of a frame transfer.
* `Urb`: one transfer request.
* `usbSubmitUrb`, `usbPoisonUrb`, `usbUnpoisonUrb`: the core's operations.
* `Completion`: what a completion handler finds in its URB.
-/

namespace Sur40

/-! ## Return codes -/

def eperm : ℤ := 1
def enoent : ℤ := 2
def enomem : ℤ := 12
def ebusy : ℤ := 16
def enodev : ℤ := 19
def eoverflow : ℤ := 75
def econnreset : ℤ := 104
def eshutdown : ℤ := 108

/-- `struct sur40_buffer`: a videobuf2 buffer with one plane. -/
structure Sur40Buffer where
  index : ℕ
  /-- `vb2_plane_size`: capacity of the plane. -/
  planeSize : ℕ
  /-- `vb2_get_plane_payload`: the length announced to userspace. -/
  payload : ℕ
  deriving DecidableEq

/-- `struct urb`: the fields the driver sets, and the core's accounting. -/
structure Urb where
  transferBufferLength : ℕ
  /-- The buffer whose scatterlist the URB transfers into, if it has one. -/
  sg : Option Sur40Buffer
  /-- `usb_poison_urb` calls not undone by `usb_unpoison_urb`. -/
  reject : ℤ
  /-- The host controller holds the URB. -/
  inFlight : Bool
  deriving DecidableEq

/-- Submission. A URB that is already in flight or poisoned is refused; past
these checks the environment answers with `err`. -/
def usbSubmitUrb (urb : Urb) (err : ℤ) : Urb × ℤ :=
  if urb.inFlight then (urb, -ebusy)
  else if 0 < urb.reject then (urb, -eperm)
  else if err = 0 then ({ urb with inFlight := true }, 0)
  else (urb, err)

/-- Count one poisoning, then wait until the URB is idle. A transfer that is
still in flight is cancelled: its handler finds a dead URB and does nothing. -/
def usbPoisonUrb (urb : Urb) : Urb := { urb with reject := urb.reject + 1, inFlight := false }

def usbUnpoisonUrb (urb : Urb) : Urb := { urb with reject := urb.reject - 1 }

/-- The core gives the URB back before it calls the completion handler. -/
def Urb.giveback (urb : Urb) : Urb := { urb with inFlight := false }

/-- Status and received bytes of a completed URB. -/
structure Completion where
  status : ℤ
  data : List UInt8

/-- `urb->actual_length`. -/
def Completion.actualLength (c : Completion) : ℕ := c.data.length

/-- True if the URB was cancelled or the device went away: do not resubmit. -/
def sur40UrbDead (status : ℤ) : Bool :=
  status = -enoent || status = -econnreset || status = -eshutdown || status = -enodev

/-- Resubmit from a completion handler; a failure is only logged. -/
def sur40Resubmit (urb : Urb) (err : ℤ) : Urb := (usbSubmitUrb urb err).1

/-! ## The operations field by field -/

@[simp] theorem usbPoisonUrb_reject (u : Urb) : (usbPoisonUrb u).reject = u.reject + 1 := rfl
@[simp] theorem usbPoisonUrb_inFlight (u : Urb) : (usbPoisonUrb u).inFlight = false := rfl
@[simp] theorem usbUnpoisonUrb_reject (u : Urb) : (usbUnpoisonUrb u).reject = u.reject - 1 := rfl
@[simp] theorem usbUnpoisonUrb_inFlight (u : Urb) :
    (usbUnpoisonUrb u).inFlight = u.inFlight := rfl
@[simp] theorem giveback_reject (u : Urb) : u.giveback.reject = u.reject := rfl
@[simp] theorem giveback_inFlight (u : Urb) : u.giveback.inFlight = false := rfl
@[simp] theorem giveback_transferBufferLength (u : Urb) :
    u.giveback.transferBufferLength = u.transferBufferLength := rfl

@[simp] theorem usbSubmitUrb_reject (u : Urb) (err : ℤ) :
    (usbSubmitUrb u err).1.reject = u.reject := by
  rw [usbSubmitUrb]
  split_ifs <;> rfl

@[simp] theorem usbSubmitUrb_transferBufferLength (u : Urb) (err : ℤ) :
    (usbSubmitUrb u err).1.transferBufferLength = u.transferBufferLength := by
  rw [usbSubmitUrb]
  split_ifs <;> rfl

@[simp] theorem usbSubmitUrb_sg (u : Urb) (err : ℤ) : (usbSubmitUrb u err).1.sg = u.sg := by
  rw [usbSubmitUrb]
  split_ifs <;> rfl

@[simp] theorem sur40Resubmit_reject (u : Urb) (err : ℤ) :
    (sur40Resubmit u err).reject = u.reject := usbSubmitUrb_reject u err

/-- A submission succeeds exactly on an idle URB that is not poisoned, when the
environment lets it. -/
theorem usbSubmitUrb_eq_zero (u : Urb) (err : ℤ) :
    (usbSubmitUrb u err).2 = 0 ↔ u.inFlight = false ∧ u.reject ≤ 0 ∧ err = 0 := by
  rw [usbSubmitUrb]
  split_ifs with h1 h2 h3
  · simp [h1, ebusy]
  · simp only [eperm]; omega
  · simp [h1, h3]; omega
  · simp [h3]

/-- An idle URB is in flight after a submission exactly if that succeeded. -/
theorem usbSubmitUrb_inFlight (u : Urb) (err : ℤ) (h : u.inFlight = false) :
    (usbSubmitUrb u err).1.inFlight = decide ((usbSubmitUrb u err).2 = 0) := by
  rw [usbSubmitUrb]
  split_ifs with h1 h2
  · rw [h] at h1; cases h1
  · simp [h, eperm]
  · simp
  · simp [*]

/-- A poisoned URB stays idle. -/
theorem usbSubmitUrb_of_poisoned {u : Urb} (h : u.inFlight = false) (hr : 0 < u.reject)
    (err : ℤ) : usbSubmitUrb u err = (u, -eperm) := by
  simp [usbSubmitUrb, h, hr]

/-- An idle URB that is not poisoned is submitted when the environment lets it. -/
theorem usbSubmitUrb_of_ready {u : Urb} (h : u.inFlight = false) (hr : u.reject ≤ 0) :
    usbSubmitUrb u 0 = ({ u with inFlight := true }, 0) := by
  simp [usbSubmitUrb, h, not_lt.mpr hr]

end Sur40
