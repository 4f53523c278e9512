import Sur40.Lib.SlotTable
import Sur40.Wire
import Mathlib.Algebra.Order.Ring.Int
import Mathlib.Tactic.SplitIfs

/-!
# The input device

The multitouch slots of the input core, with its slot rules, and the driver's
`sur40_report_blob` on top of them.

## Main definitions

* `InputDev`: the slots, the current slot, and the history of what was reported.
* `inputMtGetSlotByKey`, `inputMtSlot`, `inputMtReportSlotState`,
  `inputReportAbs`, `inputMtSyncFrame`, `inputSync`: the input core.
* `sur40ReportBlob`: store one contact.
-/

namespace Sur40

open Devlib

/-- Maximum number of contacts. -/
def maxContacts : ℕ := 52

/-- The type bit of a touch blob. -/
def sur40Touch : UInt8 := 0x02

/-- The per-slot axes the driver reports. -/
inductive AbsMt where
  | toolType
  | positionX
  | positionY
  | toolX
  | toolY
  | orientation
  | touchMajor
  | touchMinor
  deriving DecidableEq

def mtToolFinger : ℤ := 0

/-- What the touch handler does to the input device, as an outside observer
sees it: one blob handed to `sur40_report_blob`, or one of the two sync calls. -/
inductive InputCall where
  | reportBlob (blob : Sur40Blob)
  | mtSyncFrame
  | sync
  deriving DecidableEq

/-- `struct input_dev` with its slots. -/
structure InputDev where
  slots : SlotTable maxContacts ℤ (AbsMt → ℤ)
  /-- The slot the next events go to. -/
  slot : Fin maxContacts
  /-- History of the calls, oldest first. -/
  calls : List InputCall

/-! ## The input core -/

/-- Change the current slot. -/
def InputDev.modifySlot (dev : InputDev)
    (f : Slot ℤ (AbsMt → ℤ) → Slot ℤ (AbsMt → ℤ)) : InputDev :=
  { dev with slots := Function.update dev.slots dev.slot (f (dev.slots dev.slot)) }

def inputMtSlot (dev : InputDev) (slot : Fin maxContacts) : InputDev := { dev with slot := slot }

/-- The slot of `key`; `none` is the C result -1. A slot taken for a new key
remembers it. -/
def inputMtGetSlotByKey (dev : InputDev) (key : ℤ) : Option (Fin maxContacts) × InputDev :=
  match SlotTable.slotFor key dev.slots with
  | none => (none, dev)
  | some i =>
      let slots := Function.update dev.slots i { dev.slots i with key := key }
      (some i, { dev with slots := slots })

/-- An absolute event goes to the current slot. -/
def inputReportAbs (code : AbsMt) (value : ℤ) (dev : InputDev) : InputDev :=
  dev.modifySlot fun s => { s with val := Function.update s.val code value }

/-- Mark the current slot as reported in this frame and set its state. -/
def inputMtReportSlotState (toolType : ℤ) (active : Bool) (dev : InputDev) : InputDev :=
  let dev := dev.modifySlot fun s => { s with used := true, active := active }
  if active then inputReportAbs .toolType toolType dev else dev

/-- End of a frame, with `INPUT_MT_DROP_UNUSED`. -/
def inputMtSyncFrame (dev : InputDev) : InputDev :=
  { dev with slots := dev.slots.sync, calls := dev.calls ++ [.mtSyncFrame] }

def inputSync (dev : InputDev) : InputDev := { dev with calls := dev.calls ++ [.sync] }

/-! ## Reporting one contact -/

/-- Called when a whole contact has been processed: assign it to a slot and store
the data there. -/
def sur40ReportBlob (blob : Sur40Blob) (input : InputDev) : InputDev :=
  let input := { input with calls := input.calls ++ [.reportBlob blob] }
  if blob.type ≠ sur40Touch then input
  else
    match inputMtGetSlotByKey input blob.blobId.toNat with
    | (none, input) => input
    | (some slotnum, input) =>
        let bbSizeX : ℤ := blob.bbSizeX.toNat
        let bbSizeY : ℤ := blob.bbSizeY.toNat
        let posX : ℤ := blob.posX.toNat
        let posY : ℤ := blob.posY.toNat
        let ctrX : ℤ := blob.ctrX.toNat
        let ctrY : ℤ := blob.ctrY.toNat
        let input := inputMtSlot input slotnum
        let input := inputMtReportSlotState mtToolFinger true input
        let wide : ℤ := if bbSizeX > bbSizeY then 1 else 0
        let major := max bbSizeX bbSizeY
        let minor := min bbSizeX bbSizeY
        let input := inputReportAbs .positionX posX input
        let input := inputReportAbs .positionY posY input
        let input := inputReportAbs .toolX ctrX input
        let input := inputReportAbs .toolY ctrY input
        let input := inputReportAbs .orientation wide input
        let input := inputReportAbs .touchMajor major input
        inputReportAbs .touchMinor minor input

/-- The values a contact leaves in its slot. -/
def contactAbs (blob : Sur40Blob) : AbsMt → ℤ
  | .toolType => mtToolFinger
  | .positionX => blob.posX.toNat
  | .positionY => blob.posY.toNat
  | .toolX => blob.ctrX.toNat
  | .toolY => blob.ctrY.toNat
  | .orientation => if blob.bbSizeX.toNat > blob.bbSizeY.toNat then 1 else 0
  | .touchMajor => max blob.bbSizeX.toNat blob.bbSizeY.toNat
  | .touchMinor => min blob.bbSizeX.toNat blob.bbSizeY.toNat

@[simp] theorem inputMtSyncFrame_slots (dev : InputDev) :
    (inputMtSyncFrame dev).slots = dev.slots.sync := rfl
@[simp] theorem inputSync_slots (dev : InputDev) : (inputSync dev).slots = dev.slots := rfl
@[simp] theorem inputMtSyncFrame_calls (dev : InputDev) :
    (inputMtSyncFrame dev).calls = dev.calls ++ [.mtSyncFrame] := rfl
@[simp] theorem inputSync_calls (dev : InputDev) :
    (inputSync dev).calls = dev.calls ++ [.sync] := rfl

@[simp] theorem modifySlot_calls (dev : InputDev)
    (f : Slot ℤ (AbsMt → ℤ) → Slot ℤ (AbsMt → ℤ)) : (dev.modifySlot f).calls = dev.calls := rfl
@[simp] theorem inputMtSlot_calls (dev : InputDev) (i : Fin maxContacts) :
    (inputMtSlot dev i).calls = dev.calls := rfl

theorem inputMtGetSlotByKey_calls {dev dev' : InputDev} {key : ℤ} {i : Option (Fin maxContacts)}
    (h : inputMtGetSlotByKey dev key = (i, dev')) : dev'.calls = dev.calls := by
  unfold inputMtGetSlotByKey at h
  split at h <;> cases h <;> rfl

/-- Reporting adds one call to the history, whether or not a slot is found. -/
@[simp] theorem sur40ReportBlob_calls (blob : Sur40Blob) (dev : InputDev) :
    (sur40ReportBlob blob dev).calls = dev.calls ++ [.reportBlob blob] := by
  simp only [sur40ReportBlob]
  split
  · rfl
  · split
    · next heq => exact inputMtGetSlotByKey_calls heq
    · next heq =>
        simpa [inputReportAbs, inputMtReportSlotState] using inputMtGetSlotByKey_calls heq

/-- A blob that is not a touch leaves the slots alone. -/
theorem sur40ReportBlob_slots_of_ne (blob : Sur40Blob) (dev : InputDev)
    (h : blob.type ≠ sur40Touch) : (sur40ReportBlob blob dev).slots = dev.slots := by
  simp [sur40ReportBlob, h]

/-- A touch is one report of the slot table: the driver's sequence of events
overwrites every axis of the slot it was given. -/
theorem sur40ReportBlob_slots (blob : Sur40Blob) (dev : InputDev)
    (h : blob.type = sur40Touch) :
    (sur40ReportBlob blob dev).slots =
      dev.slots.report ((blob.blobId.toNat : ℤ), contactAbs blob) := by
  unfold sur40ReportBlob inputMtGetSlotByKey SlotTable.report
  dsimp only
  rw [if_neg (not_not.mpr h)]
  cases SlotTable.slotFor (blob.blobId.toNat : ℤ) dev.slots with
  | none => rfl
  | some i =>
      have habs : ∀ val : AbsMt → ℤ,
          Function.update (Function.update (Function.update (Function.update (Function.update
            (Function.update (Function.update (Function.update val .toolType mtToolFinger)
              .positionX blob.posX.toNat) .positionY blob.posY.toNat) .toolX blob.ctrX.toNat)
              .toolY blob.ctrY.toNat)
              .orientation (if (blob.bbSizeX.toNat : ℤ) > blob.bbSizeY.toNat then 1 else 0))
              .touchMajor (max (blob.bbSizeX.toNat : ℤ) blob.bbSizeY.toNat))
              .touchMinor (min (blob.bbSizeX.toNat : ℤ) blob.bbSizeY.toNat) =
            contactAbs blob := by
        intro val
        funext code
        cases code <;> simp [contactAbs]
      simp only [inputReportAbs, inputMtReportSlotState, if_true, InputDev.modifySlot,
        inputMtSlot, Function.update_self, Function.update_idem, habs]

end Sur40
