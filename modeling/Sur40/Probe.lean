import Sur40.Lib.Ledger
import Sur40.State
import Mathlib.Data.Fin.Basic
import Mathlib.Data.List.FinRange

/-!
# The resources of the driver

`sur40_probe` gets one resource after another, and on an error gives those back that it has got
by then. What it holds at the end are all of them or none. A pointer that is `NULL` is freed
without effect, so that one function frees the URBs however far their allocation came.

## Main definitions

* `Resource`: what the driver gets from the kernel.
* `sur40AllocUrbs`, `sur40FreeUrbs`, `sur40Release`, `sur40ProbeRun`: the functions of the driver.
* `owned`: what the driver holds at a stage of the probe.
* `sur40FreeUrbs_frees`, `errFreeDev_frees` and so on: what the labels give back.
* `sur40ProbeRun_spec`: all resources or none.
-/

namespace Sur40

open Devlib Ledger

/-! ## The functions -/

/-- The pointers to URBs and to the drain buffer in `struct sur40_state`. -/
inductive UrbField where
  | touchUrbs (i : Fin sur40TouchUrbs)
  | videoHdrUrb
  | videoFrameUrb
  | videoDrainUrb
  | videoDrainBuf
  deriving DecidableEq

inductive Resource where
  | state
  /-- The reference to the USB device. -/
  | usbdev
  /-- The reference to the interface. -/
  | dev
  /-- What a pointer points to. -/
  | field (f : UrbField)
  /-- The transfer buffer of a URB. -/
  | transferBuffer (f : UrbField)
  | input
  | v4l2
  | hdl
  | vdev
  deriving DecidableEq

abbrev ResourceOp := Op Resource

/-- A pointer is `NULL`, or to a URB with or without a transfer buffer of its own. -/
abbrev Sur40Urbs := UrbField → Option Bool

/-- `kzalloc` sets the pointers to `NULL`. -/
def noUrbs : Sur40Urbs := fun _ => none

/-- What the calls of `sur40_probe` return. -/
structure ProbeEnv where
  interfaceClass : ℕ
  numEndpoints : ℕ
  touchEndpointAddress : ℕ
  touchEndpointIsBulkIn : Bool
  videoEndpointAddress : ℕ
  videoEndpointIsBulkIn : Bool
  touchPktSize : ℕ
  videoPktSize : ℕ
  /-- The allocation of a resource succeeds. -/
  alloc : Resource → Bool
  inputSetupEvents : ℤ
  inputRegisterDevice : ℤ
  v4l2DeviceRegister : ℤ
  vb2QueueInit : ℤ
  ctrlHandlerError : ℤ
  videoRegisterDevice : ℤ

/-- `size` of `sur40_alloc_bulk_urb`. -/
def ProbeEnv.size (env : ProbeEnv) : UrbField → ℕ
  | .touchUrbs _ => env.touchPktSize
  | .videoHdrUrb => env.videoPktSize
  | .videoFrameUrb | .videoDrainUrb | .videoDrainBuf => 0

/-- `sur40_alloc_bulk_urb`, or `kmalloc` for the drain buffer. -/
def sur40AllocField (env : ProbeEnv) (f : UrbField) : List ResourceOp × Option Bool :=
  if env.alloc (.field f) then
    if env.size f ≠ 0 then
      if env.alloc (.transferBuffer f) then
        ([.acquire (.field f), .acquire (.transferBuffer f)], some true)
      else ([.acquire (.field f), .release (.field f)], none)
    else ([.acquire (.field f)], some false)
  else ([], none)

/-- `kfree` of the transfer buffer and `usb_free_urb`. -/
def freeUrbAndBuffer (urbs : Sur40Urbs) (f : UrbField) : List ResourceOp :=
  match urbs f with
  | none => []
  | some true => [.release (.transferBuffer f), .release (.field f)]
  | some false => [.release (.field f)]

/-- `usb_free_urb`, or `kfree`. -/
def freeField (urbs : Sur40Urbs) (f : UrbField) : List ResourceOp :=
  if (urbs f).isSome then [.release (.field f)] else []

def touchFields : List UrbField := (List.finRange sur40TouchUrbs).map .touchUrbs

def sur40FreeUrbs (urbs : Sur40Urbs) : List ResourceOp :=
  .access .state :: (touchFields.flatMap (freeUrbAndBuffer urbs) ++
    (freeUrbAndBuffer urbs .videoHdrUrb ++ (freeField urbs .videoFrameUrb ++
      (freeField urbs .videoDrainUrb ++ freeField urbs .videoDrainBuf))))

/-- The order of `sur40_alloc_urbs`. -/
def urbFields : List UrbField :=
  touchFields ++ [.videoHdrUrb, .videoFrameUrb, .videoDrainBuf, .videoDrainUrb]

/-- `sur40_alloc_urbs` from one of its pointers on. -/
def sur40AllocUrbs (env : ProbeEnv) : List UrbField → Sur40Urbs → List ResourceOp × Sur40Urbs × ℤ
  | [], urbs => ([], urbs, 0)
  | f :: fs, urbs =>
      let (ops, p) := sur40AllocField env f
      let urbs := Function.update urbs f p
      if p.isNone then (.access .state :: ops ++ sur40FreeUrbs urbs, urbs, -enomem)
      else
        let (ops', urbs, error) := sur40AllocUrbs env fs urbs
        (.access .state :: ops ++ ops', urbs, error)

/-- `err_free_dev` -/
def errFreeDev : List ResourceOp :=
  [.access .state, .release .dev, .access .state, .release .usbdev, .release .state]

/-- `err_free_urbs` -/
def errFreeUrbs (urbs : Sur40Urbs) : List ResourceOp := sur40FreeUrbs urbs ++ errFreeDev

/-- `err_free_input`; the argument is whether `input` is not `NULL`. -/
def errFreeInput (urbs : Sur40Urbs) (input : Bool) : List ResourceOp :=
  (if input then [.release .input] else []) ++ errFreeUrbs urbs

/-- `err_unreg_input` -/
def errUnregInput (urbs : Sur40Urbs) : List ResourceOp :=
  [.release .input] ++ errFreeInput urbs false

/-- `err_unreg_v4l2` -/
def errUnregV4l2 (urbs : Sur40Urbs) : List ResourceOp :=
  [.access .state, .release .v4l2] ++ errUnregInput urbs

/-- `err_free_ctrl` -/
def errFreeCtrl (urbs : Sur40Urbs) : List ResourceOp :=
  [.access .state, .release .hdl] ++ errUnregV4l2 urbs

/-- `sur40_release` -/
def sur40Release (urbs : Sur40Urbs) : List ResourceOp :=
  [.access .state, .release .hdl, .access .state, .release .v4l2] ++
    (sur40FreeUrbs urbs ++ errFreeDev)

/-- `v4l2_device_put`, with the references that are left. -/
def v4l2DevicePut (urbs : Sur40Urbs) (refs : ℕ) : List ResourceOp × ℕ :=
  if refs = 1 then (.access .state :: sur40Release urbs, 0) else ([.access .state], refs - 1)

/-- What `sur40_probe` has done. -/
structure Probed where
  ops : List ResourceOp
  urbs : Sur40Urbs
  /-- References to the V4L2 device. -/
  v4l2Refs : ℕ
  error : ℤ

/-- `sur40_probe` behind `v4l2_device_register`. A video node that is registered holds a reference
to the V4L2 device, and the driver gets one more for it. -/
def sur40ProbeVideo (env : ProbeEnv) (ops : List ResourceOp) (urbs : Sur40Urbs) : Probed :=
  if env.vb2QueueInit ≠ 0 then ⟨ops ++ errUnregV4l2 urbs, urbs, 1, env.vb2QueueInit⟩
  else
    let ops := ops ++ [.access .state] ++ [.acquire .hdl] ++ [.access .hdl]
    if env.ctrlHandlerError ≠ 0 then ⟨ops ++ errFreeCtrl urbs, urbs, 1, env.ctrlHandlerError⟩
    else
      let ops := ops ++ [.access .state] ++ [.access .v4l2] -- `v4l2_device_get`
      if env.videoRegisterDevice ≠ 0 then
        let (putOps, refs) := v4l2DevicePut urbs 2
        ⟨ops ++ (putOps ++ errFreeCtrl urbs), urbs, refs, env.videoRegisterDevice⟩
      else ⟨ops ++ [.acquire .vdev], urbs, 3, 0⟩

/-- `sur40_probe` behind `sur40_alloc_urbs`. -/
def sur40ProbeInput (env : ProbeEnv) (ops : List ResourceOp) (urbs : Sur40Urbs) : Probed :=
  if ¬env.alloc .input then ⟨ops ++ errFreeUrbs urbs, urbs, 0, -enomem⟩
  else
    let ops := ops ++ [.acquire .input] ++ [.access .state]
    if env.inputSetupEvents ≠ 0 then
      ⟨ops ++ errFreeInput urbs true, urbs, 0, env.inputSetupEvents⟩
    else
      let ops := ops ++ [.access .input] ++ [.access .state]
      if env.inputRegisterDevice ≠ 0 then
        ⟨ops ++ errFreeInput urbs true, urbs, 0, env.inputRegisterDevice⟩
      else if env.v4l2DeviceRegister ≠ 0 then
        ⟨ops ++ errUnregInput urbs, urbs, 0, env.v4l2DeviceRegister⟩
      else sur40ProbeVideo env (ops ++ [.access .state] ++ [.acquire .v4l2]) urbs

/-- `sur40_probe` -/
def sur40ProbeRun (env : ProbeEnv) : Probed :=
  if env.interfaceClass ≠ 0xFF then ⟨[], noUrbs, 0, -enodev⟩
  else if env.numEndpoints < 5 then ⟨[], noUrbs, 0, -enodev⟩
  else if env.touchEndpointAddress ≠ 0x86 ∨ ¬env.touchEndpointIsBulkIn then
    ⟨[], noUrbs, 0, -enodev⟩
  else if env.videoEndpointAddress ≠ 0x82 ∨ ¬env.videoEndpointIsBulkIn then
    ⟨[], noUrbs, 0, -enodev⟩
  else if ¬env.alloc .state then ⟨[], noUrbs, 0, -enomem⟩
  else
    let (urbOps, urbs, error) := sur40AllocUrbs env urbFields noUrbs
    let ops : List ResourceOp :=
      [.acquire .state, .access .state, .acquire .usbdev, .access .state, .acquire .dev] ++ urbOps
    if error ≠ 0 then ⟨ops ++ errFreeDev, urbs, 0, error⟩ else sur40ProbeInput env ops urbs

/-! ## What is held -/

/-- What a pointer owns of a resource. -/
def Sur40Urbs.owns (urbs : Sur40Urbs) : Resource → Bool
  | .field f => (urbs f).isSome
  | .transferBuffer f => decide (urbs f = some true)
  | _ => true

/-- The stage of the probe at which a resource is got. -/
def Resource.stage : Resource → ℕ
  | .state | .usbdev | .dev => 0
  | .field _ | .transferBuffer _ => 1
  | .input => 2
  | .v4l2 => 3
  | .hdl => 4
  | .vdev => 5

/-- What the driver holds behind a stage. -/
def owned (urbs : Sur40Urbs) (stage : ℕ) (r : Resource) : Bool :=
  decide (r.stage ≤ stage) && urbs.owns r

/-- What belongs to a pointer. -/
def fieldOwned (urbs : Sur40Urbs) (f : UrbField) : Resource → Bool
  | .field g => decide (g = f) && (urbs f).isSome
  | .transferBuffer g => decide (g = f) && decide (urbs f = some true)
  | _ => false

/-- Only the URBs that are filled when they are allocated have a transfer buffer of their own. -/
def WellSized (urbs : Sur40Urbs) : Prop :=
  ∀ f ∈ [UrbField.videoFrameUrb, .videoDrainUrb, .videoDrainBuf], urbs f ≠ some true

/-- The functions that free find their way over the state. -/
def usesState (r : Resource) : Bool := decide (r = .state)

variable {urbs : Sur40Urbs} {f : UrbField}

theorem fieldOwned_state {r : Resource} (hr : usesState r = true) :
    fieldOwned urbs f r = false := by
  rw [of_decide_eq_true hr]
  rfl

theorem fieldOwned_disjoint {g : UrbField} (h : f ≠ g) (r : Resource)
    (hr : fieldOwned urbs g r = true) : fieldOwned urbs f r = false := by
  cases r with
  | field k =>
      simp only [fieldOwned, Bool.and_eq_true, decide_eq_true_eq] at hr
      simp [fieldOwned, hr.1, h.symm]
  | transferBuffer k =>
      simp only [fieldOwned, Bool.and_eq_true, decide_eq_true_eq] at hr
      simp [fieldOwned, hr.1, h.symm]
  | _ => rfl

theorem freeField_frees (h : urbs f ≠ some true) :
    Frees usesState (freeField urbs f) (fieldOwned urbs f) := by
  rw [freeField]
  cases hf : urbs f with
  | none =>
      apply (frees_nil usesState).congr
      intro r
      cases r <;> simp [fieldOwned, hf]
  | some owns =>
      rw [hf] at h
      apply (frees_release usesState (.field f)).congr
      intro r
      cases r <;> simp_all [fieldOwned]

theorem freeUrbAndBuffer_frees (urbs : Sur40Urbs) (f : UrbField) :
    Frees usesState (freeUrbAndBuffer urbs f) (fieldOwned urbs f) := by
  rw [freeUrbAndBuffer]
  cases hf : urbs f with
  | none =>
      apply (frees_nil usesState).congr
      intro r
      cases r <;> simp [fieldOwned, hf]
  | some owns =>
      cases owns with
      | false =>
          apply (frees_release usesState (.field f)).congr
          intro r
          cases r <;> simp [fieldOwned, hf]
      | true =>
          have hboth := (frees_release usesState (Resource.transferBuffer f)).append
            (frees_release usesState (Resource.field f)) (by simp [usesState]) (by simp)
          apply hboth.congr
          intro r
          cases r <;> simp [fieldOwned, hf]

/-- The part of `sur40_free_urbs` for one of the pointers. -/
def freePointer (urbs : Sur40Urbs) (f : UrbField) : List ResourceOp :=
  match f with
  | .touchUrbs _ | .videoHdrUrb => freeUrbAndBuffer urbs f
  | .videoFrameUrb | .videoDrainUrb | .videoDrainBuf => freeField urbs f

theorem freePointer_frees (h : WellSized urbs) (f : UrbField) :
    Frees usesState (freePointer urbs f) (fieldOwned urbs f) := by
  cases f with
  | touchUrbs i => exact freeUrbAndBuffer_frees urbs _
  | videoHdrUrb => exact freeUrbAndBuffer_frees urbs _
  | videoFrameUrb => exact freeField_frees (h _ (by simp))
  | videoDrainUrb => exact freeField_frees (h _ (by simp))
  | videoDrainBuf => exact freeField_frees (h _ (by simp))

/-- The order of `sur40_free_urbs`. -/
def freeOrder : List UrbField :=
  touchFields ++ [.videoHdrUrb, .videoFrameUrb, .videoDrainUrb, .videoDrainBuf]

theorem mem_touchFields {f : UrbField} : f ∈ touchFields ↔ ∃ i, f = .touchUrbs i := by
  simp [touchFields, eq_comm]

theorem nodup_touchFields : touchFields.Nodup := by
  apply (List.nodup_finRange _).map
  intro i j h
  exact UrbField.touchUrbs.inj h

theorem mem_freeOrder (f : UrbField) : f ∈ freeOrder := by
  rw [freeOrder, List.mem_append, mem_touchFields]
  cases f <;> simp

theorem nodup_freeOrder : freeOrder.Nodup := by
  rw [freeOrder, List.nodup_append]
  refine ⟨nodup_touchFields, by decide, ?_⟩
  rintro f hf g hg rfl
  rcases mem_touchFields.mp hf with ⟨i, rfl⟩
  simp at hg

theorem sur40FreeUrbs_eq (urbs : Sur40Urbs) :
    sur40FreeUrbs urbs = [.access .state] ++ freeOrder.flatMap (freePointer urbs) := by
  have htouch : touchFields.flatMap (freePointer urbs) =
      touchFields.flatMap (freeUrbAndBuffer urbs) := by
    apply List.flatMap_congr
    intro f hf
    rcases mem_touchFields.mp hf with ⟨i, rfl⟩
    rfl
  rw [freeOrder, List.flatMap_append, htouch, sur40FreeUrbs]
  simp [freePointer]

/-- The URBs are freed, whichever there are. -/
theorem sur40FreeUrbs_frees (h : WellSized urbs) :
    Frees usesState (sur40FreeUrbs urbs) fun r => decide (r.stage = 1) && urbs.owns r := by
  have hfields : Frees usesState (freeOrder.flatMap (freePointer urbs))
      fun r => freeOrder.any fun f => fieldOwned urbs f r := by
    apply Frees.flatMap fun f _ => freePointer_frees h f
    · exact fun f _ r hr => fieldOwned_state hr
    · exact nodup_freeOrder.imp fun hne r hr => fieldOwned_disjoint hne r hr
  have hstate : Frees usesState [.access .state] fun _ => false := frees_access rfl
  rw [sur40FreeUrbs_eq]
  apply (hstate.append hfields (fun _ _ => rfl) fun _ _ => rfl).congr
  intro r
  rw [Bool.false_or, Bool.eq_iff_iff, List.any_eq_true]
  cases r <;> simp [fieldOwned, Sur40Urbs.owns, Resource.stage, mem_freeOrder]

/-! ## The labels -/

theorem errFreeDev_frees (urbs : Sur40Urbs) : Frees usesState errFreeDev (owned urbs 0) := by
  intro held _ hheld
  have hstate := hheld .state rfl
  have husbdev := hheld .usbdev rfl
  have hdev := hheld .dev rfl
  simp only [errFreeDev, run, step, hstate, hdev, husbdev, if_true, Option.bind_some,
    Function.update_of_ne, ne_eq, reduceCtorEq, not_false_eq_true]
  congr 1
  ext r : 1
  cases r <;> simp [owned, Resource.stage, Sur40Urbs.owns]

theorem errFreeUrbs_frees (h : WellSized urbs) :
    Frees usesState (errFreeUrbs urbs) (owned urbs 1) := by
  have hboth := (sur40FreeUrbs_frees h).append (errFreeDev_frees urbs)
    (fun r hr => by simp [of_decide_eq_true hr, Resource.stage])
    (fun r hr => by simp_all [owned])
  apply hboth.congr
  intro r
  cases r <;> simp [owned, Resource.stage, Sur40Urbs.owns]

/-- The resource of a stage is given back before those of the stages in front of it. -/
theorem Frees.stage {ops : List ResourceOp} {stage : ℕ} {r : Resource}
    (h : Frees usesState ops (owned urbs stage)) (hstage : ∀ r', r'.stage = stage + 1 ↔ r' = r)
    (howns : urbs.owns r = true) :
    Frees usesState (.release r :: ops) (owned urbs (stage + 1)) := by
  have hr := (hstage r).mpr rfl
  have hboth := (frees_release usesState r).append h
    (by
      intro r' hr'
      rw [of_decide_eq_true hr', decide_eq_false_iff_not, ← hstage]
      exact Nat.succ_ne_zero stage ∘ Eq.symm)
    (by
      intro r' hr'
      rw [owned, Bool.and_eq_true, decide_eq_true_eq] at hr'
      rw [decide_eq_false_iff_not, ← hstage]
      omega)
  apply hboth.congr
  intro r'
  by_cases hr' : r' = r
  · simp [hr', owned, hr, howns]
  · have hne := (not_congr (hstage r')).mpr hr'
    have hle : r'.stage ≤ stage ↔ r'.stage ≤ stage + 1 := by omega
    simp [hr', owned, hle]

theorem Frees.state {ops : List ResourceOp} {rs : Resource → Bool} (h : Frees usesState ops rs) :
    Frees usesState (.access .state :: ops) rs := by
  have hstate : Frees usesState [.access .state] fun _ => false := frees_access rfl
  exact hstate.append h (fun _ _ => rfl) fun _ _ => rfl

theorem errFreeInput_frees (h : WellSized urbs) :
    Frees usesState (errFreeInput urbs true) (owned urbs 2) :=
  Frees.stage (errFreeUrbs_frees h) (fun r => by cases r <;> simp [Resource.stage]) rfl

/-- The input device that is unregistered is not freed again. -/
theorem errUnregInput_frees (h : WellSized urbs) :
    Frees usesState (errUnregInput urbs) (owned urbs 2) := errFreeInput_frees h

theorem errUnregV4l2_frees (h : WellSized urbs) :
    Frees usesState (errUnregV4l2 urbs) (owned urbs 3) :=
  Frees.state (Frees.stage (errUnregInput_frees h)
    (fun r => by cases r <;> simp [Resource.stage]) rfl)

theorem errFreeCtrl_frees (h : WellSized urbs) :
    Frees usesState (errFreeCtrl urbs) (owned urbs 4) :=
  Frees.state (Frees.stage (errUnregV4l2_frees h)
    (fun r => by cases r <;> simp [Resource.stage]) rfl)

/-! ## The allocation of the URBs -/

/-- A pointer that is set owns its URB, and the transfer buffer if there is one. -/
theorem owned_update (urbs : Sur40Urbs) (f : UrbField) (p : Option Bool) :
    owned (Function.update urbs f p) 1 =
      Function.update (Function.update (owned urbs 1) (.field f) p.isSome) (.transferBuffer f)
        (decide (p = some true)) := by
  ext r : 1
  cases r with
  | field g =>
      rw [Function.update_of_ne (by simp)]
      by_cases hg : g = f
      · simp [owned, Resource.stage, Sur40Urbs.owns, hg]
      · simp [owned, Resource.stage, Sur40Urbs.owns, hg]
  | transferBuffer g =>
      by_cases hg : g = f
      · simp [owned, Resource.stage, Sur40Urbs.owns, hg]
      · simp [owned, Resource.stage, Sur40Urbs.owns, hg]
  | _ => rfl

/-- What one allocation gets is what its pointer owns. -/
theorem sur40AllocField_run (env : ProbeEnv) (hf : urbs f = none) :
    run (sur40AllocField env f).1 (owned urbs 1) =
      some (owned (Function.update urbs f (sur40AllocField env f).2) 1) := by
  have hfield : owned urbs 1 (.field f) = false := by
    simp [owned, Sur40Urbs.owns, hf]
  have hbuffer : owned urbs 1 (.transferBuffer f) = false := by
    simp [owned, Sur40Urbs.owns, hf]
  have hidle : Function.update urbs f none = urbs := by
    rw [← hf, Function.update_eq_self]
  rw [sur40AllocField]
  split_ifs
  · rw [owned_update]
    simp [run, step, hfield, hbuffer]
  · rw [hidle]
    simp only [run, step, hfield, Bool.false_eq_true, if_false, Option.bind_some,
      Function.update_self, if_true, Function.update_idem]
    rw [← hfield, Function.update_eq_self]
  · rw [owned_update]
    simp only [run, step, hfield, Bool.false_eq_true, if_false, Option.bind_some]
    congr 1
    have hkeep : Function.update (owned urbs 1) (Resource.field f) true (.transferBuffer f) =
        false := by
      rw [Function.update_of_ne (by simp), hbuffer]
    exact (Function.update_eq_self_iff.mpr hkeep.symm).symm
  · rw [hidle]
    rfl

/-- An allocation that fails leaves its pointer `NULL`. -/
theorem WellSized.alloc (h : WellSized urbs) (env : ProbeEnv) (f : UrbField) :
    WellSized (Function.update urbs f (sur40AllocField env f).2) := by
  intro g hg
  by_cases hgf : g = f
  · have hsize : env.size f = 0 := by
      rw [hgf] at hg
      cases f <;> simp_all [ProbeEnv.size]
    rw [hgf, Function.update_self, sur40AllocField]
    split_ifs <;> simp_all
  · rw [Function.update_of_ne hgf]
    exact h g hg

theorem enomem_ne_zero : (-enomem) ≠ 0 := by decide

/-- Either all pointers are set, or all that was got is given back. -/
theorem sur40AllocUrbs_spec (env : ProbeEnv) {fs : List UrbField} (hnodup : fs.Nodup)
    (hnone : ∀ f ∈ fs, urbs f = none) (hsized : WellSized urbs) :
    let result := sur40AllocUrbs env fs urbs
    WellSized result.2.1 ∧
      run result.1 (owned urbs 1) =
        some (owned result.2.1 (if result.2.2 = 0 then 1 else 0)) ∧
      (result.2.2 = 0 → ∀ f, (f ∈ fs ∨ (urbs f).isSome) → (result.2.1 f).isSome) := by
  induction fs generalizing urbs with
  | nil => exact ⟨hsized, rfl, fun _ f hf => hf.resolve_left List.not_mem_nil⟩
  | cons f fs ih =>
      rw [List.nodup_cons] at hnodup
      have hf := sur40AllocField_run env (hnone f List.mem_cons_self)
      have hsized' := hsized.alloc env f
      have hstate : step (owned urbs 1) (.access .state) = some (owned urbs 1) := rfl
      by_cases hp : (sur40AllocField env f).2.isNone = true
      · simp only [sur40AllocUrbs, hp, if_true]
        have hfree := sur40FreeUrbs_frees hsized'
          (owned (Function.update urbs f (sur40AllocField env f).2) 1)
          (fun r hr => by rw [of_decide_eq_true hr]; rfl)
          (fun r hr => by
            rw [Bool.and_eq_true, decide_eq_true_eq] at hr
            simp [owned, hr])
        refine ⟨hsized', ?_, fun h => absurd h enomem_ne_zero⟩
        rw [if_neg enomem_ne_zero, List.cons_append, run, hstate, Option.bind_some, run_append, hf,
          Option.bind_some, hfree]
        congr 1
        ext r : 1
        cases r <;> simp [owned, Resource.stage, Sur40Urbs.owns]
      · simp only [sur40AllocUrbs, hp, if_false, Bool.false_eq_true]
        have hnone' : ∀ g ∈ fs, Function.update urbs f (sur40AllocField env f).2 g = none := by
          intro g hg
          rw [Function.update_of_ne (ne_of_mem_of_not_mem hg hnodup.1)]
          exact hnone g (List.mem_cons_of_mem f hg)
        have hrest := ih hnodup.2 hnone' hsized'
        refine ⟨hrest.1, ?_, fun herror g hg => hrest.2.2 herror g ?_⟩
        · rw [List.cons_append, run, hstate, Option.bind_some, run_append, hf, Option.bind_some]
          exact hrest.2.1
        · by_cases hgf : g = f
          · rw [hgf, Function.update_self, ← Option.not_isNone, Bool.not_eq_true']
            exact Or.inr (eq_false_of_ne_true hp)
          · rw [Function.update_of_ne hgf]
            exact hg.imp_left fun hg => (List.mem_cons.mp hg).resolve_left hgf

/-! ## What the calls return -/

/-- What a pointer needs is allocated. -/
def ProbeEnv.Allocates (env : ProbeEnv) (f : UrbField) : Prop :=
  env.alloc (.field f) = true ∧ (env.size f ≠ 0 → env.alloc (.transferBuffer f) = true)

/-- The interface is the panel's, and every call of `sur40_probe` succeeds. -/
structure ProbeEnv.Succeeds (env : ProbeEnv) : Prop where
  interfaceClass : env.interfaceClass = 0xFF
  numEndpoints : 5 ≤ env.numEndpoints
  touchEndpoint : env.touchEndpointAddress = 0x86 ∧ env.touchEndpointIsBulkIn = true
  videoEndpoint : env.videoEndpointAddress = 0x82 ∧ env.videoEndpointIsBulkIn = true
  state : env.alloc .state = true
  urbs : ∀ f, env.Allocates f
  input : env.alloc .input = true
  inputSetupEvents : env.inputSetupEvents = 0
  inputRegisterDevice : env.inputRegisterDevice = 0
  v4l2DeviceRegister : env.v4l2DeviceRegister = 0
  vb2QueueInit : env.vb2QueueInit = 0
  ctrlHandlerError : env.ctrlHandlerError = 0
  videoRegisterDevice : env.videoRegisterDevice = 0

theorem sur40AllocField_eq_some (env : ProbeEnv) (f : UrbField) {p : Bool} :
    (sur40AllocField env f).2 = some p ↔ env.Allocates f ∧ p = decide (env.size f ≠ 0) := by
  rw [sur40AllocField, ProbeEnv.Allocates]
  split_ifs with hfield hsize hbuffer
  · cases p <;> simp [hfield, hsize, hbuffer]
  · simp [hsize, hbuffer]
  · cases p <;> simp_all
  · simp [hfield]

/-- The allocation gets through if each of its calls does. -/
theorem sur40AllocUrbs_error_iff (env : ProbeEnv) (fs : List UrbField) (urbs : Sur40Urbs) :
    (sur40AllocUrbs env fs urbs).2.2 = 0 ↔ ∀ f ∈ fs, env.Allocates f := by
  induction fs generalizing urbs with
  | nil => simp [sur40AllocUrbs]
  | cons f fs ih =>
      rw [List.forall_mem_cons, sur40AllocUrbs]
      cases hp : (sur40AllocField env f).2 with
      | none =>
          have hfails : ¬env.Allocates f := by
            intro hf
            rw [(sur40AllocField_eq_some env f).mpr ⟨hf, rfl⟩] at hp
            cases hp
          simp [hp, hfails, enomem]
      | some p =>
          have hf := ((sur40AllocField_eq_some env f).mp hp).1
          simp [hp, hf, ih]

/-- Transfer buffers are where one was asked for. -/
theorem sur40AllocUrbs_urbs (env : ProbeEnv) {fs : List UrbField}
    (h : (sur40AllocUrbs env fs urbs).2.2 = 0) (f : UrbField) :
    (sur40AllocUrbs env fs urbs).2.1 f =
      if f ∈ fs then some (decide (env.size f ≠ 0)) else urbs f := by
  induction fs generalizing urbs with
  | nil => simp [sur40AllocUrbs]
  | cons g fs ih =>
      have hall := (sur40AllocUrbs_error_iff env (g :: fs) urbs).mp h
      have hg := (sur40AllocField_eq_some env g).mpr ⟨hall g List.mem_cons_self, rfl⟩
      have hrest := (sur40AllocUrbs_error_iff env fs (Function.update urbs g
        (some (decide (env.size g ≠ 0))))).mpr fun f hf => hall f (List.mem_cons_of_mem g hf)
      simp only [sur40AllocUrbs, hg, Option.isNone_some, Bool.false_eq_true, if_false]
      rw [ih hrest]
      by_cases hf : f ∈ fs
      · rw [if_pos hf, if_pos (List.mem_cons_of_mem g hf)]
      · rw [if_neg hf]
        by_cases hfg : f = g
        · rw [hfg, Function.update_self, if_pos List.mem_cons_self]
        · rw [Function.update_of_ne hfg, if_neg]
          exact List.not_mem_cons_of_ne_of_not_mem hfg hf

/-! ## The probe -/

variable {ops : List ResourceOp} {stage : ℕ}

/-- What has been got is given back by the label of the stage. -/
theorem run_free {ops' : List ResourceOp} (h : run ops (fun _ => false) = some (owned urbs stage))
    (hfree : Frees usesState ops' (owned urbs stage)) :
    run (ops ++ ops') (fun _ => false) = some fun _ => false := by
  rw [run_append, h, Option.bind_some, hfree (owned urbs stage)]
  · congr 1
    ext r : 1
    rw [Bool.and_not_self]
  · intro r hr
    rw [of_decide_eq_true hr]
    rfl
  · exact fun r hr => hr

/-- The resource of the next stage is got. -/
theorem run_acquire {r : Resource} (h : run ops (fun _ => false) = some (owned urbs stage))
    (hstage : ∀ r', r'.stage = stage + 1 ↔ r' = r) (howns : urbs.owns r = true) :
    run (ops ++ [.acquire r]) (fun _ => false) = some (owned urbs (stage + 1)) := by
  have hr := (hstage r).mpr rfl
  have hidle : owned urbs stage r = false := by
    simp [owned, hr]
  rw [run_append, h, Option.bind_some]
  simp only [run, step, hidle, Bool.false_eq_true, if_false, Option.bind_some]
  congr 1
  ext r' : 1
  by_cases hr' : r' = r
  · simp [hr', owned, hr, howns]
  · have hne := (not_congr (hstage r')).mpr hr'
    have hle : r'.stage ≤ stage ↔ r'.stage ≤ stage + 1 := by omega
    simp [hr', owned, hle]

theorem run_access {r : Resource} (h : run ops (fun _ => false) = some (owned urbs stage))
    (hr : owned urbs stage r = true) :
    run (ops ++ [.access r]) (fun _ => false) = some (owned urbs stage) := by
  rw [run_append, h, Option.bind_some]
  simp [run, step, hr]

theorem run_access_state (h : run ops (fun _ => false) = some (owned urbs stage)) :
    run (ops ++ [.access .state]) (fun _ => false) = some (owned urbs stage) :=
  run_access h rfl

/-- All resources, with the references that the video node and the driver hold to the V4L2 device,
or none. -/
def Probed.AllOrNone (p : Probed) : Prop :=
  run p.ops (fun _ => false) = some (if p.error = 0 then owned p.urbs 5 else fun _ => false) ∧
    (p.error = 0 → p.v4l2Refs = 3 ∧ (∀ f, (p.urbs f).isSome = true) ∧ WellSized p.urbs)

theorem Probed.allOrNone_of_error {error : ℤ} {refs : ℕ}
    (h : run ops (fun _ => false) = some fun _ => false) (herror : error ≠ 0) :
    AllOrNone ⟨ops, urbs, refs, error⟩ := by
  refine ⟨?_, fun h0 => absurd h0 herror⟩
  rw [if_neg herror]
  exact h

theorem mem_urbFields (f : UrbField) : f ∈ urbFields := by
  rw [urbFields, List.mem_append, mem_touchFields]
  cases f <;> simp

theorem nodup_urbFields : urbFields.Nodup := by
  rw [urbFields, List.nodup_append]
  refine ⟨nodup_touchFields, by decide, ?_⟩
  rintro f hf g hg rfl
  rcases mem_touchFields.mp hf with ⟨i, rfl⟩
  simp at hg

theorem enodev_ne_zero : (-enodev) ≠ 0 := by decide

theorem sur40ProbeVideo_allOrNone (env : ProbeEnv)
    (h : run ops (fun _ => false) = some (owned urbs 3)) (hsized : WellSized urbs)
    (hall : ∀ f, (urbs f).isSome = true) : (sur40ProbeVideo env ops urbs).AllOrNone := by
  rw [sur40ProbeVideo]
  by_cases hinit : env.vb2QueueInit ≠ 0
  · rw [if_pos hinit]
    exact Probed.allOrNone_of_error (run_free h (errUnregV4l2_frees hsized)) hinit
  rw [if_neg hinit]
  have hacquire := run_acquire (r := .hdl) (run_access_state h)
    (fun r => by cases r <;> simp [Resource.stage]) rfl
  have hhdl := run_access (r := .hdl) hacquire rfl
  by_cases hctrl : env.ctrlHandlerError ≠ 0
  · simp only [if_pos hctrl]
    exact Probed.allOrNone_of_error (run_free hhdl (errFreeCtrl_frees hsized)) hctrl
  simp only [if_neg hctrl]
  have hget := run_access (r := .v4l2) (run_access_state hhdl) rfl
  by_cases hvideo : env.videoRegisterDevice ≠ 0
  · simp only [if_pos hvideo]
    exact Probed.allOrNone_of_error
      (run_free hget (Frees.state (errFreeCtrl_frees hsized))) hvideo
  · simp only [if_neg hvideo]
    exact ⟨run_acquire hget (fun r => by cases r <;> simp [Resource.stage]) rfl,
      fun _ => ⟨rfl, hall, hsized⟩⟩

theorem sur40ProbeInput_allOrNone (env : ProbeEnv)
    (h : run ops (fun _ => false) = some (owned urbs 1)) (hsized : WellSized urbs)
    (hall : ∀ f, (urbs f).isSome = true) : (sur40ProbeInput env ops urbs).AllOrNone := by
  rw [sur40ProbeInput]
  by_cases hinput : ¬env.alloc .input = true
  · rw [if_pos hinput]
    exact Probed.allOrNone_of_error (run_free h (errFreeUrbs_frees hsized)) enomem_ne_zero
  rw [if_neg hinput]
  have hacquire := run_access_state (run_acquire (r := .input) h
    (fun r => by cases r <;> simp [Resource.stage]) rfl)
  by_cases hsetup : env.inputSetupEvents ≠ 0
  · simp only [if_pos hsetup]
    exact Probed.allOrNone_of_error (run_free hacquire (errFreeInput_frees hsized)) hsetup
  simp only [if_neg hsetup]
  have hset := run_access_state (run_access (r := .input) hacquire rfl)
  by_cases hregister : env.inputRegisterDevice ≠ 0
  · rw [if_pos hregister]
    exact Probed.allOrNone_of_error (run_free hset (errFreeInput_frees hsized)) hregister
  rw [if_neg hregister]
  by_cases hv4l2 : env.v4l2DeviceRegister ≠ 0
  · rw [if_pos hv4l2]
    exact Probed.allOrNone_of_error (run_free hset (errUnregInput_frees hsized)) hv4l2
  · rw [if_neg hv4l2]
    exact sur40ProbeVideo_allOrNone env (run_acquire (run_access_state hset)
      (fun r => by cases r <;> simp [Resource.stage]) rfl) hsized hall

/-- The driver's state and its references to the device and the interface. -/
theorem run_dev : run [.acquire .state, .access .state, .acquire .usbdev, .access .state,
    .acquire .dev] (fun _ => false) = some (owned noUrbs 1) := by
  simp only [run, step, Bool.false_eq_true, if_false, Option.bind_some, Function.update_self,
    if_true, Function.update_of_ne, ne_eq, reduceCtorEq, not_false_eq_true]
  congr 1
  ext r : 1
  cases r <;> rfl

/-- Whatever fails, all that the driver has got by then is given back, once, and nothing of it is
used any more. -/
theorem sur40ProbeRun_allOrNone (env : ProbeEnv) : (sur40ProbeRun env).AllOrNone := by
  have hnone : ∀ f ∈ urbFields, noUrbs f = none := fun _ _ => rfl
  have hspec := sur40AllocUrbs_spec env nodup_urbFields hnone fun _ _ => by simp [noUrbs]
  rw [sur40ProbeRun]
  generalize sur40AllocUrbs env urbFields noUrbs = result at *
  rcases result with ⟨urbOps, urbs, error⟩
  rcases hspec with ⟨hsized, hrun, hall⟩
  have hurbs : run ([.acquire .state, .access .state, .acquire .usbdev, .access .state,
      .acquire .dev] ++ urbOps) (fun _ => false) =
        some (owned urbs (if error = 0 then 1 else 0)) := by
    rw [run_append, run_dev, Option.bind_some, hrun]
  dsimp only
  by_cases hclass : env.interfaceClass ≠ 0xFF
  · rw [if_pos hclass]
    exact Probed.allOrNone_of_error rfl enodev_ne_zero
  rw [if_neg hclass]
  by_cases hends : env.numEndpoints < 5
  · rw [if_pos hends]
    exact Probed.allOrNone_of_error rfl enodev_ne_zero
  rw [if_neg hends]
  by_cases htouch : env.touchEndpointAddress ≠ 0x86 ∨ ¬env.touchEndpointIsBulkIn = true
  · rw [if_pos htouch]
    exact Probed.allOrNone_of_error rfl enodev_ne_zero
  rw [if_neg htouch]
  by_cases hvideo : env.videoEndpointAddress ≠ 0x82 ∨ ¬env.videoEndpointIsBulkIn = true
  · rw [if_pos hvideo]
    exact Probed.allOrNone_of_error rfl enodev_ne_zero
  rw [if_neg hvideo]
  by_cases hstate : ¬env.alloc .state = true
  · rw [if_pos hstate]
    exact Probed.allOrNone_of_error rfl enomem_ne_zero
  rw [if_neg hstate]
  by_cases herror : error ≠ 0
  · rw [if_pos herror]
    rw [if_neg herror] at hurbs
    exact Probed.allOrNone_of_error (run_free hurbs (errFreeDev_frees urbs)) herror
  · rw [if_neg herror]
    rw [not_not] at herror
    rw [if_pos herror] at hurbs
    exact sur40ProbeInput_allOrNone env hurbs hsized
      fun f => hall herror f (Or.inl (mem_urbFields f))

theorem sur40ProbeVideo_error_iff (env : ProbeEnv) :
    (sur40ProbeVideo env ops urbs).error = 0 ↔
      env.vb2QueueInit = 0 ∧ env.ctrlHandlerError = 0 ∧ env.videoRegisterDevice = 0 := by
  rw [sur40ProbeVideo]
  by_cases hinit : env.vb2QueueInit = 0
  · by_cases hctrl : env.ctrlHandlerError = 0
    · by_cases hvideo : env.videoRegisterDevice = 0
      · simp [hinit, hctrl, hvideo]
      · simp [hinit, hctrl, hvideo]
    · simp [hinit, hctrl]
  · simp [hinit]

theorem sur40ProbeInput_error_iff (env : ProbeEnv) :
    (sur40ProbeInput env ops urbs).error = 0 ↔
      env.alloc .input = true ∧ env.inputSetupEvents = 0 ∧ env.inputRegisterDevice = 0 ∧
        env.v4l2DeviceRegister = 0 ∧ env.vb2QueueInit = 0 ∧ env.ctrlHandlerError = 0 ∧
        env.videoRegisterDevice = 0 := by
  rw [sur40ProbeInput]
  by_cases hinput : env.alloc .input = true
  · by_cases hsetup : env.inputSetupEvents = 0
    · by_cases hregister : env.inputRegisterDevice = 0
      · by_cases hv4l2 : env.v4l2DeviceRegister = 0
        · simp [hinput, hsetup, hregister, hv4l2, sur40ProbeVideo_error_iff]
        · simp [hinput, hsetup, hregister, hv4l2]
      · simp [hinput, hsetup, hregister]
    · simp [hinput, hsetup]
  · simp [hinput, enomem]

/-- The probe succeeds if all that it calls does. -/
theorem sur40ProbeRun_error_iff (env : ProbeEnv) :
    (sur40ProbeRun env).error = 0 ↔ env.Succeeds := by
  have hurbs := sur40AllocUrbs_error_iff env urbFields noUrbs
  simp only [mem_urbFields, true_implies] at hurbs
  rw [sur40ProbeRun]
  generalize sur40AllocUrbs env urbFields noUrbs = result at hurbs
  rcases result with ⟨urbOps, urbs, error⟩
  dsimp only at hurbs ⊢
  by_cases hclass : env.interfaceClass ≠ 0xFF
  · rw [if_pos hclass]
    exact iff_of_false enodev_ne_zero fun h => hclass h.interfaceClass
  rw [if_neg hclass]
  by_cases hends : env.numEndpoints < 5
  · rw [if_pos hends]
    exact iff_of_false enodev_ne_zero fun h => not_le.mpr hends h.numEndpoints
  rw [if_neg hends]
  by_cases htouch : env.touchEndpointAddress ≠ 0x86 ∨ ¬env.touchEndpointIsBulkIn = true
  · rw [if_pos htouch]
    exact iff_of_false enodev_ne_zero fun h =>
      htouch.elim (absurd h.touchEndpoint.1) (absurd h.touchEndpoint.2)
  rw [if_neg htouch]
  by_cases hvideo : env.videoEndpointAddress ≠ 0x82 ∨ ¬env.videoEndpointIsBulkIn = true
  · rw [if_pos hvideo]
    exact iff_of_false enodev_ne_zero fun h =>
      hvideo.elim (absurd h.videoEndpoint.1) (absurd h.videoEndpoint.2)
  rw [if_neg hvideo]
  by_cases hstate : ¬env.alloc .state = true
  · rw [if_pos hstate]
    exact iff_of_false enomem_ne_zero fun h => hstate h.state
  rw [if_neg hstate]
  by_cases herror : error ≠ 0
  · rw [if_pos herror]
    exact iff_of_false herror fun h => herror (hurbs.mpr h.urbs)
  rw [if_neg herror, sur40ProbeInput_error_iff]
  rw [not_or, not_not, not_not] at htouch hvideo
  rw [not_not] at hclass hstate herror
  constructor
  · rintro ⟨hinput, hsetup, hregister, hv4l2, hinit, hctrl, hnode⟩
    exact ⟨hclass, not_lt.mp hends, htouch, hvideo, hstate, hurbs.mp herror, hinput, hsetup,
      hregister, hv4l2, hinit, hctrl, hnode⟩
  · intro h
    exact ⟨h.input, h.inputSetupEvents, h.inputRegisterDevice, h.v4l2DeviceRegister,
      h.vb2QueueInit, h.ctrlHandlerError, h.videoRegisterDevice⟩

theorem sur40ProbeVideo_urbs (env : ProbeEnv) : (sur40ProbeVideo env ops urbs).urbs = urbs := by
  rw [sur40ProbeVideo]
  split_ifs <;> rfl

theorem sur40ProbeInput_urbs (env : ProbeEnv) : (sur40ProbeInput env ops urbs).urbs = urbs := by
  rw [sur40ProbeInput]
  dsimp only
  split_ifs
  · rfl
  · rfl
  · rfl
  · exact sur40ProbeVideo_urbs env
  · rfl

/-- The transfer buffers behind a probe that succeeds. -/
theorem sur40ProbeRun_urbs {env : ProbeEnv} (h : env.Succeeds) (f : UrbField) :
    (sur40ProbeRun env).urbs f = some (decide (env.size f ≠ 0)) := by
  have hurbs := (sur40AllocUrbs_error_iff env urbFields noUrbs).mpr fun f _ => h.urbs f
  have hset := sur40AllocUrbs_urbs env hurbs f
  rw [if_pos (mem_urbFields f)] at hset
  rw [sur40ProbeRun]
  simp only [h.interfaceClass, not_lt.mpr h.numEndpoints, h.touchEndpoint, h.videoEndpoint,
    h.state, hurbs, ne_eq, not_true_eq_false, or_self, if_false, sur40ProbeInput_urbs]
  exact hset

/-- **All or nothing**: the probe succeeds exactly if all that it calls does. Then the driver holds
all of its resources, with a transfer buffer where one was asked for; otherwise it holds nothing,
and in between nothing is used, freed or lost that it should not be. -/
theorem sur40ProbeRun_spec (env : ProbeEnv) :
    ∃ held, run (sur40ProbeRun env).ops (fun _ => false) = some held ∧
      ((sur40ProbeRun env).error = 0 ↔ env.Succeeds) ∧
      ((sur40ProbeRun env).error ≠ 0 → ∀ r, held r = false) ∧
      ((sur40ProbeRun env).error = 0 →
        (∀ f, ((sur40ProbeRun env).urbs f).isSome = true) ∧
        (∀ f, held (.field f) = true ∧ (held (.transferBuffer f) = true ↔ env.size f ≠ 0)) ∧
        (∀ r ∈ [Resource.state, .usbdev, .dev, .input, .v4l2, .hdl, .vdev], held r = true)) := by
  rcases sur40ProbeRun_allOrNone env with ⟨hrun, hall⟩
  have hsucceeds := sur40ProbeRun_error_iff env
  refine ⟨_, hrun, hsucceeds, fun herror r => ?_, fun herror => ?_⟩
  · rw [if_neg herror]
  · rcases hall herror with ⟨hrefs, hset, hsized⟩
    have hurbs := sur40ProbeRun_urbs (hsucceeds.mp herror)
    rw [if_pos herror]
    refine ⟨hset, fun f => ?_, fun r hr => ?_⟩
    · simp [owned, Resource.stage, Sur40Urbs.owns, hurbs f]
    · simp only [List.mem_cons, List.not_mem_nil, or_false] at hr
      rcases hr with rfl | rfl | rfl | rfl | rfl | rfl | rfl <;> rfl

end Sur40
