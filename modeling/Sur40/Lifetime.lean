import Sur40.BufferQueue
import Sur40.Controls
import Sur40.DisabledEndpoints
import Sur40.Probe

/-!
# The lifetime of the driver's memory

Unplugging the device does not free the driver's state: handles of the video node may be open,
and what is called through them finds it. `sur40_disconnect` drops the driver's own reference to
the V4L2 device, the node that is released drops two more, and whoever drops the last one frees
everything. All that may happen in between, in any order.

## Main definitions

* `Lifetime`: the driver under interleaving, what it holds, and who holds it.
* `LifeAction`, `lifetimes`: what can happen next.
* `Quiet`: the URBs that the disconnect has stopped stay idle.
* `Live`: the invariant.
* `lifetime_run`: nothing is used that is not held, and all of it is given back.
-/

namespace Sur40

open Devlib Ledger

/-! ## The system -/

/-- What `sur40_disconnect` has unregistered. -/
inductive Teardown where
  | registered
  | videoGone
  | inputGone
  | finished
  deriving DecidableEq

/-- The driver, what it holds of its resources, and who holds the driver. -/
structure Lifetime where
  videoNode : Bool
  sys : VideoSys
  controls : ControlState
  urbs : Sur40Urbs
  /-- `none` after an access to what was not held. -/
  held : Option (Resource → Bool)
  v4l2Refs : ℕ
  /-- Open handles of the video node. -/
  videoHandles : ℕ
  /-- Open handles of the input device. -/
  inputUsers : ℕ
  teardown : Teardown

/-- Behind a successful `sur40_probe`. -/
def Lifetime.probe (videoNode : Bool) (panel : Panel) (env : ProbeEnv) : Lifetime where
  videoNode := videoNode
  sys := VideoSys.probe videoNode env.touchPktSize env.videoPktSize
  controls := probedControls panel
  urbs := (sur40ProbeRun env).urbs
  held := run (sur40ProbeRun env).ops fun _ => false
  v4l2Refs := (sur40ProbeRun env).v4l2Refs
  videoHandles := 0
  inputUsers := 0
  teardown := .registered

/-- The calls of the cores, and the completions. -/
inductive LifeAction where
  | videoOpen
  | videoClose
  /-- `VIDIOC_S_FMT`; `busy` is what `vb2_is_busy` returns. -/
  | sFmt (busy : Bool) (pixelformat : UInt32)
  | sCtrl (env : CtrlEnv) (ctrl : Setting)
  /-- A call through a handle of the video node, a completion, or a step of `sur40_disconnect`. -/
  | video (a : VideoAction)
  /-- Streaming is started between the flag and the end of the node. -/
  | lateStart (env : StreamEnv)
  | inputOpen (env : PipelineEnv)
  | inputClose
  /-- `sur40_disconnect` goes on: the video node, the input device, and its reference. -/
  | videoUnregister
  | inputUnregister
  | devicePut

/-- What a function of the driver may use. -/
def driverUse : List ResourceOp :=
  [.access .state, .access .usbdev, .access .dev] ++ urbFields.map fun f => .access (.field f)

/-- `sur40_s_ctrl` finds the driver over the handler of its control. -/
def ctrlUse : List ResourceOp := [.access .hdl, .access .state, .access .usbdev]

def VideoUrb.field : VideoUrb → UrbField
  | .hdr => .videoHdrUrb
  | .frame => .videoFrameUrb
  | .drain => .videoDrainUrb

/-- The transfer buffer of a URB, if it has one of its own. -/
def bufferUse (urbs : Sur40Urbs) (f : UrbField) : List ResourceOp :=
  if urbs f = some true then [.access (.transferBuffer f)] else []

/-- A handler reads the buffer of its URB, and the touch handler reports to the input device. -/
def VideoAction.use (urbs : Sur40Urbs) : VideoAction → List ResourceOp
  | .complete u _ _ => driverUse ++ bufferUse urbs u.field
  | .touchComplete i c _ =>
      if sur40UrbDead c.status then driverUse
      else driverUse ++ (bufferUse urbs (.touchUrbs i) ++ [.access .input])
  | _ => driverUse

/-- Calls come through a handle, and a handler is called for a URB in flight. -/
def VideoAction.allowed (l : Lifetime) : VideoAction → Bool
  | .bufferQueue _ | .startStreaming _ | .stopStreaming | .stopStep | .stopReturn =>
      0 < l.videoHandles
  | .complete .. | .disconnect | .disconnectStep | .disconnectFlag => true
  | .touchComplete i .. => (l.sys.drv.touchUrbs i).inFlight
  | .openInput _ | .closeInput => false

/-- The core refuses every submission. -/
def VideoAction.refused : VideoAction → Bool
  | .startStreaming env => env.Refused
  | .complete _ _ err | .touchComplete _ _ err => err ≠ 0
  | _ => true

def LifeAction.refused : LifeAction → Bool
  | .video a => a.refused
  | .lateStart env => env.Refused
  | .inputOpen env => env.Refused
  | _ => true

namespace Lifetime

/-- What a call does with the resources; an access to what is not held stays a fault. -/
def does (l : Lifetime) (ops : List ResourceOp) : Lifetime :=
  { l with held := l.held.bind (run ops) }

def setDrv (l : Lifetime) (drv : Sur40State) : Lifetime := { l with sys := { l.sys with drv } }

/-- `v4l2_device_put` -/
def put (l : Lifetime) : Lifetime :=
  let (ops, v4l2Refs) := v4l2DevicePut l.urbs l.v4l2Refs
  { l.does ops with v4l2Refs }

/-- The core releases the video node: `sur40_video_device_release`, and the reference that the
core has got for the node. -/
def releaseVideo (l : Lifetime) : Lifetime := (l.does [.release .vdev]).put.put

end Lifetime

/-- One step. The last handle of the video node is closed when streaming is stopped. The input core
opens and closes the device for its first and last user. -/
def LifeAction.step : LifeAction → Lifetime → Option Lifetime
  | .videoOpen, l =>
      if l.teardown = .registered then
        some { l.does [.access .vdev, .access .state] with videoHandles := l.videoHandles + 1 }
      else none
  | .videoClose, l =>
      if 0 < l.videoHandles ∧ (l.videoHandles = 1 → l.sys.vb2 = .stopped) then
        let l := { l.does [.access .vdev, .access .state] with videoHandles := l.videoHandles - 1 }
        some (if l.videoHandles = 0 ∧ l.teardown ≠ .registered then l.releaseVideo else l)
      else none
  | .sFmt busy pixelformat, l =>
      if 0 < l.videoHandles then
        some ((l.does [.access .vdev, .access .state]).setDrv
          (sur40VidiocSFmt l.videoNode busy pixelformat l.sys.drv).1)
      else none
  | .sCtrl env ctrl, l =>
      if 0 < l.videoHandles then
        some { l.does ctrlUse with controls := (sur40SCtrl env ctrl l.controls).1 }
      else none
  | .video a, l =>
      if a.allowed l then (a.step l.sys).map fun sys => { l.does (a.use l.urbs) with sys } else none
  | .lateStart env, l =>
      if l.sys.unplug = .gone ∧ l.teardown = .registered ∧ l.sys.vb2 = .stopped ∧
          0 < l.videoHandles then
        let (drv, ret) := sur40StartStreaming env l.sys.drv
        let vb2 := if ret = 0 then .streaming else .stopped
        some { l.does driverUse with sys := { l.sys with drv, vb2 } }
      else none
  | .inputOpen env, l =>
      if l.teardown = .registered ∨ l.teardown = .videoGone then
        if l.inputUsers = 0 then
          let (drv, ret) := sur40Open env l.sys.drv
          let inputUsers := if ret = 0 then 1 else 0
          some { (l.does (driverUse ++ [.access .input])).setDrv drv with inputUsers }
        else some { l.does [.access .input] with inputUsers := l.inputUsers + 1 }
      else none
  | .inputClose, l =>
      if 0 < l.inputUsers then
        if l.inputUsers = 1 then
          some { (l.does (driverUse ++ [.access .input])).setDrv (sur40Close l.sys.drv) with
            inputUsers := 0 }
        else some { l.does [.access .input] with inputUsers := l.inputUsers - 1 }
      else none
  | .videoUnregister, l =>
      if l.sys.unplug = .gone ∧ l.teardown = .registered then
        let l := { l.does [.access .state, .access .vdev] with teardown := .videoGone }
        some (if l.videoHandles = 0 then l.releaseVideo else l)
      else none
  | .inputUnregister, l =>
      if l.teardown = .videoGone then
        -- `v4l2_device_disconnect` comes first
        let l := l.does (driverUse ++ [.access .v4l2, .access .input])
        let l := if 0 < l.inputUsers then l.setDrv (sur40Close l.sys.drv) else l
        some { l.does [.release .input] with inputUsers := 0, teardown := .inputGone }
      else none
  | .devicePut, l =>
      if l.teardown = .inputGone then some { l with teardown := .finished }.put else none

/-- From the disconnect on every submission is refused. -/
def lifetimes : Machine Lifetime LifeAction :=
  ⟨fun a l => if l.sys.unplug = .attached ∨ a.refused then a.step l else none⟩

/-! ## The URBs -/

/-- The disconnect has stopped a video URB. -/
def UnplugPhase.passed : UnplugPhase → VideoUrb → Prop
  | .attached, _ => False
  | .unplugging l, u => u ∉ l.todo
  | .gone, _ => True

/-- What the disconnect has stopped is idle. -/
structure Quiet (sys : VideoSys) : Prop where
  touch : sys.unplug ≠ .attached → ∀ i, (sys.drv.touchUrbs i).inFlight = false
  video : ∀ u, sys.unplug.passed u → (sys.drv.videoUrb u).inFlight = false

theorem quiet_of_attached {sys : VideoSys} (h : sys.unplug = .attached) : Quiet sys := by
  refine ⟨fun hne => absurd h hne, fun u hu => ?_⟩
  rw [h] at hu
  cases hu

/-- A step that starts no URB, unless the device is attached. -/
theorem Quiet.of_noneStarted {sys sys' : VideoSys} (h : Quiet sys)
    (hunplug : sys'.unplug = sys.unplug)
    (hnone : sys.unplug ≠ .attached → NoneStarted sys.drv sys'.drv) : Quiet sys' := by
  by_cases hatt : sys.unplug = .attached
  · exact quiet_of_attached (hunplug.trans hatt)
  · refine ⟨fun _ i => (hnone hatt).touch i (h.touch hatt i), fun u hu => ?_⟩
    rw [hunplug] at hu
    exact (hnone hatt).video u (h.video u hu)

/-- The URB that the disconnect has waited for is idle. -/
theorem StopLoop.step_passed {l l' : StopLoop} {s s' : Sur40State}
    (h : l.step s = some (l', s')) {u : VideoUrb} (hu : u ∉ l'.todo) :
    u ∉ l.todo ∨ (s'.videoUrb u).inFlight = false := by
  rcases l with ⟨todo, waiting⟩
  cases todo with
  | nil => exact Or.inl List.not_mem_nil
  | cons w us =>
      cases waiting with
      | false =>
          cases h
          exact Or.inl hu
      | true =>
          simp only [StopLoop.step, Option.ite_none_left_eq_some, Option.some.injEq,
            Prod.mk.injEq] at h
          rcases h with ⟨hidle, rfl, rfl⟩
          rw [Bool.not_eq_true] at hidle
          by_cases huw : u = w
          · exact Or.inr (huw ▸ hidle)
          · exact Or.inl (List.not_mem_cons_of_ne_of_not_mem huw hu)

/-- No step starts a URB that the disconnect has stopped. -/
theorem Quiet.step {sys sys' : VideoSys} {a : VideoAction} (h : Quiet sys)
    (hopen : ∀ env, a ≠ .openInput env)
    (hrefused : sys.unplug = .attached ∨ a.refused = true) (hstep : a.step sys = some sys') :
    Quiet sys' := by
  have hnone : ∀ {env : Prop} [Decidable env], (sys.unplug = .attached ∨ decide env = true) →
      sys.unplug ≠ .attached → env :=
    fun hor hne => of_decide_eq_true (hor.resolve_left hne)
  cases VideoAction.step_cases hstep with
  | bufferQueue buf =>
      exact h.of_noneStarted rfl fun _ =>
        NoneStarted.of_videoUrbs rfl (fun h => h) (fun h => h) fun h => h
  | startStreaming env hstop hgone =>
      exact h.of_noneStarted rfl fun hne => NoneStarted.of_startStreaming (hnone hrefused hne) _
  | stopStreaming hrun => exact h.of_noneStarted rfl fun _ => NoneStarted.refl _
  | stopStep hstop hloop => exact h.of_noneStarted rfl fun _ => NoneStarted.of_stopLoop hloop
  | stopReturn hstop => exact h.of_noneStarted rfl fun _ => NoneStarted.of_stopStreamingReclaim _
  | disconnect hattached =>
      refine ⟨fun _ _ => rfl, fun u hu => absurd ?_ hu⟩
      cases u <;> simp [StopLoop.start]
  | disconnectStep hunplug hloop =>
      have hsame := NoneStarted.of_stopLoop hloop
      refine ⟨fun _ i => hsame.touch i (h.touch (by simp [hunplug]) i), fun u hu => ?_⟩
      rcases StopLoop.step_passed hloop hu with hu | hidle
      · exact hsame.video u (h.video u (by rw [hunplug]; exact hu))
      · exact hidle
  | disconnectFlag hunplug =>
      refine ⟨fun _ i => h.touch (by simp [hunplug]) i, fun u _ => ?_⟩
      have hidle := h.video u (by rw [hunplug]; exact List.not_mem_nil)
      cases u <;> exact hidle
  | complete u c err hflight =>
      exact h.of_noneStarted rfl fun hne => NoneStarted.of_videoComplete (hnone hrefused hne) u c _
  | openInput env => exact absurd rfl (hopen env)
  | closeInput => exact h.of_noneStarted rfl fun _ => NoneStarted.of_close _
  | touchComplete i c err =>
      exact h.of_noneStarted rfl fun hne => NoneStarted.of_touchGiveback (hnone hrefused hne) i c _

/-! ## What is held -/

/-- The video node and the input device on their own, and the rest with the driver's state. -/
def heldBy (urbs : Sur40Urbs) (rest input video : Bool) : Resource → Bool
  | .vdev => video
  | .input => input
  | r => rest && urbs.owns r

theorem heldBy_nothing (urbs : Sur40Urbs) : heldBy urbs false false false = fun _ => false := by
  ext r : 1
  cases r <;> rfl

theorem heldBy_owned (urbs : Sur40Urbs) : owned urbs 5 = heldBy urbs true true true := by
  ext r : 1
  cases r <;> simp [owned, heldBy, Resource.stage, Sur40Urbs.owns]

/-- `sur40_release` gives all back that is left when the node and the input device are gone. -/
theorem sur40Release_frees {urbs : Sur40Urbs} (hsized : WellSized urbs) :
    Frees usesState (sur40Release urbs) (heldBy urbs true false false) := by
  have hv4l2 := (frees_release usesState Resource.v4l2).append (errFreeUrbs_frees hsized)
    (by simp [usesState])
    (by
      intro r hr
      cases r <;> simp_all [owned, Resource.stage])
  have hhdl := (frees_release usesState Resource.hdl).append (Frees.state hv4l2)
    (by simp [usesState])
    (by
      intro r hr
      cases r <;> simp_all [owned, Resource.stage])
  apply (Frees.state hhdl).congr
  intro r
  cases r <;> simp [owned, heldBy, Resource.stage, Sur40Urbs.owns]

namespace Lifetime

variable {l : Lifetime}

/-- The video node is registered or open. -/
def videoAlive (l : Lifetime) : Bool := l.teardown = .registered || 0 < l.videoHandles

def inputAlive (l : Lifetime) : Bool := l.teardown = .registered || l.teardown = .videoGone

/-- The driver's own reference until the disconnect is through, and two for the node. -/
def refs (l : Lifetime) : ℕ :=
  (if l.teardown = .finished then 0 else 1) + if l.videoAlive then 2 else 0

def owns (l : Lifetime) : Resource → Bool :=
  heldBy l.urbs (0 < l.refs) l.inputAlive l.videoAlive

/-- A reference that is not the last one. -/
theorem put_shared {held : Resource → Bool} {n : ℕ} (hheld : l.held = some held)
    (hstate : held .state = true) (hrefs : l.v4l2Refs = n + 2) :
    l.put = { l with v4l2Refs := n + 1 } := by
  have hput : v4l2DevicePut l.urbs l.v4l2Refs = ([.access .state], n + 1) := by
    rw [v4l2DevicePut, if_neg (by omega), hrefs]
    rfl
  simp only [put, hput, does, hheld, Option.bind_some, run, Ledger.step, hstate, if_true]

/-- The last reference. -/
theorem put_last (hsized : WellSized l.urbs)
    (hheld : l.held = some (heldBy l.urbs true false false)) (hrefs : l.v4l2Refs = 1) :
    l.put = { l with held := some (heldBy l.urbs false false false), v4l2Refs := 0 } := by
  have hput : v4l2DevicePut l.urbs l.v4l2Refs = (.access .state :: sur40Release l.urbs, 0) := by
    rw [v4l2DevicePut, if_pos hrefs]
  have hrun := Frees.state (sur40Release_frees hsized) (heldBy l.urbs true false false)
    (fun r hr => by rw [of_decide_eq_true hr]; rfl) fun r hr => hr
  simp only [put, hput, does, hheld, Option.bind_some, hrun, heldBy_nothing, Bool.and_not_self]

/-- The node is released, and the driver with it if the disconnect is through. -/
theorem releaseVideo_eq {input : Bool} {n : ℕ} (hsized : WellSized l.urbs)
    (hheld : l.held = some (heldBy l.urbs true input true)) (hrefs : l.v4l2Refs = n + 2)
    (hn : n ≤ 1) (hinput : n = 0 → input = false) :
    l.releaseVideo =
      { l with held := some (heldBy l.urbs (0 < n) input false), v4l2Refs := n } := by
  have hvideo : run [.release .vdev] (heldBy l.urbs true input true) =
      some (heldBy l.urbs true input false) := by
    simp only [run, Ledger.step, heldBy, if_true, Option.bind_some]
    congr 1
    ext r : 1
    cases r <;> rfl
  have hfirst : (l.does [.release .vdev]).put =
      { l with held := some (heldBy l.urbs true input false), v4l2Refs := n + 1 } := by
    rw [does, hheld, Option.bind_some, hvideo]
    exact put_shared rfl rfl hrefs
  rw [releaseVideo, hfirst]
  cases n with
  | zero =>
      rw [hinput rfl]
      exact put_last hsized rfl rfl
  | succ n =>
      have h0 : n = 0 := by omega
      rw [h0]
      exact put_shared rfl rfl rfl

end Lifetime

/-! ## The invariant -/

/-- What the order of the steps provides for. -/
structure InOrder (l : Lifetime) : Prop where
  set : ∀ f, (l.urbs f).isSome = true
  sized : WellSized l.urbs
  quiet : Quiet l.sys
  gone : l.teardown ≠ .registered → l.sys.unplug = .gone
  users : 0 < l.inputUsers → l.inputAlive = true
  stopped : l.videoHandles = 0 → l.sys.vb2 = .stopped

/-- Held is what belongs to those who are left, and the references are theirs. -/
structure Live (l : Lifetime) : Prop extends InOrder l where
  held : l.held = some l.owns
  refs : l.v4l2Refs = l.refs

namespace Live

variable {l : Lifetime}

/-! ### Accesses -/

/-- What only uses what is held has no effect. -/
theorem does_eq (h : Live l) {ops : List ResourceOp} (hops : Uses l.owns ops) :
    l.does ops = l := by
  rw [Lifetime.does, h.held, Option.bind_some, hops.run, ← h.held]

theorem refs_pos_of_video (h : l.videoAlive = true) : 0 < l.refs := by
  simp [Lifetime.refs, h]

theorem refs_pos_of_teardown (h : l.teardown ≠ .finished) : 0 < l.refs := by
  simp only [Lifetime.refs, h, if_false]
  omega

theorem refs_pos_of_input (h : l.inputAlive = true) : 0 < l.refs := by
  apply refs_pos_of_teardown
  intro hfin
  simp [Lifetime.inputAlive, hfin] at h

/-- What lives as long as the driver's state. -/
theorem uses_rest (hrefs : 0 < l.refs) {r : Resource} (howns : l.urbs.owns r = true)
    (hr : r ≠ .input ∧ r ≠ .vdev) : Uses l.owns [.access r] := by
  apply uses_access
  cases r <;> simp_all [Lifetime.owns, heldBy]

theorem uses_state (hrefs : 0 < l.refs) : Uses l.owns [.access .state] :=
  uses_rest hrefs rfl (by decide)

theorem uses_input (hinput : l.inputAlive = true) : Uses l.owns [.access .input] :=
  uses_access hinput

theorem uses_video (hvideo : l.videoAlive = true) : Uses l.owns [.access .vdev, .access .state] :=
  have hvdev : Uses l.owns [.access .vdev] := uses_access hvideo
  hvdev.append (uses_state (refs_pos_of_video hvideo))

/-- A function of the driver finds the state and all its URBs. -/
theorem uses_driver (h : Live l) (hrefs : 0 < l.refs) : Uses l.owns driverUse := by
  have hfields : Uses l.owns (urbFields.map fun f => .access (.field f)) := by
    intro op hop
    rcases List.mem_map.mp hop with ⟨f, hf, rfl⟩
    refine ⟨.field f, rfl, ?_⟩
    simp [Lifetime.owns, heldBy, hrefs, Sur40Urbs.owns, h.set f]
  have husbdev : Uses l.owns [.access .usbdev] := uses_rest hrefs rfl (by decide)
  have hdev : Uses l.owns [.access .dev] := uses_rest hrefs rfl (by decide)
  exact ((uses_state hrefs).append (husbdev.append hdev)).append hfields

theorem uses_ctrl (hrefs : 0 < l.refs) : Uses l.owns ctrlUse := by
  have hhdl : Uses l.owns [.access .hdl] := uses_rest hrefs rfl (by decide)
  have husbdev : Uses l.owns [.access .usbdev] := uses_rest hrefs rfl (by decide)
  exact hhdl.append ((uses_state hrefs).append husbdev)

theorem uses_buffer (hrefs : 0 < l.refs) (f : UrbField) : Uses l.owns (bufferUse l.urbs f) := by
  rw [bufferUse]
  split_ifs with hf
  · exact uses_access (by simp [Lifetime.owns, heldBy, hrefs, Sur40Urbs.owns, hf])
  · exact fun op hop => absurd hop List.not_mem_nil

/-! ### The driver takes a step -/

theorem setSys (h : Live l) {sys : VideoSys} (hquiet : Quiet sys)
    (hgone : l.teardown ≠ .registered → sys.unplug = .gone)
    (hstopped : l.videoHandles = 0 → sys.vb2 = .stopped) : Live { l with sys } :=
  ⟨⟨h.set, h.sized, hquiet, hgone, h.users, hstopped⟩, h.held, h.refs⟩

theorem setDrv (h : Live l) {drv : Sur40State}
    (hnone : l.sys.unplug ≠ .attached → NoneStarted l.sys.drv drv) : Live (l.setDrv drv) :=
  h.setSys (h.quiet.of_noneStarted rfl hnone) h.gone h.stopped

theorem setControls (h : Live l) (controls : ControlState) : Live { l with controls } :=
  ⟨⟨h.set, h.sized, h.quiet, h.gone, h.users, h.stopped⟩, h.held, h.refs⟩

theorem setUsers (h : Live l) {inputUsers : ℕ} (husers : 0 < inputUsers → l.inputAlive = true) :
    Live { l with inputUsers } :=
  ⟨⟨h.set, h.sized, h.quiet, h.gone, husers, h.stopped⟩, h.held, h.refs⟩

theorem registered (h : Live l) (hunplug : l.sys.unplug ≠ .gone) : l.teardown = .registered := by
  by_contra hne
  exact hunplug (h.gone hne)

theorem videoAlive_of_unplug (h : Live l) (hunplug : l.sys.unplug ≠ .gone) :
    l.videoAlive = true := by
  simp [Lifetime.videoAlive, h.registered hunplug]

theorem videoAlive_of_handle (hhandle : 0 < l.videoHandles) : l.videoAlive = true := by
  simp [Lifetime.videoAlive, hhandle]

/-- A step of the video system finds what it uses, keeps the disconnect where it is once it is
through, and streaming stopped as long as there is no handle. -/
theorem video_use (h : Live l) {a : VideoAction} {sys : VideoSys} (hallowed : a.allowed l = true)
    (hstep : a.step l.sys = some sys) :
    Uses l.owns (a.use l.urbs) ∧ (l.sys.unplug = .gone → sys.unplug = .gone) ∧
      (l.videoHandles = 0 → sys.vb2 = l.sys.vb2) := by
  have hcall : 0 < l.videoHandles → Uses l.owns driverUse ∧
      (l.videoHandles = 0 → sys.vb2 = l.sys.vb2) := fun hhandle =>
    ⟨h.uses_driver (refs_pos_of_video (videoAlive_of_handle hhandle)), fun h0 => by omega⟩
  have hunplugging : l.sys.unplug ≠ .gone → Uses l.owns driverUse := fun hunplug =>
    h.uses_driver (refs_pos_of_video (h.videoAlive_of_unplug hunplug))
  cases VideoAction.step_cases hstep with
  | bufferQueue buf =>
      have huse := hcall (of_decide_eq_true hallowed)
      exact ⟨huse.1, fun hg => hg, huse.2⟩
  | startStreaming env hstop hgone =>
      have huse := hcall (of_decide_eq_true hallowed)
      exact ⟨huse.1, fun hg => hg, huse.2⟩
  | stopStreaming hrun =>
      have huse := hcall (of_decide_eq_true hallowed)
      exact ⟨huse.1, fun hg => hg, huse.2⟩
  | stopStep hstop hloop =>
      have huse := hcall (of_decide_eq_true hallowed)
      exact ⟨huse.1, fun hg => hg, huse.2⟩
  | stopReturn hstop =>
      have huse := hcall (of_decide_eq_true hallowed)
      exact ⟨huse.1, fun hg => hg, huse.2⟩
  | disconnect hattached =>
      exact ⟨hunplugging (by simp [hattached]), fun hg => by simp [hattached] at hg, fun _ => rfl⟩
  | disconnectStep hunplug hloop =>
      exact ⟨hunplugging (by simp [hunplug]), fun hg => by simp [hunplug] at hg, fun _ => rfl⟩
  | disconnectFlag hunplug =>
      exact ⟨hunplugging (by simp [hunplug]), fun hg => by simp [hunplug] at hg, fun _ => rfl⟩
  | complete u c err hflight =>
      have hunplug : l.sys.unplug ≠ .gone := by
        intro hg
        have hidle := h.quiet.video u (by rw [hg]; trivial)
        rw [hidle] at hflight
        cases hflight
      have hrefs := refs_pos_of_video (h.videoAlive_of_unplug hunplug)
      exact ⟨(h.uses_driver hrefs).append (uses_buffer hrefs _), fun hg => hg, fun _ => rfl⟩
  | openInput env => cases hallowed
  | closeInput => cases hallowed
  | touchComplete i c err =>
      have hatt : l.sys.unplug = .attached := by
        by_contra hne
        have hidle := h.quiet.touch hne i
        rw [VideoAction.allowed, hidle] at hallowed
        cases hallowed
      have hunplug : l.sys.unplug ≠ .gone := by simp [hatt]
      have hinput : l.inputAlive = true := by simp [Lifetime.inputAlive, h.registered hunplug]
      have hrefs := refs_pos_of_input hinput
      refine ⟨?_, fun hg => hg, fun _ => rfl⟩
      rw [VideoAction.use]
      split_ifs
      · exact h.uses_driver hrefs
      · exact (h.uses_driver hrefs).append ((uses_buffer hrefs _).append (uses_input hinput))

theorem video (h : Live l) {a : VideoAction} {sys : VideoSys} (hallowed : a.allowed l = true)
    (hrefused : l.sys.unplug = .attached ∨ a.refused = true) (hstep : a.step l.sys = some sys) :
    Live { l.does (a.use l.urbs) with sys } := by
  rcases h.video_use hallowed hstep with ⟨huse, hgone, hvb2⟩
  rw [h.does_eq huse]
  apply h.setSys (h.quiet.step _ hrefused hstep) (fun hne => hgone (h.gone hne))
  · exact fun h0 => (hvb2 h0).trans (h.stopped h0)
  · rintro env rfl
    cases hallowed

/-! ### Handles -/

theorem setHandles (h : Live l) {videoHandles : ℕ}
    (halive : Lifetime.videoAlive { l with videoHandles } = l.videoAlive)
    (hstopped : videoHandles = 0 → l.sys.vb2 = .stopped) : Live { l with videoHandles } := by
  have hrefs : Lifetime.refs { l with videoHandles } = l.refs := by
    simp only [Lifetime.refs, halive]
  have howns : Lifetime.owns { l with videoHandles } = l.owns := by
    simp only [Lifetime.owns, hrefs, halive]
    rfl
  refine ⟨⟨h.set, h.sized, h.quiet, h.gone, h.users, hstopped⟩, ?_, h.refs.trans hrefs.symm⟩
  rw [howns]
  exact h.held

/-- The last reference to the video node is gone. -/
theorem releaseVideo (horder : InOrder l)
    (hheld : l.held = some (heldBy l.urbs true l.inputAlive true))
    (hrefs : l.v4l2Refs = l.refs + 2) (hdead : l.videoAlive = false) : Live l.releaseVideo := by
  have hn : l.refs = if l.teardown = .finished then 0 else 1 := by
    simp [Lifetime.refs, hdead]
  have hle : l.refs ≤ 1 := by
    rw [hn]
    split_ifs <;> omega
  have hinput : l.refs = 0 → l.inputAlive = false := by
    intro h0
    rw [hn, ite_eq_left_iff] at h0
    have hfin : l.teardown = .finished := by
      by_contra hne
      cases h0 hne
    simp [Lifetime.inputAlive, hfin]
  rw [Lifetime.releaseVideo_eq horder.sized hheld hrefs hle hinput]
  refine ⟨⟨horder.set, horder.sized, horder.quiet, horder.gone, horder.users,
    horder.stopped⟩, ?_, rfl⟩
  exact congrArg (fun alive => some (heldBy l.urbs (0 < l.refs) l.inputAlive alive)) hdead.symm

theorem owns_of_video (h : l.videoAlive = true) :
    l.owns = heldBy l.urbs true l.inputAlive true := by
  rw [Lifetime.owns, h, decide_eq_true (refs_pos_of_video h)]

/-- Nothing is left. -/
theorem owns_of_finished (hteardown : l.teardown = .finished) (hdead : l.videoAlive = false) :
    l.owns = heldBy l.urbs false false false := by
  simp [Lifetime.owns, Lifetime.refs, Lifetime.inputAlive, hteardown, hdead]

/-- The video node is opened while it is registered. -/
theorem videoOpen (h : Live l) (hregistered : l.teardown = .registered) :
    Live { l.does [.access .vdev, .access .state] with videoHandles := l.videoHandles + 1 } := by
  have halive : l.videoAlive = true := by simp [Lifetime.videoAlive, hregistered]
  rw [h.does_eq (uses_video halive)]
  apply h.setHandles
  · simp [Lifetime.videoAlive, hregistered]
  · exact fun h0 => absurd h0 (Nat.succ_ne_zero _)

/-- A handle is closed; the last one releases a node that is gone. -/
theorem videoClose (h : Live l) (hhandle : 0 < l.videoHandles)
    (hstopped : l.videoHandles = 1 → l.sys.vb2 = .stopped) :
    let l' := { l.does [.access .vdev, .access .state] with videoHandles := l.videoHandles - 1 }
    Live (if l'.videoHandles = 0 ∧ l'.teardown ≠ .registered then l'.releaseVideo else l') := by
  have halive := videoAlive_of_handle hhandle
  have hlast : l.videoHandles - 1 = 0 → l.sys.vb2 = .stopped := fun h0 => hstopped (by omega)
  rw [h.does_eq (uses_video halive)]
  dsimp only
  split_ifs with hgone
  · apply releaseVideo
    · exact ⟨h.set, h.sized, h.quiet, h.gone, h.users, hlast⟩
    · exact h.held.trans (congrArg some (owns_of_video halive))
    · rw [h.refs]
      simp [Lifetime.refs, Lifetime.videoAlive, hgone.1, hgone.2, hhandle]
    · simp [Lifetime.videoAlive, hgone.1, hgone.2]
  · apply h.setHandles _ hlast
    rw [halive]
    by_cases h0 : l.videoHandles - 1 = 0
    · have hregistered : l.teardown = .registered := by
        by_contra hne
        exact hgone ⟨h0, hne⟩
      simp [Lifetime.videoAlive, hregistered]
    · simp [Lifetime.videoAlive, Nat.pos_of_ne_zero h0]

theorem sFmt (h : Live l) (hhandle : 0 < l.videoHandles) (busy : Bool) (pixelformat : UInt32) :
    Live ((l.does [.access .vdev, .access .state]).setDrv
      (sur40VidiocSFmt l.videoNode busy pixelformat l.sys.drv).1) := by
  rw [h.does_eq (uses_video (videoAlive_of_handle hhandle))]
  apply h.setDrv
  intro _
  rw [sur40VidiocSFmt]
  split_ifs
  · exact NoneStarted.refl _
  · exact NoneStarted.of_videoUrbs rfl (fun h => h) (fun h => h) fun h => h

theorem sCtrl (h : Live l) (hhandle : 0 < l.videoHandles) (controls : ControlState) :
    Live { l.does ctrlUse with controls } := by
  rw [h.does_eq (uses_ctrl (refs_pos_of_video (videoAlive_of_handle hhandle)))]
  exact h.setControls controls

theorem lateStart (h : Live l) {env : StreamEnv} (hunplug : l.sys.unplug = .gone)
    (hhandle : 0 < l.videoHandles) (henv : l.sys.unplug = .attached ∨ env.Refused)
    (vb2 : Vb2Phase) :
    Live { l.does driverUse with
      sys := { l.sys with drv := (sur40StartStreaming env l.sys.drv).1, vb2 } } := by
  have hne : l.sys.unplug ≠ .attached := by simp [hunplug]
  rw [h.does_eq (h.uses_driver (refs_pos_of_video (videoAlive_of_handle hhandle)))]
  refine h.setSys ?_ (fun _ => hunplug) fun h0 => by omega
  exact h.quiet.of_noneStarted rfl fun _ =>
    NoneStarted.of_startStreaming (henv.resolve_left hne) _

/-! ### The input device -/

theorem inputOpen (h : Live l) {env : PipelineEnv} (hinput : l.inputAlive = true)
    (henv : l.sys.unplug = .attached ∨ env.Refused) (inputUsers : ℕ) :
    Live { (l.does (driverUse ++ [.access .input])).setDrv (sur40Open env l.sys.drv).1 with
      inputUsers } := by
  rw [h.does_eq ((h.uses_driver (refs_pos_of_input hinput)).append (uses_input hinput))]
  exact (h.setDrv fun hne => NoneStarted.of_open (henv.resolve_left hne) _).setUsers
    fun _ => hinput

theorem inputClose (h : Live l) (hinput : l.inputAlive = true) :
    Live { (l.does (driverUse ++ [.access .input])).setDrv (sur40Close l.sys.drv) with
      inputUsers := 0 } := by
  rw [h.does_eq ((h.uses_driver (refs_pos_of_input hinput)).append (uses_input hinput))]
  exact (h.setDrv fun _ => NoneStarted.of_close _).setUsers fun h0 => absurd h0 (Nat.not_lt_zero 0)

theorem inputUse (h : Live l) (hinput : l.inputAlive = true) (inputUsers : ℕ) :
    Live { l.does [.access .input] with inputUsers } := by
  rw [h.does_eq (uses_input hinput)]
  exact h.setUsers fun _ => hinput

/-! ### The end of the disconnect -/

theorem videoUnregister (h : Live l) (hunplug : l.sys.unplug = .gone)
    (hregistered : l.teardown = .registered) :
    let l' := { l.does [.access .state, .access .vdev] with teardown := .videoGone }
    Live (if l'.videoHandles = 0 then l'.releaseVideo else l') := by
  have halive : l.videoAlive = true := by simp [Lifetime.videoAlive, hregistered]
  have hinput : l.inputAlive = true := by simp [Lifetime.inputAlive, hregistered]
  have hvdev : Uses l.owns [.access .vdev] := uses_access halive
  have huse : Uses l.owns [.access .state, .access .vdev] :=
    (uses_state (refs_pos_of_video halive)).append hvdev
  have hheld := h.held.trans (congrArg some (owns_of_video halive))
  have hrefs : l.v4l2Refs = 3 := by
    rw [h.refs]
    simp [Lifetime.refs, halive, hregistered]
  have horder : InOrder { l with teardown := .videoGone } :=
    ⟨h.set, h.sized, h.quiet, fun _ => hunplug, fun _ => rfl, h.stopped⟩
  rw [hinput] at hheld
  rw [h.does_eq huse]
  dsimp only
  split_ifs with h0
  · have hdead : Lifetime.videoAlive { l with teardown := .videoGone } = false := by
      simp [Lifetime.videoAlive, h0]
    apply releaseVideo horder hheld _ hdead
    rw [Lifetime.refs, hdead]
    exact hrefs
  · have halive' : Lifetime.videoAlive { l with teardown := .videoGone } = true := by
      simp [Lifetime.videoAlive, Nat.pos_of_ne_zero h0]
    refine ⟨horder, hheld.trans (congrArg some (owns_of_video halive').symm), ?_⟩
    rw [Lifetime.refs, halive']
    exact hrefs

theorem inputUnregister (h : Live l) (hteardown : l.teardown = .videoGone) {drv : Sur40State}
    (hnone : NoneStarted l.sys.drv drv) :
    Live { ((l.does (driverUse ++ [.access .v4l2, .access .input])).setDrv drv).does
      [.release .input] with inputUsers := 0, teardown := .inputGone } := by
  have hinput : l.inputAlive = true := by simp [Lifetime.inputAlive, hteardown]
  have hpos := refs_pos_of_input hinput
  have hv4l2 : Uses l.owns [.access .v4l2] :=
    uses_access (by simp [Lifetime.owns, heldBy, hpos, Sur40Urbs.owns])
  have halive : Lifetime.videoAlive { l with teardown := .inputGone } = l.videoAlive := by
    simp [Lifetime.videoAlive, hteardown]
  have hrefs : Lifetime.refs { l with teardown := .inputGone } = l.refs := by
    rw [Lifetime.refs, halive]
    simp [Lifetime.refs, hteardown]
  have hrelease : run [.release .input] l.owns =
      some (Lifetime.owns { l with teardown := .inputGone }) := by
    rw [Lifetime.owns, Lifetime.owns, hinput, halive, hrefs]
    simp only [run, Ledger.step, heldBy, if_true, Option.bind_some]
    congr 1
    ext r : 1
    cases r <;> rfl
  have hdrv := h.setDrv fun _ => hnone
  have huse : Uses l.owns (driverUse ++ [.access .v4l2, .access .input]) :=
    (h.uses_driver hpos).append (hv4l2.append (uses_input hinput))
  rw [h.does_eq huse]
  refine ⟨⟨hdrv.set, hdrv.sized, hdrv.quiet, fun _ => h.gone (by simp [hteardown]),
    fun h0 => absurd h0 (Nat.not_lt_zero 0), hdrv.stopped⟩, ?_, h.refs.trans hrefs.symm⟩
  rw [Lifetime.does, hdrv.held]
  exact hrelease

/-- The end of the disconnect: the reference of the driver. -/
theorem devicePut (h : Live l) (hteardown : l.teardown = .inputGone) :
    Live (Lifetime.put { l with teardown := .finished }) := by
  have hinput : l.inputAlive = false := by simp [Lifetime.inputAlive, hteardown]
  have hunplug := h.gone (by simp [hteardown])
  have hpos : 0 < l.refs := refs_pos_of_teardown (by simp [hteardown])
  have horder : InOrder { l with teardown := .finished } :=
    ⟨h.set, h.sized, h.quiet, fun _ => hunplug,
      fun hu => absurd (h.users hu) (by simp [hinput]), h.stopped⟩
  have hheld : l.held = some (heldBy l.urbs true false l.videoAlive) := by
    rw [h.held, Lifetime.owns, hinput, decide_eq_true hpos]
  have hsame : Lifetime.videoAlive { l with teardown := .finished } = l.videoAlive := by
    simp [Lifetime.videoAlive, hteardown]
  cases halive : l.videoAlive with
  | true =>
      have hrefs : l.v4l2Refs = 3 := by
        rw [h.refs]
        simp [Lifetime.refs, hteardown, halive]
      rw [halive] at hheld hsame
      rw [Lifetime.put_shared (l := { l with teardown := .finished }) hheld rfl hrefs]
      have htwo : Lifetime.refs { l with teardown := .finished } = 2 := by
        rw [Lifetime.refs, hsame]
        rfl
      exact ⟨⟨horder.set, horder.sized, horder.quiet, horder.gone, horder.users,
        horder.stopped⟩, hheld.trans (congrArg some (owns_of_video hsame).symm), htwo.symm⟩
  | false =>
      have hrefs : l.v4l2Refs = 1 := by
        rw [h.refs]
        simp [Lifetime.refs, hteardown, halive]
      rw [halive] at hheld hsame
      rw [Lifetime.put_last (l := { l with teardown := .finished }) h.sized hheld hrefs]
      have hzero : Lifetime.refs { l with teardown := .finished } = 0 := by
        rw [Lifetime.refs, hsame]
        rfl
      exact ⟨⟨horder.set, horder.sized, horder.quiet, horder.gone, horder.users,
        horder.stopped⟩, congrArg some (owns_of_finished rfl hsame).symm, hzero.symm⟩

/-! ### All steps -/

/-- Every step keeps the invariant. -/
theorem step (h : Live l) {l' : Lifetime} {a : LifeAction}
    (hstep : lifetimes.step a l = some l') : Live l' := by
  rw [lifetimes, Option.ite_none_right_eq_some] at hstep
  rcases hstep with ⟨hrefused, hstep⟩
  have hrefusedOf : ∀ {p : Prop} [Decidable p], (l.sys.unplug = .attached ∨ decide p = true) →
      l.sys.unplug = .attached ∨ p := fun hor => hor.imp_right of_decide_eq_true
  cases a with
  | videoOpen =>
      simp only [LifeAction.step, Option.ite_none_right_eq_some, Option.some.injEq] at hstep
      rcases hstep with ⟨hregistered, rfl⟩
      exact h.videoOpen hregistered
  | videoClose =>
      simp only [LifeAction.step, Option.ite_none_right_eq_some, Option.some.injEq] at hstep
      rcases hstep with ⟨⟨hhandle, hstopped⟩, rfl⟩
      exact h.videoClose hhandle hstopped
  | sFmt busy pixelformat =>
      simp only [LifeAction.step, Option.ite_none_right_eq_some, Option.some.injEq] at hstep
      rcases hstep with ⟨hhandle, rfl⟩
      exact h.sFmt hhandle busy pixelformat
  | sCtrl env ctrl =>
      simp only [LifeAction.step, Option.ite_none_right_eq_some, Option.some.injEq] at hstep
      rcases hstep with ⟨hhandle, rfl⟩
      exact h.sCtrl hhandle _
  | video a =>
      simp only [LifeAction.step, Option.ite_none_right_eq_some, Option.map_eq_some_iff] at hstep
      rcases hstep with ⟨hallowed, sys, hsys, rfl⟩
      exact h.video hallowed hrefused hsys
  | lateStart env =>
      simp only [LifeAction.step, Option.ite_none_right_eq_some, Option.some.injEq] at hstep
      rcases hstep with ⟨⟨hunplug, hregistered, hstopped, hhandle⟩, rfl⟩
      exact h.lateStart hunplug hhandle (hrefusedOf hrefused) _
  | inputOpen env =>
      simp only [LifeAction.step, Option.ite_none_right_eq_some] at hstep
      rcases hstep with ⟨hteardown, hstep⟩
      have hinput : l.inputAlive = true := by simpa [Lifetime.inputAlive] using hteardown
      by_cases h0 : l.inputUsers = 0
      · rw [if_pos h0, Option.some.injEq] at hstep
        rw [← hstep]
        exact h.inputOpen hinput (hrefusedOf hrefused) _
      · rw [if_neg h0, Option.some.injEq] at hstep
        rw [← hstep]
        exact h.inputUse hinput _
  | inputClose =>
      simp only [LifeAction.step, Option.ite_none_right_eq_some] at hstep
      rcases hstep with ⟨husers, hstep⟩
      by_cases h1 : l.inputUsers = 1
      · rw [if_pos h1, Option.some.injEq] at hstep
        rw [← hstep]
        exact h.inputClose (h.users husers)
      · rw [if_neg h1, Option.some.injEq] at hstep
        rw [← hstep]
        exact h.inputUse (h.users husers) _
  | videoUnregister =>
      simp only [LifeAction.step, Option.ite_none_right_eq_some, Option.some.injEq] at hstep
      rcases hstep with ⟨⟨hunplug, hregistered⟩, rfl⟩
      exact h.videoUnregister hunplug hregistered
  | inputUnregister =>
      simp only [LifeAction.step, Option.ite_none_right_eq_some, Option.some.injEq] at hstep
      rcases hstep with ⟨hteardown, rfl⟩
      split_ifs
      · exact h.inputUnregister hteardown (NoneStarted.of_close _)
      · exact h.inputUnregister hteardown (NoneStarted.refl _)
  | devicePut =>
      simp only [LifeAction.step, Option.ite_none_right_eq_some, Option.some.injEq] at hstep
      rcases hstep with ⟨hteardown, rfl⟩
      exact h.devicePut hteardown

/-- A device that has been probed. -/
theorem probe (videoNode : Bool) (panel : Panel) {env : ProbeEnv}
    (hprobe : (sur40ProbeRun env).error = 0) : Live (Lifetime.probe videoNode panel env) := by
  have hall := sur40ProbeRun_allOrNone env
  rw [Probed.AllOrNone, if_pos hprobe] at hall
  rcases hall with ⟨hrun, hdone⟩
  rcases hdone hprobe with ⟨hrefs, hset, hsized⟩
  refine ⟨⟨hset, hsized, quiet_of_attached rfl, fun hne => absurd rfl hne, fun _ => rfl,
    fun _ => rfl⟩, ?_, hrefs⟩
  rw [heldBy_owned] at hrun
  exact hrun

/-- The driver is referred to until the disconnect is through and the last handle closed. -/
theorem refs_pos_iff (l : Lifetime) :
    0 < l.refs ↔ l.teardown ≠ .finished ∨ 0 < l.videoHandles := by
  by_cases hfin : l.teardown = .finished
  · by_cases hhandle : 0 < l.videoHandles
    · simp [refs_pos_of_video (videoAlive_of_handle hhandle), hhandle]
    · simp [Lifetime.refs, Lifetime.videoAlive, hfin, hhandle]
  · simp [refs_pos_of_teardown hfin, hfin]

end Live

/-- In every order of calls, completions and steps of the disconnect the driver only uses what it
holds. It holds its state and its URBs until the disconnect is through and the last handle of the
video node is closed; then it holds nothing, no URB is in flight and nobody uses the device. -/
theorem lifetime_run {env : ProbeEnv} (hprobe : (sur40ProbeRun env).error = 0) {videoNode : Bool}
    {panel : Panel} {as : List LifeAction} {l : Lifetime}
    (hrun : lifetimes.run as (Lifetime.probe videoNode panel env) = some l) :
    ∃ held, l.held = some held ∧
      (held .state = true ↔ l.teardown ≠ .finished ∨ 0 < l.videoHandles) ∧
      (∀ f, held (.field f) = held .state) ∧
      (held .state = false → (∀ r, held r = false) ∧
        (∀ i, (l.sys.drv.touchUrbs i).inFlight = false) ∧ Idle l.sys.drv ∧
        l.sys.vb2 = .stopped ∧ l.inputUsers = 0) := by
  have h : Live l := Machine.run_invariant (fun _ _ _ h hstep => h.step hstep)
    (Live.probe videoNode panel hprobe) hrun
  have hstate : l.owns .state = decide (0 < l.refs) := by
    simp [Lifetime.owns, heldBy, Sur40Urbs.owns]
  refine ⟨l.owns, h.held, ?_, fun f => ?_, fun hfree => ?_⟩
  · rw [hstate, decide_eq_true_eq, Live.refs_pos_iff]
  · rw [hstate]
    simp [Lifetime.owns, heldBy, Sur40Urbs.owns, h.set f]
  · rw [hstate, decide_eq_false_iff_not, Live.refs_pos_iff, not_or, not_not, not_lt,
      Nat.le_zero] at hfree
    rcases hfree with ⟨hfin, hhandles⟩
    have hdead : l.videoAlive = false := by
      simp [Lifetime.videoAlive, hfin, hhandles]
    have hgone := h.gone (by simp [hfin])
    have hinput : l.inputAlive = false := by
      simp [Lifetime.inputAlive, hfin]
    refine ⟨fun r => ?_, h.quiet.touch (by simp [hgone]), fun u => h.quiet.video u ?_,
      h.stopped hhandles, ?_⟩
    · rw [Live.owns_of_finished hfin hdead, heldBy_nothing]
    · rw [hgone]
      trivial
    · by_contra hne
      have halive := h.users (Nat.pos_of_ne_zero hne)
      rw [hinput] at halive
      cases halive

/-- A probe where nothing fails. -/
def goodProbe : ProbeEnv where
  interfaceClass := 0xFF
  numEndpoints := 5
  touchEndpointAddress := 0x86
  touchEndpointIsBulkIn := true
  videoEndpointAddress := 0x82
  videoEndpointIsBulkIn := true
  touchPktSize := 512
  videoPktSize := 512
  alloc := fun _ => true
  inputSetupEvents := 0
  inputRegisterDevice := 0
  v4l2DeviceRegister := 0
  vb2QueueInit := 0
  ctrlHandlerError := 0
  videoRegisterDevice := 0

/-- A panel whose registers are all 0. -/
def blankPanel : Panel := ⟨0, 0, fun _ => 0⟩

/-- The device is unplugged while it streams; the handle of the video node is closed when the
disconnect is through. -/
def unpluggedRun : List LifeAction :=
  [.inputOpen willingEnv.pipeline, .videoOpen, .sFmt false v4l2PixFmtGrey,
    .video (.startStreaming willingEnv),
    .video (.touchComplete firstTouchUrb ⟨0, []⟩ 0), .video .disconnect,
    .video (.complete .hdr ⟨0, []⟩ (-eperm)), .video .disconnectStep, .video .disconnectStep,
    .video .disconnectStep, .video .disconnectStep, .video .disconnectStep,
    .video .disconnectStep, .video .disconnectFlag, .videoUnregister, .inputUnregister,
    .devicePut, .sCtrl lostBrightness.1 lostBrightness.2, .video .stopStreaming,
    .video .stopReturn, .videoClose]

theorem lifetime_run_unpluggedRun :
    ∃ l held, lifetimes.run unpluggedRun (Lifetime.probe false blankPanel goodProbe) = some l ∧
      l.held = some held ∧ ∀ r, held r = false := by
  have hrun : ∃ l, lifetimes.run unpluggedRun (Lifetime.probe false blankPanel goodProbe) = some l ∧
      l.teardown = .finished ∧ l.videoHandles = 0 := ⟨_, rfl, rfl, rfl⟩
  rcases hrun with ⟨l, hrun, hfin, hhandles⟩
  rcases lifetime_run rfl hrun with ⟨held, hheld, hstate, -, hfree⟩
  have hgone : held .state = false := by
    rw [← Bool.not_eq_true, hstate]
    simp [hfin, hhandles]
  exact ⟨l, held, hrun, hheld, (hfree hgone).1⟩

end Sur40
