import Mathlib.Algebra.Order.Ring.Int
import Mathlib.Data.List.Basic
import Mathlib.Data.List.Induction
import Mathlib.Logic.Function.Basic
import Mathlib.Tactic.SplitIfs

/-!
# Image controls

Brightness goes to eight registers of the panel, contrast and gain share the byte in
four others. A register is written with three control transfers; `sur40_poke` reports
a failure, but its callers do not listen, so `sur40_s_ctrl` always reports success.

## Main definitions

* `Panel`: the register file and the protocol to write it.
* `sur40Poke`, `sur40SetVsvideo`, `sur40SetIrlevel`, `sur40SCtrl`: the driver.
* `PanelAgrees`: the registers hold what has been set last.
* `sur40SCtrl_agrees_iff`: when they always do.
-/

namespace Sur40

/-! ## The panel -/

/-- The panel: the device that is selected, the offset that is latched, and the
registers. -/
structure Panel where
  device : UInt8
  offset : UInt8
  regs : UInt8 → UInt8

/-- `SUR40_POKE` with `value` and `index`. -/
def Panel.take (p : Panel) (value index : UInt8) : Panel :=
  if value = 0x32 then { p with device := index }
  else if value = 0x72 then { p with offset := index }
  else if value = 0xb2 ∧ p.device = 0x96 then
    { p with regs := Function.update p.regs p.offset index }
  else p

/-- The outcome of a control transfer. One that fails may still have reached the
panel. -/
structure ControlTransfer where
  result : ℤ
  taken : Bool
  taken_of_success : 0 ≤ result → taken = true

/-- `usb_control_msg` with `SUR40_POKE`. -/
def Panel.control (t : ControlTransfer) (value index : UInt8) (p : Panel) : Panel :=
  if t.taken then p.take value index else p

theorem ControlTransfer.taken_of_not_lt {t : ControlTransfer} (h : ¬ t.result < 0) :
    t.taken = true :=
  t.taken_of_success (not_lt.mp h)

/-! ## The driver -/

/-- The three transfers of a poke. -/
structure PokeEnv where
  select : ControlTransfer
  latch : ControlTransfer
  write : ControlTransfer

/-- `sur40_poke`: poke a byte in the panel register space. -/
def sur40Poke (env : PokeEnv) (offset value : UInt8) (p : Panel) : Panel × ℤ :=
  let p := p.control env.select 0x32 0x96
  if env.select.result < 0 then (p, env.select.result)
  else
    let p := p.control env.latch 0x72 offset
    if env.latch.result < 0 then (p, env.latch.result)
    else (p.control env.write 0xb2 value, env.write.result)

/-- The value arrives in the register. -/
def PokeEnv.Lands (env : PokeEnv) : Prop :=
  0 ≤ env.select.result ∧ 0 ≤ env.latch.result ∧ env.write.taken = true

instance (env : PokeEnv) : Decidable env.Lands := inferInstanceAs (Decidable (_ ∧ _ ∧ _))

/-- A poke writes its register or leaves all of them alone. -/
theorem sur40Poke_regs (env : PokeEnv) (offset value : UInt8) (p : Panel) :
    (sur40Poke env offset value p).1.regs =
      if env.Lands then Function.update p.regs offset value else p.regs := by
  have hselect : (p.control env.select 0x32 0x96).regs = p.regs := by
    simp only [Panel.control, Panel.take]
    split_ifs <;> rfl
  by_cases h₁ : env.select.result < 0
  · have hlands : ¬ env.Lands := fun h => absurd h.1 (not_le.mpr h₁)
    rw [sur40Poke, if_pos h₁, if_neg hlands, hselect]
  · by_cases h₂ : env.latch.result < 0
    · have hlands : ¬ env.Lands := fun h => absurd h.2.1 (not_le.mpr h₂)
      rw [sur40Poke, if_neg h₁, if_pos h₂, if_neg hlands, ← hselect]
      simp only [Panel.control, Panel.take]
      split_ifs <;> rfl
    · rw [sur40Poke, if_neg h₁, if_neg h₂]
      have ht₁ := ControlTransfer.taken_of_not_lt h₁
      have ht₂ := ControlTransfer.taken_of_not_lt h₂
      have hlands : env.Lands ↔ env.write.taken = true := by
        simp [PokeEnv.Lands, not_lt.mp h₁, not_lt.mp h₂]
      by_cases hwrite : env.write.taken = true
      · simp [Panel.control, Panel.take, ht₁, ht₂, hwrite, hlands]
      · simp [Panel.control, Panel.take, ht₁, ht₂, hwrite, hlands]

/-- The loop of the two setters: `n` registers get the same value. -/
def sur40Pokes (env : ℕ → PokeEnv) (offset : ℕ → UInt8) (value : UInt8) (n : ℕ) (p : Panel) :
    Panel :=
  (List.range n).foldl (fun p i => (sur40Poke (env i) (offset i) value p).1) p

theorem sur40Pokes_succ (env : ℕ → PokeEnv) (offset : ℕ → UInt8) (value : UInt8) (n : ℕ)
    (p : Panel) :
    sur40Pokes env offset value (n + 1) p =
      (sur40Poke (env n) (offset n) value (sur40Pokes env offset value n p)).1 := by
  simp [sur40Pokes, List.range_succ]

/-- A register that is not among them keeps its value. -/
theorem sur40Pokes_regs_of_ne {env : ℕ → PokeEnv} {offset : ℕ → UInt8} {value : UInt8} {n : ℕ}
    {p : Panel} {r : UInt8} (h : ∀ i < n, offset i ≠ r) :
    (sur40Pokes env offset value n p).regs r = p.regs r := by
  induction n with
  | zero => rfl
  | succ n ih =>
      have hr : r ≠ offset n := fun hr => h n (Nat.lt_succ_self n) hr.symm
      rw [sur40Pokes_succ, sur40Poke_regs]
      split_ifs
      · rw [Function.update_of_ne hr]
        exact ih fun i hi => h i (Nat.lt_succ_of_lt hi)
      · exact ih fun i hi => h i (Nat.lt_succ_of_lt hi)

/-- A register that is holds the value if its poke lands, else what it held. -/
theorem sur40Pokes_regs {env : ℕ → PokeEnv} {offset : ℕ → UInt8} {value : UInt8} {n : ℕ}
    {p : Panel} (hinj : ∀ i < n, ∀ j < n, offset i = offset j → i = j) {i : ℕ} (hi : i < n) :
    (sur40Pokes env offset value n p).regs (offset i) =
      if (env i).Lands then value else p.regs (offset i) := by
  induction n with
  | zero => exact absurd hi (Nat.not_lt_zero i)
  | succ n ih =>
      have hinj' : ∀ i < n, ∀ j < n, offset i = offset j → i = j := fun i hi j hj =>
        hinj i (Nat.lt_succ_of_lt hi) j (Nat.lt_succ_of_lt hj)
      rw [sur40Pokes_succ, sur40Poke_regs]
      rcases Nat.lt_succ_iff_lt_or_eq.mp hi with hlt | rfl
      · have hne : offset i ≠ offset n := fun heq =>
          absurd (hinj i hi n (Nat.lt_succ_self n) heq) (Nat.ne_of_lt hlt)
        rw [← ih hinj' hlt]
        by_cases hn : (env n).Lands
        · rw [if_pos hn, Function.update_of_ne hne]
        · rw [if_neg hn]
      · have hfresh : ∀ j < i, offset j ≠ offset i := fun j hj heq =>
          absurd (hinj j (Nat.lt_succ_of_lt hj) i hi heq) (Nat.ne_of_lt hj)
        split_ifs
        · rw [Function.update_self]
        · exact sur40Pokes_regs_of_ne hfresh

/-- What the controls act on: the shadow of the video byte, and the panel. -/
structure ControlState where
  vsvideo : UInt8
  panel : Panel

def vsvideoRegister (i : ℕ) : UInt8 := 0x1c + UInt8.ofNat i

def irlevelRegister (i : ℕ) : UInt8 := 0x08 + UInt8.ofNat (2 * i)

def sur40SetVsvideo (env : ℕ → PokeEnv) (value : UInt8) (sur40 : ControlState) : ControlState :=
  { vsvideo := value, panel := sur40Pokes env vsvideoRegister value 4 sur40.panel }

def sur40SetIrlevel (env : ℕ → PokeEnv) (value : UInt8) (sur40 : ControlState) : ControlState :=
  { sur40 with panel := sur40Pokes env irlevelRegister value 8 sur40.panel }

/-- The transfers of a call. -/
structure CtrlEnv where
  poke : ℕ → PokeEnv
  init2 : ControlTransfer
  init3 : ControlTransfer

def erange : ℤ := 34

/-- `sur40_set_preprocessor`. -/
def sur40SetPreprocessor (env : CtrlEnv) (value : UInt8) (sur40 : ControlState) :
    ControlState × ℤ :=
  if value > 1 then (sur40, -erange)
  else
    let panel := sur40.panel.control env.init2 0x07 (if value = 0 then 0x01 else 0x00)
    if env.init2.result < 0 then ({ sur40 with panel }, env.init2.result)
    else
      ({ sur40 with panel := panel.control env.init3 0x17 (if value = 0 then 0x85 else 0x80) },
        env.init3.result)

/-- The controls, and the end of their ranges; all ranges start at 0. -/
inductive Ctrl where
  | brightness
  | contrast
  | gain
  | backlightCompensation
  deriving DecidableEq

def Ctrl.max : Ctrl → ℤ
  | .brightness => 0xff
  | .contrast => 0x0f
  | .gain => 0x09
  | .backlightCompensation => 0x01

/-- A control with a value in its range. -/
structure Setting where
  ctrl : Ctrl
  val : ℤ
  nonneg : 0 ≤ val
  le_max : val ≤ ctrl.max

/-- `sur40_s_ctrl`. -/
def sur40SCtrl (env : CtrlEnv) (ctrl : Setting) (sur40 : ControlState) : ControlState × ℤ :=
  let val := UInt8.ofInt ctrl.val
  match ctrl.ctrl with
  | .brightness => (sur40SetIrlevel env.poke val sur40, 0)
  | .contrast =>
      (sur40SetVsvideo env.poke
        ((sur40.vsvideo &&& (0x0f : UInt8)) ||| (val <<< (4 : UInt8))) sur40, 0)
  | .gain => (sur40SetVsvideo env.poke ((sur40.vsvideo &&& (0xf0 : UInt8)) ||| val) sur40, 0)
  | .backlightCompensation => ((sur40SetPreprocessor env val sur40).1, 0)

/-- A call never fails. -/
theorem sur40SCtrl_result (env : CtrlEnv) (ctrl : Setting) (sur40 : ControlState) :
    (sur40SCtrl env ctrl sur40).2 = 0 := by
  rw [sur40SCtrl]
  split <;> rfl

/-! ## What has been set -/

/-- The last value that a control has been set to. -/
def lastSetting (ctrl : Ctrl) (history : List Setting) : Option ℤ :=
  (history.filter fun s => s.ctrl = ctrl).getLast?.map Setting.val

/-- Contrast and gain in one byte; before they have been set, the defaults. -/
def vsvideoByte (history : List Setting) : UInt8 :=
  (UInt8.ofInt ((lastSetting .contrast history).getD 0x0a) <<< (4 : UInt8)) |||
    UInt8.ofInt ((lastSetting .gain history).getD 0x08)

/-- The shadow, and the registers that have been set, hold what has been set last. -/
structure PanelAgrees (history : List Setting) (sur40 : ControlState) : Prop where
  shadow : sur40.vsvideo = vsvideoByte history
  video : (∃ s ∈ history, s.ctrl = .contrast ∨ s.ctrl = .gain) →
    ∀ i < 4, sur40.panel.regs (vsvideoRegister i) = vsvideoByte history
  brightness : ∀ b, lastSetting .brightness history = some b →
    ∀ i < 8, sur40.panel.regs (irlevelRegister i) = UInt8.ofInt b

theorem lastSetting_append (ctrl : Ctrl) (history : List Setting) (s : Setting) :
    lastSetting ctrl (history ++ [s]) =
      if s.ctrl = ctrl then some s.val else lastSetting ctrl history := by
  by_cases h : s.ctrl = ctrl
  · simp [lastSetting, h]
  · simp [lastSetting, h]

theorem lastSetting_mem {ctrl : Ctrl} {history : List Setting} {v : ℤ}
    (h : lastSetting ctrl history = some v) : 0 ≤ v ∧ v ≤ ctrl.max := by
  obtain ⟨s, hs, rfl⟩ := Option.map_eq_some_iff.mp h
  have hmem := List.mem_of_getLast? hs
  have hctrl : s.ctrl = ctrl := by simpa using (List.mem_filter.mp hmem).2
  exact ⟨s.nonneg, hctrl ▸ s.le_max⟩

theorem byte_split (c g : Fin 16) :
    let byte := (UInt8.ofNat c <<< (4 : UInt8)) ||| UInt8.ofNat g
    byte &&& (0x0f : UInt8) = UInt8.ofNat g ∧
      byte &&& (0xf0 : UInt8) = UInt8.ofNat c <<< (4 : UInt8) := by
  revert c g
  decide

/-- A nibble as a byte. -/
theorem ofInt_eq_ofNat_fin {v : ℤ} (h : 0 ≤ v) (h' : v ≤ 0x0f) :
    ∃ n : Fin 16, UInt8.ofInt v = UInt8.ofNat n := by
  refine ⟨⟨v.toNat, by omega⟩, ?_⟩
  apply UInt8.toNat_inj.mp
  simp [UInt8.ofInt]
  omega

theorem vsvideoByte_split (history : List Setting) :
    vsvideoByte history &&& (0x0f : UInt8) =
        UInt8.ofInt ((lastSetting .gain history).getD 0x08) ∧
      vsvideoByte history &&& (0xf0 : UInt8) =
        UInt8.ofInt ((lastSetting .contrast history).getD 0x0a) <<< (4 : UInt8) := by
  have hcontrast : ∃ n : Fin 16,
      UInt8.ofInt ((lastSetting .contrast history).getD 0x0a) = UInt8.ofNat n := by
    cases h : lastSetting .contrast history with
    | none => exact ofInt_eq_ofNat_fin (by decide) (by decide)
    | some v => exact ofInt_eq_ofNat_fin (lastSetting_mem h).1 (lastSetting_mem h).2
  have hgain : ∃ n : Fin 16,
      UInt8.ofInt ((lastSetting .gain history).getD 0x08) = UInt8.ofNat n := by
    cases h : lastSetting .gain history with
    | none => exact ofInt_eq_ofNat_fin (by decide) (by decide)
    | some v =>
        have hle : v ≤ 0x09 := (lastSetting_mem h).2
        exact ofInt_eq_ofNat_fin (lastSetting_mem h).1 (hle.trans (by decide))
  obtain ⟨c, hc⟩ := hcontrast
  obtain ⟨g, hg⟩ := hgain
  rw [vsvideoByte, hc, hg]
  exact byte_split c g

/-! ## One call -/

/-- Every register that the call writes takes the value, or holds it already. -/
def LandsOrHeld (env : CtrlEnv) (ctrl : Setting) (sur40 : ControlState) : Prop :=
  let val := UInt8.ofInt ctrl.val
  match ctrl.ctrl with
  | .brightness =>
      ∀ i < 8, (env.poke i).Lands ∨ sur40.panel.regs (irlevelRegister i) = val
  | .contrast =>
      ∀ i < 4, (env.poke i).Lands ∨ sur40.panel.regs (vsvideoRegister i) =
        (sur40.vsvideo &&& (0x0f : UInt8)) ||| (val <<< (4 : UInt8))
  | .gain =>
      ∀ i < 4, (env.poke i).Lands ∨ sur40.panel.regs (vsvideoRegister i) =
        (sur40.vsvideo &&& (0xf0 : UInt8)) ||| val
  | .backlightCompensation => True

theorem vsvideoRegister_inj : ∀ i < 4, ∀ j < 4, vsvideoRegister i = vsvideoRegister j → i = j := by
  decide

theorem irlevelRegister_inj : ∀ i < 8, ∀ j < 8, irlevelRegister i = irlevelRegister j → i = j := by
  decide

/-- The two groups of registers are disjoint. -/
theorem irlevelRegister_ne : ∀ i < 8, ∀ j < 4, irlevelRegister i ≠ vsvideoRegister j := by
  decide

theorem sur40SetVsvideo_video (env : ℕ → PokeEnv) (value : UInt8) (sur40 : ControlState) :
    (∀ i < 4, (sur40SetVsvideo env value sur40).panel.regs (vsvideoRegister i) = value) ↔
      ∀ i < 4, (env i).Lands ∨ sur40.panel.regs (vsvideoRegister i) = value := by
  refine forall₂_congr fun i hi => ?_
  rw [sur40SetVsvideo, sur40Pokes_regs vsvideoRegister_inj hi]
  by_cases hlands : (env i).Lands <;> simp [hlands]

theorem sur40SetIrlevel_irlevel (env : ℕ → PokeEnv) (value : UInt8) (sur40 : ControlState) :
    (∀ i < 8, (sur40SetIrlevel env value sur40).panel.regs (irlevelRegister i) = value) ↔
      ∀ i < 8, (env i).Lands ∨ sur40.panel.regs (irlevelRegister i) = value := by
  refine forall₂_congr fun i hi => ?_
  rw [sur40SetIrlevel, sur40Pokes_regs irlevelRegister_inj hi]
  by_cases hlands : (env i).Lands <;> simp [hlands]

theorem sur40SetVsvideo_irlevel (env : ℕ → PokeEnv) (value : UInt8) (sur40 : ControlState) {i : ℕ}
    (hi : i < 8) : (sur40SetVsvideo env value sur40).panel.regs (irlevelRegister i) =
      sur40.panel.regs (irlevelRegister i) :=
  sur40Pokes_regs_of_ne fun j hj => (irlevelRegister_ne i hi j hj).symm

theorem sur40SetIrlevel_video (env : ℕ → PokeEnv) (value : UInt8) (sur40 : ControlState) {i : ℕ}
    (hi : i < 4) : (sur40SetIrlevel env value sur40).panel.regs (vsvideoRegister i) =
      sur40.panel.regs (vsvideoRegister i) :=
  sur40Pokes_regs_of_ne fun j hj => irlevelRegister_ne j hj i hi

/-- The preprocessor switches are no panel registers. -/
theorem Panel.control_preprocessor (t : ControlTransfer) (p : Panel) {value : UInt8}
    (h : value = 0x07 ∨ value = 0x17) (index : UInt8) : p.control t value index = p := by
  have htake : p.take value index = p := by
    rcases h with rfl | rfl
    · rfl
    · rfl
  rw [Panel.control, htake, ite_self]

theorem sur40SetPreprocessor_fst (env : CtrlEnv) (value : UInt8) (sur40 : ControlState) :
    (sur40SetPreprocessor env value sur40).1 = sur40 := by
  simp only [sur40SetPreprocessor, Panel.control_preprocessor _ _ (.inl rfl),
    Panel.control_preprocessor _ _ (.inr rfl)]
  split
  · rfl
  · split <;> rfl

theorem vsvideoByte_of_other {history : List Setting} {s : Setting} (hc : s.ctrl ≠ .contrast)
    (hg : s.ctrl ≠ .gain) : vsvideoByte (history ++ [s]) = vsvideoByte history := by
  rw [vsvideoByte, lastSetting_append, lastSetting_append, if_neg hc, if_neg hg, vsvideoByte]

/-- A call that writes the video byte, `value`. -/
theorem PanelAgrees.step_video {history : List Setting} {sur40 : ControlState}
    (h : PanelAgrees history sur40) (env : CtrlEnv) {s : Setting} {value : UInt8}
    (hctrl : s.ctrl = .contrast ∨ s.ctrl = .gain)
    (hvalue : vsvideoByte (history ++ [s]) = value) :
    PanelAgrees (history ++ [s]) (sur40SetVsvideo env.poke value sur40) ↔
      ∀ i < 4, (env.poke i).Lands ∨ sur40.panel.regs (vsvideoRegister i) = value := by
  rw [← sur40SetVsvideo_video]
  constructor
  · intro h'
    rw [← hvalue]
    rw [← hvalue] at h'
    exact h'.video ⟨s, by simp, hctrl⟩
  · intro hregs
    refine ⟨hvalue.symm, fun _ => hvalue ▸ hregs, fun b hb i hi => ?_⟩
    have hne : s.ctrl ≠ .brightness := by
      rcases hctrl with hctrl | hctrl <;> rw [hctrl] <;> decide
    rw [lastSetting_append, if_neg hne] at hb
    rw [sur40SetVsvideo_irlevel _ _ _ hi]
    exact h.brightness b hb i hi

/-- One call keeps the agreement exactly if all its values arrive. -/
theorem PanelAgrees.step {history : List Setting} {sur40 : ControlState}
    (h : PanelAgrees history sur40) (env : CtrlEnv) (s : Setting) :
    PanelAgrees (history ++ [s]) (sur40SCtrl env s sur40).1 ↔ LandsOrHeld env s sur40 := by
  obtain ⟨hlow, hhigh⟩ := vsvideoByte_split history
  cases hctrl : s.ctrl with
  | brightness =>
      have hbyte : vsvideoByte (history ++ [s]) = vsvideoByte history :=
        vsvideoByte_of_other (by simp [hctrl]) (by simp [hctrl])
      have hlast : lastSetting .brightness (history ++ [s]) = some s.val := by
        rw [lastSetting_append, if_pos hctrl]
      simp only [sur40SCtrl, LandsOrHeld, hctrl, ← sur40SetIrlevel_irlevel]
      constructor
      · intro h'
        exact h'.brightness s.val hlast
      · intro hregs
        refine ⟨hbyte ▸ h.shadow, fun hvideo i hi => ?_, fun b hb => ?_⟩
        · obtain ⟨t, ht, hvideo⟩ := hvideo
          have hmem : t ∈ history := by
            rcases List.mem_append.mp ht with ht | ht
            · exact ht
            · obtain rfl := List.mem_singleton.mp ht
              simp [hctrl] at hvideo
          rw [sur40SetIrlevel_video _ _ _ hi, hbyte]
          exact h.video ⟨t, hmem, hvideo⟩ i hi
        · obtain rfl : s.val = b := Option.some.inj (hlast.symm.trans hb)
          exact hregs
  | contrast =>
      simp only [sur40SCtrl, LandsOrHeld, hctrl]
      refine h.step_video env (.inl hctrl) ?_
      rw [h.shadow, hlow, vsvideoByte, lastSetting_append, lastSetting_append, if_pos hctrl,
        if_neg (by simp [hctrl]), Option.getD_some, UInt8.or_comm]
  | gain =>
      simp only [sur40SCtrl, LandsOrHeld, hctrl]
      refine h.step_video env (.inr hctrl) ?_
      rw [h.shadow, hhigh, vsvideoByte, lastSetting_append, lastSetting_append, if_pos hctrl,
        if_neg (by simp [hctrl]), Option.getD_some]
  | backlightCompensation =>
      have hbyte : vsvideoByte (history ++ [s]) = vsvideoByte history :=
        vsvideoByte_of_other (by simp [hctrl]) (by simp [hctrl])
      simp only [sur40SCtrl, LandsOrHeld, hctrl, sur40SetPreprocessor_fst, iff_true]
      refine ⟨hbyte ▸ h.shadow, fun hvideo => ?_, fun b hb => ?_⟩
      · obtain ⟨t, ht, hvideo⟩ := hvideo
        rcases List.mem_append.mp ht with ht | ht
        · exact hbyte ▸ h.video ⟨t, ht, hvideo⟩
        · obtain rfl := List.mem_singleton.mp ht
          simp [hctrl] at hvideo
      · rw [lastSetting_append, if_neg (by simp [hctrl])] at hb
        exact h.brightness b hb

/-! ## Runs -/

/-- The state that `sur40_probe` leaves behind before it sets the controls. -/
def probedControls (panel : Panel) : ControlState :=
  { vsvideo := ((0x0a : UInt8) <<< (4 : UInt8)) ||| 0x08, panel }

/-- Call after call. -/
def runCalls (calls : List (CtrlEnv × Setting)) (sur40 : ControlState) : ControlState :=
  calls.foldl (fun sur40 call => (sur40SCtrl call.1 call.2 sur40).1) sur40

theorem runCalls_append_singleton (calls : List (CtrlEnv × Setting)) (call : CtrlEnv × Setting)
    (sur40 : ControlState) :
    runCalls (calls ++ [call]) sur40 = (sur40SCtrl call.1 call.2 (runCalls calls sur40)).1 := by
  simp [runCalls]

/-- Whenever a call reports success, the panel agrees with everything that has been set
so far. -/
def ReportsTrue (calls : List (CtrlEnv × Setting)) (sur40 : ControlState) : Prop :=
  ∀ pre call post, calls = pre ++ call :: post →
    (sur40SCtrl call.1 call.2 (runCalls pre sur40)).2 = 0 →
    PanelAgrees ((pre ++ [call]).map Prod.snd)
      (sur40SCtrl call.1 call.2 (runCalls pre sur40)).1

theorem panelAgrees_probed (panel : Panel) : PanelAgrees [] (probedControls panel) := by
  refine ⟨?_, ?_, ?_⟩
  · change ((0x0a : UInt8) <<< (4 : UInt8)) ||| 0x08 = vsvideoByte []
    decide
  · simp
  · simp [lastSetting]

/-- If the panel agrees before a call of the run, the call decides about what comes
behind it. -/
theorem panelAgrees_call_iff {pre : List (CtrlEnv × Setting)} {sur40 : ControlState}
    (h : PanelAgrees (pre.map Prod.snd) (runCalls pre sur40)) (call : CtrlEnv × Setting) :
    PanelAgrees ((pre ++ [call]).map Prod.snd) (sur40SCtrl call.1 call.2 (runCalls pre sur40)).1 ↔
      LandsOrHeld call.1 call.2 (runCalls pre sur40) := by
  rw [List.map_append]
  exact h.step call.1 call.2

/-- **Controls reported as set are set** exactly in those runs in which every poke
either lands or finds its value in the register. -/
theorem sur40SCtrl_agrees_iff (panel : Panel) (calls : List (CtrlEnv × Setting)) :
    ReportsTrue calls (probedControls panel) ↔
      ∀ pre call post, calls = pre ++ call :: post →
        LandsOrHeld call.1 call.2 (runCalls pre (probedControls panel)) := by
  constructor
  · intro h pre call post hsplit
    have hbefore : PanelAgrees (pre.map Prod.snd) (runCalls pre (probedControls panel)) := by
      rcases List.eq_nil_or_concat' pre with rfl | ⟨init, last, rfl⟩
      · exact panelAgrees_probed panel
      · rw [runCalls_append_singleton]
        exact h init last (call :: post) (by simp [hsplit]) (sur40SCtrl_result _ _ _)
    exact (panelAgrees_call_iff hbefore call).mp (h pre call post hsplit (sur40SCtrl_result _ _ _))
  · intro h
    have hall : ∀ pre post, calls = pre ++ post →
        PanelAgrees (pre.map Prod.snd) (runCalls pre (probedControls panel)) := by
      intro pre
      induction pre using List.reverseRecOn with
      | nil =>
          intro post _
          exact panelAgrees_probed panel
      | append_singleton pre call ih =>
          intro post hsplit
          have hsplit' : calls = pre ++ call :: post := by simp [hsplit]
          rw [runCalls_append_singleton]
          exact (panelAgrees_call_iff (ih (call :: post) hsplit') call).mpr
            (h pre call post hsplit')
    intro pre call post hsplit _
    exact (panelAgrees_call_iff (hall pre (call :: post) hsplit) call).mpr (h pre call post hsplit)

/-- A transfer that is lost. -/
def lostTransfer : ControlTransfer where
  result := -71
  taken := false
  taken_of_success := by decide

/-- The brightness is set to 255, and no transfer gets through. -/
def lostBrightness : CtrlEnv × Setting :=
  ({ poke := fun _ => ⟨lostTransfer, lostTransfer, lostTransfer⟩
     init2 := lostTransfer
     init3 := lostTransfer },
    { ctrl := .brightness, val := 0xff, nonneg := by decide, le_max := by decide })

/-- The call reports success, and the registers are still 0. -/
theorem not_reportsTrue_lostBrightness :
    ¬ ReportsTrue [lostBrightness] (probedControls ⟨0, 0, fun _ => 0⟩) := by
  intro h
  have hagrees := h [] lostBrightness [] rfl (sur40SCtrl_result _ _ _)
  have hregister := hagrees.brightness 0xff (by decide) 0 (by decide)
  exact absurd hregister (by decide)

end Sur40
