import Sur40.Tracking
import Mathlib.Data.Rat.Sqrt
import Mathlib.Tactic.IntervalCases

/-!
# Failed reads and the contact lists

A read that fails has a negative result. While nothing is on the lists the loop skips
it like an empty frame; otherwise it processes it like an empty frame, as if every
contact had been lifted.

## Main definitions

* `contactReports`: what happened to the contacts in the frames that were delivered.
* `Undisturbed`: the same as without the failed reads.
* `failedReads_undisturbed`: when that is so.
-/

namespace Sur40

open Devlib

/-- The read failed: a timeout, or a transfer of a wrong size. -/
def ReadFails (t : BlobRead × TuioTime) : Prop := t.1.result < 0

instance : DecidablePred ReadFails := fun t => inferInstanceAs (Decidable (t.1.result < 0))

/-- The turns in which a frame was delivered. -/
def deliveredTurns (ts : List (BlobRead × TuioTime)) : List (BlobRead × TuioTime) :=
  ts.filter fun t => ¬ ReadFails t

/-- What a frame did to the contacts, and the contacts behind it. -/
structure ContactReport where
  events : List TuioEvent
  cursorIds : List ℤ
  objectIds : List ℤ
  deriving DecidableEq

section

variable {K : Type*} [Field K] [LinearOrder K] (A : Arithmetic K)

/-- The manager behind a number of turns. -/
def runTurns (m : TuioManager K) (ts : List (BlobRead × TuioTime)) : TuioManager K :=
  ts.foldl (TuioManager.turn A) m

/-- A skipped frame has no events. -/
def contactReport (m : TuioManager K) (t : BlobRead × TuioTime) : ContactReport where
  events := if m.skips t.1 then [] else (m.turn A t).events
  cursorIds := (m.turn A t).cursorIds
  objectIds := (m.turn A t).objectIds

/-- The reports of the frames that were delivered. -/
def contactReports : TuioManager K → List (BlobRead × TuioTime) → List ContactReport
  | _, [] => []
  | m, t :: ts =>
      if ReadFails t then contactReports (m.turn A t) ts
      else contactReport A m t :: contactReports (m.turn A t) ts

/-- The failed reads make no difference to the frames that were delivered. -/
def Undisturbed (m : TuioManager K) (ts : List (BlobRead × TuioTime)) : Prop :=
  contactReports A m ts = contactReports A m (deliveredTurns ts)

/-- No contact is on the lists when a read fails. -/
def FailsIdle (m : TuioManager K) (ts : List (BlobRead × TuioTime)) : Prop :=
  ∀ pre t, pre ++ [t] <+: ts → ReadFails t → (runTurns A m pre).contactCount ≤ 0

variable {A} {m : TuioManager K}

@[simp] theorem runTurns_nil : runTurns A m [] = m := rfl

@[simp] theorem runTurns_cons (t : BlobRead × TuioTime) (ts : List (BlobRead × TuioTime)) :
    runTurns A m (t :: ts) = runTurns A (m.turn A t) ts := rfl

theorem runTurns_append (ts us : List (BlobRead × TuioTime)) :
    runTurns A m (ts ++ us) = runTurns A (runTurns A m ts) us :=
  List.foldl_append

theorem contactReports_append (ts us : List (BlobRead × TuioTime)) :
    contactReports A m (ts ++ us) =
      contactReports A m ts ++ contactReports A (runTurns A m ts) us := by
  induction ts generalizing m with
  | nil => simp [contactReports]
  | cons t ts ih =>
      simp only [List.cons_append, contactReports, runTurns_cons, ih]
      split <;> simp

/-- A failed read is skipped while nothing is on the lists. -/
theorem turn_of_failed {t : BlobRead × TuioTime} (ht : ReadFails t) (hm : m.contactCount ≤ 0) :
    m.turn A t = m := by
  have hskips : m.skips t.1 := ⟨le_of_lt ht, hm⟩
  simp [TuioManager.turn, hskips]

theorem failsIdle_nil : FailsIdle A m [] := by
  intro pre t hpre
  simp at hpre

theorem FailsIdle.tail {t : BlobRead × TuioTime} {ts : List (BlobRead × TuioTime)}
    (h : FailsIdle A m (t :: ts)) : FailsIdle A (m.turn A t) ts := by
  intro pre u hpre hu
  simpa using h (t :: pre) u (by simpa using hpre) hu

theorem FailsIdle.cons {t : BlobRead × TuioTime} {ts : List (BlobRead × TuioTime)}
    (ht : ReadFails t → m.contactCount ≤ 0) (h : FailsIdle A (m.turn A t) ts) :
    FailsIdle A m (t :: ts) := by
  intro pre u hpre hu
  cases pre with
  | nil =>
      obtain rfl : u = t := by simpa using hpre
      exact ht hu
  | cons v pre =>
      obtain ⟨rfl, hrest⟩ := List.cons_prefix_cons.mp (show v :: (pre ++ [u]) <+: t :: ts from hpre)
      exact h pre u hrest hu

/-- The first failed read that finds a contact. -/
theorem exists_first_of_not_failsIdle {ts : List (BlobRead × TuioTime)} (h : ¬ FailsIdle A m ts) :
    ∃ pre t, pre ++ [t] <+: ts ∧ ReadFails t ∧ 0 < (runTurns A m pre).contactCount ∧
      FailsIdle A m pre := by
  induction ts generalizing m with
  | nil => exact absurd failsIdle_nil h
  | cons t ts ih =>
      by_cases ht : ReadFails t → m.contactCount ≤ 0
      · obtain ⟨pre, u, hpre, hu, hcount, hidle⟩ := ih fun hidle => h (.cons ht hidle)
        exact ⟨t :: pre, u, by simpa using hpre, hu, hcount, hidle.cons ht⟩
      · obtain ⟨hfails, hcount⟩ := Classical.not_imp.mp ht
        exact ⟨[], t, by simp, hfails, not_le.mp hcount, failsIdle_nil⟩

/-- Failed reads that find the lists empty leave the manager alone. -/
theorem FailsIdle.runTurns_delivered {ts : List (BlobRead × TuioTime)} (h : FailsIdle A m ts) :
    runTurns A m (deliveredTurns ts) = runTurns A m ts := by
  induction ts generalizing m with
  | nil => rfl
  | cons t ts ih =>
      by_cases ht : ReadFails t
      · have hturn : m.turn A t = m := turn_of_failed ht (by simpa using h [] t (by simp) ht)
        have ih := ih h.tail
        rw [hturn] at ih
        simpa [deliveredTurns, ht, hturn] using ih
      · simpa [deliveredTurns, ht] using ih h.tail

/-- Failed reads that find the lists empty disturb nothing. -/
theorem FailsIdle.undisturbed {ts : List (BlobRead × TuioTime)} (h : FailsIdle A m ts) :
    Undisturbed A m ts := by
  induction ts generalizing m with
  | nil => rfl
  | cons t ts ih =>
      by_cases ht : ReadFails t
      · have hturn : m.turn A t = m := turn_of_failed ht (by simpa using h [] t (by simp) ht)
        have ih := ih h.tail
        rw [hturn] at ih
        simpa [Undisturbed, contactReports, deliveredTurns, ht, hturn] using ih
      · simpa [Undisturbed, contactReports, deliveredTurns, ht] using ih h.tail

theorem FailsIdle.append_delivered {ts pre rest : List (BlobRead × TuioTime)}
    (h : FailsIdle A m ts) (hpre : pre <+: ts) (hrest : ∀ t ∈ rest, ¬ ReadFails t) :
    FailsIdle A m (pre ++ rest) := by
  intro p t hp ht
  rcases List.prefix_or_prefix_of_prefix hp (List.prefix_append pre rest) with hle | hle
  · exact h p t (hle.trans hpre) ht
  · obtain ⟨s, hs⟩ := hle
    cases List.eq_nil_or_concat s with
    | inl hnil =>
        rw [hnil, List.append_nil] at hs
        exact h p t (hs ▸ hpre) ht
    | inr hconcat =>
        -- the failed read would be one of the others
        obtain ⟨s', u, rfl⟩ := hconcat
        have hconcat : (pre ++ s').concat u = p.concat t := by simpa using hs
        obtain ⟨-, rfl⟩ := List.concat_inj.mp hconcat
        rw [← hs] at hp
        have hmem : u ∈ rest := by
          have := ((List.prefix_append_right_inj pre).mp hp).subset
          exact this (by simp)
        exact absurd ht (hrest u hmem)

/-! ## Turns without entries -/

/-- An object that stays for `p` frames when nothing touches it. -/
def Lingers (m : TuioManager K) (id : ℤ) (p : ℕ) : Prop :=
  ∃ o ∈ m.objectList, o.sessionId = id ∧ o.patience = p

variable [IsStrictOrderedRing K]

/-- A frame without entries removes the cursors and the objects that have come to rest,
and takes the others a frame of their patience. -/
theorem TuioManager.Steady.turn_empty (h : m.Steady) {t : BlobRead × TuioTime}
    (hbefore : m.ContactsBefore t.2) (hresult : t.1.result ≤ 0) :
    (m.turn A t).cursorList = [] ∧
      (∀ id, .removeCursor id ∈ (contactReport A m t).events ↔ id ∈ m.cursorIds) ∧
      (∀ id, .removeObject id ∈ (contactReport A m t).events ↔ Lingers m id 0) ∧
      ∀ id p, Lingers (m.turn A t) id p ↔ Lingers m id (p + 1) := by
  by_cases hskips : m.skips t.1
  · obtain ⟨-, hcursors, hobjects⟩ := TuioManager.skips_spec hskips
    simp [contactReport, TuioManager.turn, hskips, hcursors, hobjects, Lingers,
      TuioManager.cursorIds]
  · have hturn : m.turn A t = m.processFrame A t.2 [] := by
      simp [TuioManager.turn, hskips, t.1.entries_of_nonpos hresult]
    obtain ⟨-, hcursors, hobjects, hevents⟩ := TuioManager.processFrame_spec (A := A) []
      (show [].foldl (TuioManager.processBlob A) (m.initFrame t.2) = m.initFrame t.2 from rfl) rfl
    simp only [TuioManager.initFrame, List.nil_append] at hcursors hobjects hevents
    have hcursor (c : TuioCursor K) (hc : c ∈ m.cursorList) : c.currentTime ≠ t.2 :=
      (h.cursor_before hbefore hc).ne
    have hobject (o : TuioObject K) (ho : o ∈ m.objectList) : o.currentTime ≠ t.2 :=
      (h.object_before hbefore ho).ne
    have hrest (o : TuioObject K) (ho : o ∈ m.objectList) :
        TuioManager.objectLeft t.2 o = true ↔ o.patience = 0 := by
      simp [TuioManager.objectLeft, hobject o ho, TuioObject.patience_eq_zero]
    refine ⟨?_, fun id => ?_, fun id => ?_, fun id p => ?_⟩
    · rw [hturn, hcursors]
      simpa using hcursor
    · simp only [contactReport, hskips, if_false, hturn, hevents, List.mem_append, List.mem_map,
        List.mem_filter, TuioManager.cursorIds]
      constructor
      · rintro (⟨c, ⟨hc, -⟩, hid⟩ | ⟨o, -, hid⟩)
        · exact ⟨c, hc, TuioEvent.removeCursor.inj hid⟩
        · exact absurd hid (by simp)
      · rintro ⟨c, hc, rfl⟩
        exact .inl ⟨c, ⟨hc, by simpa using hcursor c hc⟩, rfl⟩
    · simp only [contactReport, hskips, if_false, hturn, hevents, List.mem_append, List.mem_map,
        List.mem_filter, Lingers]
      constructor
      · rintro (⟨c, -, hid⟩ | ⟨o, ⟨ho, hleft⟩, hid⟩)
        · exact absurd hid (by simp)
        · exact ⟨o, ho, TuioEvent.removeObject.inj hid, (hrest o ho).mp hleft⟩
      · rintro ⟨o, ho, rfl, hzero⟩
        exact .inr ⟨o, ⟨ho, (hrest o ho).mpr hzero⟩, rfl⟩
    · simp only [Lingers, hturn, hobjects, List.mem_map, List.mem_filter]
      constructor
      · rintro ⟨-, ⟨o, ⟨ho, hstays⟩, rfl⟩, rfl, rfl⟩
        have hpatience := h.patience_stopObject (A := A) hbefore ho (by simpa using hstays)
        exact ⟨o, ho, by simp, hpatience.symm⟩
      · rintro ⟨o, ho, rfl, hp⟩
        have hstays : TuioManager.objectLeft t.2 o = false := by
          rw [Bool.eq_false_iff, ne_eq, hrest o ho]
          omega
        have hpatience := h.patience_stopObject (A := A) hbefore ho hstays
        exact ⟨_, ⟨o, ⟨ho, by simp [hstays]⟩, rfl⟩, by simp, by omega⟩

omit [Field K] [LinearOrder K] [IsStrictOrderedRing K] in
theorem Lingers.unique [Field K] [LinearOrder K] (h : m.Steady) {id : ℤ} {p q : ℕ}
    (hp : Lingers m id p) (hq : Lingers m id q) : p = q := by
  obtain ⟨o, ho, rfl, rfl⟩ := hp
  obtain ⟨o', ho', hid, rfl⟩ := hq
  rw [List.inj_on_of_nodup_map h.objects_nodup ho' ho hid]

omit [IsStrictOrderedRing K] in
/-- If the same objects have patience 0, 1 and 2, there are none. -/
theorem objectList_eq_nil_of_lingers (hm : m.Steady)
    (hzero : ∀ id, Lingers m id 1 ↔ Lingers m id 0)
    (hone : ∀ id, Lingers m id 2 ↔ Lingers m id 1) : m.objectList = [] := by
  apply List.eq_nil_iff_forall_not_mem.mpr
  intro o ho
  have hlingers : Lingers m o.sessionId o.patience := ⟨o, ho, rfl, rfl⟩
  -- whatever the patience of the object, it would be 0 and 1
  have hboth : Lingers m o.sessionId 0 ∧ Lingers m o.sessionId 1 := by
    have hle := o.patience_le
    interval_cases o.patience
    · exact ⟨hlingers, (hzero _).mpr hlingers⟩
    · exact ⟨(hzero _).mp hlingers, hlingers⟩
    · have hlingers' := (hone _).mp hlingers
      exact ⟨(hzero _).mp hlingers', hlingers'⟩
  exact absurd (Lingers.unique hm hboth.1 hboth.2) (by decide)

/-! ## The clock -/

/-- The manager in front of a turn at time `t`. -/
def Clocked (m : TuioManager K) (t : TuioTime) : Prop := m.Steady ∧ m.ContactsBefore t

theorem Clocked.turn {t : BlobRead × TuioTime} {u : TuioTime} (h : Clocked m t.2)
    (hlater : t.2.Before u) : Clocked (m.turn A t) u := by
  by_cases hskips : m.skips t.1
  · obtain ⟨-, hcursors, hobjects⟩ := TuioManager.skips_spec hskips
    simpa [TuioManager.turn, hskips, Clocked, TuioManager.ContactsBefore, hcursors, hobjects]
      using h.1
  · obtain ⟨hsteady, htime, -⟩ := h.1.processFrame (A := A) t.1.entries h.2
    simp only [TuioManager.turn, hskips, if_false]
    exact ⟨hsteady, fun _ => by rwa [htime]⟩

omit [Field K] [LinearOrder K] [IsStrictOrderedRing K] in
theorem Clocked.mono {t u : TuioTime} (h : Clocked m t) (hlater : t.Before u) : Clocked m u :=
  ⟨h.1, fun hm => (h.2 hm).trans hlater⟩

theorem Clocked.runTurns {ts : List (BlobRead × TuioTime)} {u : TuioTime} (hm : m.Steady)
    (hbefore : ∀ v ∈ ts.map Prod.snd ++ [u], m.ContactsBefore v)
    (htimes : (ts.map Prod.snd ++ [u]).Pairwise TuioTime.Before) :
    Clocked (Sur40.runTurns A m ts) u := by
  induction ts generalizing m with
  | nil => exact ⟨hm, hbefore u (by simp)⟩
  | cons t ts ih =>
      simp only [List.map_cons, List.cons_append, List.mem_cons, forall_eq_or_imp,
        List.pairwise_cons] at hbefore htimes
      have hturn (v : TuioTime) (hv : v ∈ ts.map Prod.snd ++ [u]) : Clocked (m.turn A t) v :=
        Clocked.turn ⟨hm, hbefore.1⟩ (htimes.1 v hv)
      exact ih (hturn u (by simp)).1 (fun v hv => (hturn v hv).2) htimes.2

/-! ## Failed reads that find a contact -/

/-- A read without contacts. -/
def emptyRead : BlobRead := .of [] (Nat.zero_le _)

/-- A failed read that finds a contact shows in one of the next two frames: without it the
contact would have been removed a frame later. -/
theorem exists_disturbed {t : BlobRead × TuioTime} (hm : Clocked m t.2) (ht : ReadFails t)
    (hcount : 0 < m.contactCount) :
    ∃ rest, (∀ u ∈ rest, ¬ ReadFails u) ∧
      contactReports A (m.turn A t) rest ≠ contactReports A m rest := by
  let e₁ : BlobRead × TuioTime := (emptyRead, t.2.later)
  let e₂ : BlobRead × TuioTime := (emptyRead, t.2.later.later)
  have hempty (u : TuioTime) : ¬ ReadFails (emptyRead, u) := by
    simp [ReadFails, emptyRead, BlobRead.of]
  have hresult : emptyRead.result ≤ 0 := by simp [emptyRead, BlobRead.of]
  refine ⟨[e₁, e₂], by simp [e₁, e₂, hempty], fun heq => ?_⟩
  simp only [contactReports, e₁, e₂, hempty, if_false, List.cons.injEq, and_true] at heq
  obtain ⟨hfirst, hsecond⟩ := heq
  have hlater := t.2.before_later
  have hlater' := t.2.later.before_later
  -- the managers in front of the two frames, without the failed read and with it
  have hm₁ : Clocked m e₁.2 := hm.mono hlater
  have hm₂ : Clocked (m.turn A e₁) e₂.2 := hm₁.turn hlater'
  have hf₁ : Clocked (m.turn A t) e₁.2 := hm.turn hlater
  have hf₂ : Clocked ((m.turn A t).turn A e₁) e₂.2 := hf₁.turn hlater'
  obtain ⟨hnone, -, -, hfailed⟩ := hm.1.turn_empty (A := A) hm.2 (le_of_lt ht)
  obtain ⟨-, hcursors, hobjects, hturn⟩ := hm₁.1.turn_empty (A := A) hm₁.2 hresult
  obtain ⟨-, hcursors', hobjects', hturn'⟩ := hf₁.1.turn_empty (A := A) hf₁.2 hresult
  obtain ⟨-, -, hnext, -⟩ := hm₂.1.turn_empty (A := A) hm₂.2 hresult
  obtain ⟨-, -, hnext', -⟩ := hf₂.1.turn_empty (A := A) hf₂.2 hresult
  have hzero (id : ℤ) : Lingers m id 1 ↔ Lingers m id 0 :=
    calc
      Lingers m id 1 ↔ Lingers (m.turn A t) id 0 := (hfailed id 0).symm
      _ ↔ .removeObject id ∈ (contactReport A (m.turn A t) e₁).events := (hobjects' id).symm
      _ ↔ .removeObject id ∈ (contactReport A m e₁).events := by rw [hfirst]
      _ ↔ Lingers m id 0 := hobjects id
  have hone (id : ℤ) : Lingers m id 2 ↔ Lingers m id 1 :=
    calc
      Lingers m id 2 ↔ Lingers (m.turn A t) id 1 := (hfailed id 1).symm
      _ ↔ Lingers ((m.turn A t).turn A e₁) id 0 := (hturn' id 0).symm
      _ ↔ .removeObject id ∈ (contactReport A ((m.turn A t).turn A e₁) e₂).events :=
        (hnext' id).symm
      _ ↔ .removeObject id ∈ (contactReport A (m.turn A e₁) e₂).events := by rw [hsecond]
      _ ↔ Lingers (m.turn A e₁) id 0 := hnext id
      _ ↔ Lingers m id 1 := hturn id 0
  by_cases hcursor : m.cursorList = []
  · have hobject := objectList_eq_nil_of_lingers hm.1 hzero hone
    exact absurd (TuioManager.contactCount_le_zero.mpr ⟨hcursor, hobject⟩) (not_le.mpr hcount)
  · obtain ⟨c, hc⟩ := List.exists_mem_of_ne_nil _ hcursor
    have hremoved := (hcursors c.sessionId).mpr (List.mem_map_of_mem hc)
    rw [← hfirst, hcursors'] at hremoved
    simp [TuioManager.cursorIds, hnone] at hremoved

/-- **Failed reads disturb nothing** as long as they find the lists empty; and when the
clock increases, only then: a failed read that finds a contact shows in some continuation. It need
not show in the run itself: a tag that moves outlives a failed read, and the next frame may have
it again. -/
theorem failedReads_undisturbed (A : Arithmetic K) (systemTime : TuioTime)
    (ts : List (BlobRead × TuioTime)) :
    (FailsIdle A (.new systemTime) ts →
      ∀ pre rest, pre <+: ts → (∀ t ∈ rest, ¬ ReadFails t) →
        Undisturbed A (.new systemTime) (pre ++ rest)) ∧
    ((ts.map Prod.snd).Pairwise TuioTime.Before →
      (∀ pre rest, pre <+: ts → (∀ t ∈ rest, ¬ ReadFails t) →
        Undisturbed A (.new systemTime) (pre ++ rest)) →
      FailsIdle A (.new systemTime) ts) := by
  refine ⟨fun h pre rest hpre hrest => (h.append_delivered hpre hrest).undisturbed, ?_⟩
  intro htimes h
  by_contra hfails
  obtain ⟨pre, t, hpre, ht, hcount, hidle⟩ := exists_first_of_not_failsIdle hfails
  have hincreasing : (pre.map Prod.snd ++ [t.2]).Pairwise TuioTime.Before := by
    simpa using htimes.sublist (hpre.map Prod.snd).sublist
  have hclocked : Clocked (runTurns A (.new systemTime) pre) t.2 :=
    Clocked.runTurns (TuioManager.steady_new systemTime)
      (fun _ _ hm => by simp [TuioManager.new] at hm) hincreasing
  obtain ⟨rest, hrest, hne⟩ := exists_disturbed (A := A) hclocked ht hcount
  have hboth := h (pre ++ [t]) rest hpre hrest
  have hdelivered : deliveredTurns (pre ++ [t] ++ rest) = deliveredTurns pre ++ rest := by
    have hall : deliveredTurns rest = rest := by simpa [deliveredTurns] using hrest
    simp [deliveredTurns, ht] at hall ⊢
    exact hall
  rw [Undisturbed, hdelivered, contactReports_append, contactReports_append,
    contactReports_append, hidle.runTurns_delivered, ← hidle.undisturbed, runTurns_append] at hboth
  apply hne
  simpa [contactReports, ht] using hboth

/-! ## A timeout while a finger is on the table -/

end

/-- Rational numbers, with rounded square roots. -/
def Arithmetic.rational : Arithmetic ℚ where
  sqrt := Rat.sqrt
  sqrt_zero := by decide +kernel
  pi := 22 / 7
  pi_pos := by norm_num
  float bits := bits.toNat

/-- A timeout before anything touches the table. -/
def timeoutBeforeFinger : List (BlobRead × TuioTime) :=
  [(.failed (-16) (by decide), .ofMsec 0), (fingerAlone, .ofMsec 16)]

theorem failedReads_timeoutBeforeFinger :
    Undisturbed .rational (.new (.ofMsec 0)) (timeoutBeforeFinger ++ []) :=
  (failedReads_undisturbed .rational (.ofMsec 0) timeoutBeforeFinger).1
    (.cons (fun _ => by decide) (.cons (fun h => absurd h (by decide)) failsIdle_nil))
    timeoutBeforeFinger [] (List.prefix_refl _) (by simp)

/-- A finger that stays on the table, and a timeout. -/
def fingerAndTimeout : List (BlobRead × TuioTime) :=
  [(fingerAlone, .ofMsec 0), (.failed (-16) (by decide), .ofMsec 16), (fingerAlone, .ofMsec 32)]

/-- The timeout removes the cursor, and the next frame adds it once more. -/
theorem not_undisturbed_fingerAndTimeout :
    ¬ Undisturbed .rational (.new (.ofMsec 0)) fingerAndTimeout := by
  rw [Undisturbed]
  decide +kernel

end Sur40
