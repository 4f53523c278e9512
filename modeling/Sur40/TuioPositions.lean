import Sur40.Tracking

/-!
# The positions of the contacts

If a frame has two entries with one blob id, the last finger and the first tag are what counts:
a cursor is moved by every entry, an object only once in a frame. No contact has a threshold, so
that behind the frame it is exactly where its entry puts it.

## Main definitions

* `fingerOf`, `tagOf`: the entry that counts for a contact.
* `TuioManager.Exact`: contacts without a threshold.
* `TuioManager.Placed`: the contacts are where their entries put them.
* `TuioManager.Steady.placed`: they are, behind every frame.
-/

namespace Sur40

open Devlib

/-- The last finger with a blob id. -/
def fingerOf (id : ℤ) (blobs : List SurfaceBlob) : Option SurfaceBlob :=
  blobs.reverse.find? fun b => decide (b.type = 0x02 ∧ (b.blobId.toNat : ℤ) = id)

/-- The first tag with a blob id. -/
def tagOf (id : ℤ) (blobs : List SurfaceBlob) : Option SurfaceBlob :=
  blobs.find? fun b => decide (b.type = 0x04 ∧ (b.blobId.toNat : ℤ) = id)

theorem fingerOf_append (id : ℤ) (blobs : List SurfaceBlob) (b : SurfaceBlob) :
    fingerOf id (blobs ++ [b]) =
      if b.type = 0x02 ∧ (b.blobId.toNat : ℤ) = id then some b else fingerOf id blobs := by
  rw [fingerOf, List.reverse_append, List.reverse_singleton, List.singleton_append,
    List.find?_cons]
  by_cases h : b.type = 0x02 ∧ (b.blobId.toNat : ℤ) = id
  · simp [h]
  · simp [h, fingerOf]

theorem tagOf_append (id : ℤ) (blobs : List SurfaceBlob) (b : SurfaceBlob) :
    tagOf id (blobs ++ [b]) = (tagOf id blobs).or
      (if b.type = 0x04 ∧ (b.blobId.toNat : ℤ) = id then some b else none) := by
  rw [tagOf, List.find?_append, tagOf, List.find?_cons]
  by_cases h : b.type = 0x04 ∧ (b.blobId.toNat : ℤ) = id
  · simp [h]
  · simp [h]

theorem mem_blobIdsOfType {type : UInt8} {id : ℤ} {blobs : List SurfaceBlob} :
    id ∈ blobIdsOfType type blobs ↔
      ∃ b ∈ blobs, b.type = type ∧ (b.blobId.toNat : ℤ) = id := by
  simp [blobIdsOfType, and_assoc]

theorem isSome_fingerOf {id : ℤ} {blobs : List SurfaceBlob} :
    (fingerOf id blobs).isSome ↔ id ∈ blobIdsOfType 0x02 blobs := by
  rw [fingerOf, List.find?_isSome, mem_blobIdsOfType]
  simp

theorem isSome_tagOf {id : ℤ} {blobs : List SurfaceBlob} :
    (tagOf id blobs).isSome ↔ id ∈ blobIdsOfType 0x04 blobs := by
  rw [tagOf, List.find?_isSome, mem_blobIdsOfType]
  simp

section

variable {K : Type*} [Field K] [LinearOrder K]

/-- A point is where an entry is. -/
def TuioPoint.At (p : TuioPoint K) (b : SurfaceBlob) : Prop :=
  p.xpos = b.relX K ∧ p.ypos = b.relY K

namespace TuioPoint

theorem update_posThreshold (p : TuioPoint K) (ttime : TuioTime) (xp yp : K) :
    (p.update ttime xp yp).posThreshold = p.posThreshold := by
  unfold update
  dsimp only
  split <;> rfl

/-- Without a threshold every update moves the point. -/
theorem update_at [IsStrictOrderedRing K] {p : TuioPoint K} (h : p.posThreshold = 0)
    (ttime : TuioTime) (b : SurfaceBlob) : (p.update ttime (b.relX K) (b.relY K)).At b := by
  unfold update
  dsimp only
  split_ifs with hmoved
  · exact ⟨rfl, rfl⟩
  · rw [h] at hmoved
    rcases not_or.mp hmoved with ⟨hx, hy⟩
    exact ⟨sub_eq_zero.mp (abs_nonpos_iff.mp (not_lt.mp hx)),
      sub_eq_zero.mp (abs_nonpos_iff.mp (not_lt.mp hy))⟩

end TuioPoint

namespace TuioManager

variable {A : Arithmetic K} {m m' : TuioManager K} {blobs : List SurfaceBlob}

/-- No contact has a threshold. -/
structure Exact (m : TuioManager K) : Prop where
  cursors : ∀ c ∈ m.cursorList, c.posThreshold = 0
  objects : ∀ o ∈ m.objectList, o.posThreshold = 0

omit [LinearOrder K] in
theorem exact_new (systemTime : TuioTime) : (new systemTime : TuioManager K).Exact := by
  constructor <;> simp [new]

/-- The contacts of the entries are where the entries put them. -/
structure Placed (m : TuioManager K) (blobs : List SurfaceBlob) : Prop where
  cursors : ∀ c ∈ m.cursorList, ∀ b ∈ fingerOf c.sessionId blobs, c.At b
  objects : ∀ o ∈ m.objectList, ∀ b ∈ tagOf o.sessionId blobs, o.At b

omit [LinearOrder K] in
theorem placed_nil (m : TuioManager K) : m.Placed [] := by
  constructor <;> intro _ _ b hb <;> cases hb

theorem Exact.processBlob (h : m.Exact) (b : SurfaceBlob) : (m.processBlob A b).Exact := by
  by_cases hfinger : b.type = 0x02
  · obtain ⟨f, a, hf, ha, hlist, hobjects, -⟩ := processBlob_finger (A := A) (m := m) hfinger
    constructor
    · intro c hc
      rw [hlist] at hc
      rcases KeyedList.mem_of_mem_touch hc with hc | rfl | ⟨y, hy, -, rfl⟩
      · exact h.cursors c hc
      · rw [ha.2, TuioPoint.new]
      · rw [(hf y).2, TuioPoint.update_posThreshold]
        exact h.cursors y hy
    · rw [hobjects]
      exact h.objects
  · by_cases htag : b.type = 0x04
    · obtain ⟨f, a, hf, ha, hlist, hcursors, -⟩ := processBlob_tag (A := A) (m := m) htag
      constructor
      · rw [hcursors]
        exact h.cursors
      · intro o ho
        rw [hlist] at ho
        rcases KeyedList.mem_of_mem_touch ho with ho | rfl | ⟨y, hy, -, rfl⟩
        · exact h.objects o ho
        · rw [ha.2.1, TuioPoint.new]
        · rw [(hf y).2.1]
          split_ifs
          · exact h.objects y hy
          · rw [TuioPoint.update_posThreshold]
            exact h.objects y hy
    · rw [processBlob_other hfinger htag]
      exact h

variable [IsStrictOrderedRing K]

/-- A finger moves its cursor. -/
theorem Placed.finger (h : m'.Placed blobs) (hentered : Entered m blobs m') (hexact : m'.Exact)
    {b : SurfaceBlob} (hb : b.type = 0x02) : (m'.processBlob A b).Placed (blobs ++ [b]) := by
  obtain ⟨f, a, hf, ha, hlist, hobjects, -⟩ := processBlob_finger (A := A) (m := m') hb
  constructor
  · intro c hc b' hb'
    rw [hlist] at hc
    by_cases hid : (b.blobId.toNat : ℤ) = c.sessionId
    · rw [fingerOf_append, if_pos ⟨hb, hid⟩] at hb'
      have hb'' : b = b' := Option.some.inj hb'
      subst hb''
      rcases KeyedList.mem_touch_self hentered.cursors.nodup hc hid.symm with
        ⟨rfl, -⟩ | ⟨y, hy, -, rfl⟩
      · rw [ha.2]
        exact ⟨rfl, rfl⟩
      · rw [(hf y).2]
        exact TuioPoint.update_at (hexact.cursors y hy) _ _
    · rw [fingerOf_append, if_neg fun hb => hid hb.2] at hb'
      rcases KeyedList.mem_of_mem_touch hc with hc | rfl | ⟨y, hy, hkey, rfl⟩
      · exact h.cursors c hc b' hb'
      · exact absurd ha.1.symm hid
      · exact absurd (hkey.symm.trans (hf y).1.symm) hid
  · intro o ho b' hb'
    rw [hobjects] at ho
    rw [tagOf_append, if_neg (by simp [hb]), Option.or_none] at hb'
    exact h.objects o ho b' hb'

/-- The first tag with its blob id moves an object. -/
theorem Placed.tag (h : m'.Placed blobs) (hentered : Entered m blobs m') (hexact : m'.Exact)
    {b : SurfaceBlob} (hb : b.type = 0x04) : (m'.processBlob A b).Placed (blobs ++ [b]) := by
  obtain ⟨f, a, hf, ha, hlist, hcursors, -⟩ := processBlob_tag (A := A) (m := m') hb
  constructor
  · intro c hc b' hb'
    rw [hcursors] at hc
    rw [fingerOf_append, if_neg (by simp [hb])] at hb'
    exact h.cursors c hc b' hb'
  · intro o ho b' hb'
    rw [hlist] at ho
    by_cases hid : (b.blobId.toNat : ℤ) = o.sessionId
    · have htags : (tagOf o.sessionId blobs).isSome ↔ _ := isSome_tagOf
      rw [tagOf_append, if_pos ⟨hb, hid⟩] at hb'
      rcases KeyedList.mem_touch_self hentered.objects.nodup ho hid.symm with
        ⟨rfl, hnew⟩ | ⟨y, hy, hkey, rfl⟩
      · -- it is the first of the tags with its blob id
        cases htag : tagOf o.sessionId blobs with
        | some b₀ =>
            rw [htag, Option.isSome_some] at htags
            exact absurd (hid ▸ hentered.objects.entered _ (htags.mp rfl)) hnew
        | none =>
            rw [htag] at hb'
            have hb'' : b = b' := Option.some.inj hb'
            subst hb''
            rw [ha.2.1]
            exact ⟨rfl, rfl⟩
      · have hmarked := hentered.objects.marked_iff y hy
        rw [(hf y).1] at hb' htags
        rw [← htags, ← hentered.time] at hmarked
        rw [(hf y).2.1]
        cases htag : tagOf y.sessionId blobs with
        | some b₀ =>
            rw [htag, Option.isSome_some] at hmarked
            rw [if_pos (hmarked.mpr rfl)]
            rw [htag] at hb'
            exact h.objects y hy b' (htag ▸ hb')
        | none =>
            rw [htag, Option.isSome_none] at hmarked
            rw [if_neg fun hnow => by simpa using hmarked.mp hnow]
            rw [htag] at hb'
            have hb'' : b = b' := Option.some.inj hb'
            subst hb''
            exact TuioPoint.update_at (hexact.objects y hy) _ _
    · rw [tagOf_append, if_neg fun hb => hid hb.2, Option.or_none] at hb'
      rcases KeyedList.mem_of_mem_touch ho with ho | rfl | ⟨y, hy, hkey, rfl⟩
      · exact h.objects o ho b' hb'
      · exact absurd ha.1.symm hid
      · exact absurd (hkey.symm.trans (hf y).1.symm) hid

theorem Placed.processBlob (h : m'.Placed blobs) (hentered : Entered m blobs m')
    (hexact : m'.Exact) (b : SurfaceBlob) :
    (m'.processBlob A b).Placed (blobs ++ [b]) := by
  by_cases hfinger : b.type = 0x02
  · exact h.finger hentered hexact hfinger
  · by_cases htag : b.type = 0x04
    · exact h.tag hentered hexact htag
    · rw [processBlob_other hfinger htag]
      constructor
      · intro c hc b' hb'
        rw [fingerOf_append, if_neg fun hb => hfinger hb.1] at hb'
        exact h.cursors c hc b' hb'
      · intro o ho b' hb'
        rw [tagOf_append, if_neg fun hb => htag hb.1, Option.or_none] at hb'
        exact h.objects o ho b' hb'

/-- All entries of a frame. -/
theorem Placed.foldl (h : m'.Placed blobs) (hentered : Entered m blobs m') (hexact : m'.Exact)
    (bs : List SurfaceBlob) :
    (bs.foldl (TuioManager.processBlob A) m').Placed (blobs ++ bs) ∧
      (bs.foldl (TuioManager.processBlob A) m').Exact := by
  induction bs generalizing blobs m' with
  | nil => simpa using ⟨h, hexact⟩
  | cons b bs ih =>
      have hnext := ih (h.processBlob (A := A) hentered hexact b) (hentered.processBlob b)
        (hexact.processBlob b)
      simpa using hnext

/-- **Behind a frame the contacts are where its entries put them.** -/
theorem Steady.placed (h : m.Steady) (hexact : m.Exact) {frameTime : TuioTime}
    (hbefore : m.ContactsBefore frameTime) (blobs : List SurfaceBlob) :
    (m.processFrame A frameTime blobs).Placed blobs ∧
      (m.processFrame A frameTime blobs).Exact := by
  have hentered := h.entered (A := A) blobs hbefore
  have hstart : Entered (m.initFrame frameTime) [] (m.initFrame frameTime) := by
    simpa using h.entered (A := A) [] hbefore
  have hfoldl := (placed_nil (m.initFrame frameTime)).foldl (A := A) hstart
    ⟨hexact.cursors, hexact.objects⟩ blobs
  rw [List.nil_append] at hfoldl
  generalize hm' : blobs.foldl (TuioManager.processBlob A) (m.initFrame frameTime) = m'
    at hentered hfoldl
  obtain ⟨-, hcursors, hobjects, -⟩ := processFrame_spec blobs hm' hentered.time
  rcases hfoldl with ⟨hplaced, hexact'⟩
  refine ⟨⟨?_, ?_⟩, ⟨?_, ?_⟩⟩
  · intro c hc b hb
    rw [hcursors] at hc
    exact hplaced.cursors c (List.mem_of_mem_filter hc) b hb
  · intro o' ho' b hb
    rw [hobjects] at ho'
    rcases List.mem_map.mp ho' with ⟨o, ho, rfl⟩
    have ho := List.mem_of_mem_filter ho
    rw [stopObject_sessionId] at hb
    -- an object with an entry was touched in the frame
    have hnow : o.currentTime = frameTime := by
      apply (hentered.objects.marked_iff o ho).mpr
      rw [← isSome_tagOf, Option.mem_def.mp hb]
      rfl
    have hstop : stopObject A frameTime o = o := by simp [stopObject, objectSlips, hnow]
    rw [hstop]
    exact hplaced.objects o ho b hb
  · intro c hc
    rw [hcursors] at hc
    exact hexact'.cursors c (List.mem_of_mem_filter hc)
  · intro o' ho'
    rw [hobjects] at ho'
    rcases List.mem_map.mp ho' with ⟨o, ho, rfl⟩
    have hthreshold := hexact'.objects o (List.mem_of_mem_filter ho)
    rw [stopObject, TuioObject.stop]
    split_ifs
    · rw [TuioObject.update_toTuioPoint, TuioPoint.update_posThreshold]
      exact hthreshold
    · exact hthreshold

end TuioManager

end

end Sur40
