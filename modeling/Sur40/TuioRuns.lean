import Sur40.TuioView

/-!
# From the table to the listener

A frame that sets no flag has left the lists of the manager alone, so that they are empty: every
contact is touched, stopped or removed in a frame. A listener knows therefore behind every frame
what the server does, and the server knows the contacts on the table.

## Main definitions

* `TuioManager.Quiet`: the flags report every change of the lists.
* `TuioServer.Follows`: the listeners of all transports know the contacts.
* `TuioServer.run_follows`: they do behind every turn of the loop.
-/

namespace Sur40

open Devlib

namespace TuioManager
variable {K : Type*} {m m' m'' : TuioManager K}

/-! ## The flags -/

/-- Where the flags are not set, the lists have not changed. -/
structure Quiet (m m' : TuioManager K) : Prop where
  cursors : m'.updateCursor = false → m.updateCursor = false ∧ m'.cursorList = m.cursorList
  objects : m'.updateObject = false → m.updateObject = false ∧ m'.objectList = m.objectList

theorem Quiet.refl (m : TuioManager K) : m.Quiet m := ⟨fun h => ⟨h, rfl⟩, fun h => ⟨h, rfl⟩⟩

theorem Quiet.trans (h : m.Quiet m') (h' : m'.Quiet m'') : m.Quiet m'' := by
  constructor
  · intro hflag
    rcases h'.cursors hflag with ⟨hflag', hlist'⟩
    rcases h.cursors hflag' with ⟨hflag'', hlist⟩
    exact ⟨hflag'', hlist'.trans hlist⟩
  · intro hflag
    rcases h'.objects hflag with ⟨hflag', hlist'⟩
    rcases h.objects hflag' with ⟨hflag'', hlist⟩
    exact ⟨hflag'', hlist'.trans hlist⟩

/-- An operation on the cursors. -/
theorem quiet_cursors (h : m'.updateCursor = true) (hflag : m'.updateObject = m.updateObject)
    (hlist : m'.objectList = m.objectList) : m.Quiet m' := by
  constructor
  · intro hquiet
    rw [h] at hquiet
    cases hquiet
  · intro hquiet
    exact ⟨hflag.symm.trans hquiet, hlist⟩

/-- An operation on the objects. -/
theorem quiet_objects (h : m'.updateObject = true) (hflag : m'.updateCursor = m.updateCursor)
    (hlist : m'.cursorList = m.cursorList) : m.Quiet m' := by
  constructor
  · intro hquiet
    exact ⟨hflag.symm.trans hquiet, hlist⟩
  · intro hquiet
    rw [h] at hquiet
    cases hquiet

theorem quiet_sweep {α : Type*} {list : TuioManager K → List α} {left : TuioManager K → α → Bool}
    {remove : ℕ → TuioManager K → TuioManager K} (h : ∀ i (m : TuioManager K), m.Quiet (remove i m))
    (n : ℕ) (m : TuioManager K) : m.Quiet (KeyedList.sweep list left remove n m) := by
  induction n generalizing m with
  | zero => exact .refl m
  | succ n ih =>
      rw [KeyedList.sweep]
      split
      · exact .refl m
      · exact (h _ m).trans (ih _)

theorem quiet_removeTuioCursor (tcur : ℕ) (m : TuioManager K) :
    m.Quiet (m.removeTuioCursor tcur) := by
  rw [removeTuioCursor]
  split
  · exact .refl m
  · dsimp only
    split_ifs <;> exact quiet_cursors rfl rfl rfl

theorem quiet_removeTuioObject (tobj : ℕ) (m : TuioManager K) :
    m.Quiet (m.removeTuioObject tobj) := by
  rw [removeTuioObject]
  split
  · exact .refl m
  · exact quiet_objects rfl rfl rfl

theorem quiet_removeUntouchedStoppedCursors (m : TuioManager K) :
    m.Quiet m.removeUntouchedStoppedCursors := quiet_sweep quiet_removeTuioCursor _ m

theorem quiet_removeUntouchedStoppedObjects (m : TuioManager K) :
    m.Quiet m.removeUntouchedStoppedObjects := quiet_sweep quiet_removeTuioObject _ m

variable [Field K] [LinearOrder K] (A : Arithmetic K)

theorem quiet_stopUntouchedMovingCursors (m : TuioManager K) :
    m.Quiet (m.stopUntouchedMovingCursors A) := by
  refine ⟨?_, fun h => ⟨h, rfl⟩⟩
  intro h
  simp only [stopUntouchedMovingCursors, Bool.or_eq_false_iff, List.any_eq_false] at h
  refine ⟨h.1, ?_⟩
  simp only [stopUntouchedMovingCursors]
  apply (List.map_congr_left ?_).trans m.cursorList.map_id
  intro c hc
  rw [stopCursor, if_neg (h.2 c hc)]
  rfl

theorem quiet_stopUntouchedMovingObjects (m : TuioManager K) :
    m.Quiet (m.stopUntouchedMovingObjects A) := by
  refine ⟨fun h => ⟨h, rfl⟩, ?_⟩
  intro h
  simp only [stopUntouchedMovingObjects, Bool.or_eq_false_iff, List.any_eq_false] at h
  refine ⟨h.1, ?_⟩
  simp only [stopUntouchedMovingObjects]
  apply (List.map_congr_left ?_).trans m.objectList.map_id
  intro o ho
  rw [stopObject, if_neg (h.2 o ho)]
  rfl

theorem quiet_processBlob (m : TuioManager K) (b : SurfaceBlob) : m.Quiet (m.processBlob A b) := by
  rw [processBlob]
  by_cases hfinger : b.type = 0x02
  · rw [if_pos hfinger]
    split
    · rw [addTuioCursor]
      dsimp only
      split_ifs
      · split <;> exact quiet_cursors rfl rfl rfl
      · exact quiet_cursors rfl rfl rfl
    · exact quiet_cursors rfl rfl rfl
  · rw [if_neg hfinger]
    by_cases htag : b.type = 0x04
    · rw [if_pos htag]
      split
      · exact quiet_objects rfl rfl rfl
      · rw [updateTuioObject]
        split
        · exact .refl m
        · split_ifs
          · exact .refl m
          · exact quiet_objects rfl rfl rfl
    · rw [if_neg htag]
      exact .refl m

theorem quiet_touchFrame (m : TuioManager K) (frameTime : TuioTime) (blobs : List SurfaceBlob) :
    m.Quiet (m.touchFrame A frameTime blobs) := by
  have hentries : ∀ m : TuioManager K, m.Quiet (blobs.foldl (processBlob A) m) := by
    induction blobs with
    | nil => exact fun m => .refl m
    | cons b bs ih => exact fun m => (quiet_processBlob A m b).trans (ih _)
  have hinit : m.Quiet (m.initFrame frameTime) := ⟨fun h => ⟨h, rfl⟩, fun h => ⟨h, rfl⟩⟩
  refine (hinit.trans (hentries _)).trans ?_
  refine ((quiet_stopUntouchedMovingCursors A _).trans
    (quiet_removeUntouchedStoppedCursors _)).trans ?_
  exact (quiet_stopUntouchedMovingObjects A _).trans (quiet_removeUntouchedStoppedObjects _)

variable {A} [IsStrictOrderedRing K] {frameTime : TuioTime} (blobs : List SurfaceBlob)

/-- A frame that reports no cursors had none and has none. -/
theorem Steady.cursors_of_quiet (h : m.Steady) (hbefore : m.ContactsBefore frameTime)
    (hflag : (m.touchFrame A frameTime blobs).updateCursor = false) :
    m.cursorList = [] ∧ (m.touchFrame A frameTime blobs).cursorList = [] := by
  have hlist := ((quiet_touchFrame A m frameTime blobs).cursors hflag).2
  rcases h.processFrame (A := A) blobs hbefore with ⟨hsteady, htime, -, -⟩
  have hnil : m.cursorList = [] := by
    apply List.eq_nil_iff_forall_not_mem.mpr
    intro c hc
    have hnow := hsteady.cursors_time c (by rw [processFrame_eq, commitFrame, hlist]; exact hc)
    rw [htime] at hnow
    exact (h.cursor_before hbefore hc).ne hnow
  exact ⟨hnil, hlist.trans hnil⟩

/-- A frame that reports no objects had none and has none. -/
theorem Steady.objects_of_quiet (h : m.Steady) (hbefore : m.ContactsBefore frameTime)
    (hflag : (m.touchFrame A frameTime blobs).updateObject = false) :
    m.objectList = [] ∧ (m.touchFrame A frameTime blobs).objectList = [] := by
  have hlist := ((quiet_touchFrame A m frameTime blobs).objects hflag).2
  rcases h.processFrame (A := A) blobs hbefore with ⟨hsteady, htime, -, -⟩
  have hnil : m.objectList = [] := by
    apply List.eq_nil_iff_forall_not_mem.mpr
    intro o ho
    have hnow := hsteady.objects_time o (by rw [processFrame_eq, commitFrame, hlist]; exact ho)
    rw [htime] at hnow
    exact (h.object_before hbefore ho).ne hnow
  exact ⟨hnil, hlist.trans hnil⟩

/-! ## Frame times -/

variable (A) in
/-- The frames of a run are at least a millisecond apart, and from the contacts in front of it. -/
structure InTime (m : TuioManager K) (ts : List (BlobRead × TuioTime)) : Prop where
  before : ∀ f ∈ processedFrames A m ts, m.ContactsBefore f.time
  chain : (processedFrames A m ts).IsChain TuioFrame.Before

omit [IsStrictOrderedRing K] in
theorem inTime_new {systemTime : TuioTime} {ts : List (BlobRead × TuioTime)}
    (h : (processedFrames A (.new systemTime) ts).IsChain TuioFrame.Before) :
    (new systemTime : TuioManager K).InTime A ts := by
  refine ⟨?_, h⟩
  intro f _ hne
  simp [new] at hne

variable {t : BlobRead × TuioTime} {ts : List (BlobRead × TuioTime)}

omit [IsStrictOrderedRing K] in
theorem InTime.of_skips (h : m.InTime A (t :: ts)) (hskips : m.skips t.1) : m.InTime A ts := by
  rcases h with ⟨hbefore, hchain⟩
  rw [processedFrames, if_pos hskips] at hbefore hchain
  exact ⟨hbefore, hchain⟩

theorem InTime.of_processFrame (h : m.InTime A (t :: ts)) (hm : m.Steady)
    (hskips : ¬m.skips t.1) :
    m.ContactsBefore t.2 ∧ (m.processFrame A t.2 t.1.entries).InTime A ts := by
  rcases h with ⟨hbefore, hchain⟩
  rw [processedFrames, if_neg hskips] at hbefore hchain
  have hfirst := hbefore _ List.mem_cons_self
  have htime := (hm.processFrame (A := A) t.1.entries hfirst).2.1
  have hpairwise := List.isChain_iff_pairwise.mp hchain
  rw [List.pairwise_cons] at hpairwise
  refine ⟨hfirst, ?_, List.isChain_iff_pairwise.mpr hpairwise.2⟩
  intro f hf _
  rw [htime]
  exact hpairwise.1 f hf

/-! ## The session ids -/

/-- Session ids are blob ids. -/
def BlobIds (m : TuioManager K) : Prop :=
  (∀ id ∈ m.cursorIds, 0 ≤ id ∧ id < 65536) ∧ ∀ id ∈ m.objectIds, 0 ≤ id ∧ id < 65536

theorem blobIdsOfType_range {type : UInt8} {blobs : List SurfaceBlob} {id : ℤ}
    (h : id ∈ blobIdsOfType type blobs) : 0 ≤ id ∧ id < 65536 := by
  rcases List.mem_map.mp h with ⟨b, -, rfl⟩
  have hlt := b.blobId.toNat_lt
  omega

theorem BlobIds.processFrame (hids : m.BlobIds) (h : m.Steady)
    (hbefore : m.ContactsBefore frameTime) : (m.processFrame A frameTime blobs).BlobIds := by
  rcases h.processFrame (A := A) blobs hbefore with ⟨-, -, htracks, hrests⟩
  constructor
  · intro id hid
    exact blobIdsOfType_range ((htracks.cursors_iff id).mp hid)
  · intro id hid
    by_cases hblob : id ∈ blobIdsOfType 0x04 blobs
    · exact blobIdsOfType_range hblob
    · rcases List.mem_map.mp hid with ⟨o', ho', rfl⟩
      rcases hrests o' ho' hblob with ⟨o, ho, hsame, -⟩
      rw [← hsame]
      exact hids.2 _ (List.mem_map_of_mem ho)

end TuioManager

theorem nodup_ofInt {ids : List ℤ} (hnodup : ids.Nodup) (h : ∀ id ∈ ids, 0 ≤ id ∧ id < 65536) :
    (ids.map UInt32.ofInt).Nodup := by
  apply List.Nodup.map_on _ hnodup
  intro x hx y hy hxy
  have hx' := h x hx
  have hy' := h y hy
  have hnat := congrArg UInt32.toNat hxy
  simp only [UInt32.ofInt, UInt32.toNat_ofNat'] at hnat
  omega

/-! ## What a frame tells the listeners -/

/-- The listener knows these contacts and no others. -/
def TuioView.Shows {α : Type*} (v : TuioView) (key : α → UInt32)
    (value : α → List (Option Argument)) (contacts : List α) : Prop :=
  v.alive = contacts.map key ∧ Replica.Shows key value v.contacts contacts

/-- What a listener behind a transport knows of a profile. -/
def OscSender.view (sender : OscSender) (address : CString) : TuioView :=
  TuioView.empty.receiveAll (said address sender.sent)

theorem OscSender.view_take (sender : OscSender) (address : CString) (ps : List (List UInt8)) :
    (sender.take ps).view address = (sender.view address).receiveAll (said address ps) := by
  rw [view, take, said_append, TuioView.receiveAll_append, view]

namespace TuioServer

open TuioBundle (key)

variable {K : Type*} {server server' : TuioServer K} {capacity : ℕ} {α : Type*}
  {part : TuioPart α} {id : α → ℤ}

/-- What the server goes through is all of a profile, if all its contacts are of this frame. -/
theorem due_spec (htimes : ∀ c ∈ part.contacts, part.currentTime c = server.currentFrameTime)
    (hquiet : part.update = false → part.contacts = []) :
    (server.due part = none → part.update = false) ∧
      ∀ d ∈ server.due part, d.2.filter d.1 = part.contacts ∧ ∀ c ∈ d.2, c ∈ part.contacts := by
  rw [due]
  cases hupdate : part.update with
  | true =>
      refine ⟨by simp, ?_⟩
      intro d hd
      have hd' : _ = d := Option.some.inj hd
      subst hd'
      refine ⟨?_, fun c hc => hc⟩
      apply List.filter_eq_self.mpr
      intro c hc
      simp [htimes c hc]
  | false =>
      have hnil := hquiet hupdate
      refine ⟨fun _ => rfl, ?_⟩
      intro d hd
      simp only [Bool.false_eq_true, if_false, hnil, ite_self] at hd
      split at hd
      · have hd' : _ = d := Option.some.inj hd
        subst hd'
        exact ⟨hnil.symm, fun c hc => by cases hc⟩
      · cases hd

/-- The packets of a profile fit if there is room for a message behind the ids of the contacts. -/
theorem partFits_iff (hsized : part.Sized) (haddress : part.address.strlen = 11)
    (hids : part.ids.length = part.contacts.length)
    (hroom : 76 + TuioBundle.sourceSize part.sourceName ≤ capacity)
    (htimes : ∀ c ∈ part.contacts, part.currentTime c = server.currentFrameTime)
    (hquiet : part.update = false → part.contacts = []) :
    server.PartFits part capacity ↔
      (part.contacts ≠ [] → part.headSize + part.messageSize ≤ capacity) := by
  have hspec := due_spec htimes hquiet
  constructor
  · intro hfits hne
    cases hdue : server.due part with
    | none => exact absurd (hquiet (hspec.1 hdue)) hne
    | some d =>
        apply (hfits d hdue).2
        by_contra hany
        rw [List.any_eq_true] at hany
        apply hne
        rw [← (hspec.2 d hdue).1, List.filter_eq_nil_iff]
        exact fun c hc hchosen => hany ⟨c, hc, hchosen⟩
  · intro hle d hd
    have hfilter := (hspec.2 d hd).1
    have hset : d.2.any d.1 = true → part.headSize + part.messageSize ≤ capacity := by
      intro hany
      rcases List.any_eq_true.mp hany with ⟨c, hc, hchosen⟩
      apply hle
      rw [← hfilter]
      exact List.ne_nil_of_mem (List.mem_filter.mpr ⟨hc, hchosen⟩)
    refine ⟨?_, hset⟩
    by_cases hnil : part.contacts = []
    · rw [TuioBundle.headSize_eq haddress, TuioBundle.fseqSize_eq haddress, hids, hnil,
        List.length_nil, show roundUp4 (0 + 3) = 4 from rfl]
      omega
    · have hlt := hsized.fseqSize_lt
      have hle' := hle hnil
      omega

/-- A listener behind the packets of a profile. -/
theorem shows_partPackets (hsmall : capacity ≤ oscMaxCapacity) (hsized : part.Sized)
    (hkeyed : part.Keyed id) (hfits : server.PartFits part capacity)
    (hids : part.ids = part.contacts.map id) (hnodup : (part.contacts.map (key id)).Nodup)
    (htimes : ∀ c ∈ part.contacts, part.currentTime c = server.currentFrameTime) {v : TuioView}
    (hquiet : part.update = false → part.contacts = [] ∧ v.Shows (key id) part.value []) :
    (v.receiveAll (said part.address (server.partPackets part capacity))).Shows (key id)
      part.value part.contacts := by
  have hspec := due_spec htimes fun h => (hquiet h).1
  have hkeys : part.ids.map UInt32.ofInt = part.contacts.map (key id) := by
    rw [hids, List.map_map]
    rfl
  rw [partPackets]
  cases hdue : server.due part with
  | none =>
      rcases hquiet (hspec.1 hdue) with ⟨hnil, hshows⟩
      rw [hnil]
      exact hshows
  | some d =>
      rcases hspec.2 d hdue with ⟨hfilter, hmem⟩
      have hreceive := TuioBundle.receiveAll_packets hsmall hsized hkeyed
        (hfits d hdue) (fun c hc => hkeys ▸ List.mem_map_of_mem (hmem c hc)) v
      rw [hfilter, hkeys] at hreceive
      simp only [hreceive]
      exact ⟨rfl, Replica.shows_round hnodup v.contacts⟩

/-- Another profile is not concerned. -/
theorem said_partPackets_other (hsmall : capacity ≤ oscMaxCapacity) (hsized : part.Sized)
    (hkeyed : part.Keyed id) (hfits : server.PartFits part capacity) {address : CString}
    (hother : part.address ≠ address) :
    said address (server.partPackets part capacity) = [] := by
  rw [partPackets]
  cases hdue : server.due part with
  | none => rfl
  | some d =>
      apply TuioBundle.said_elements_other hkeyed _ hother
      intro cs hcs
      exact TuioBundle.length_encode_le hsmall ((hfits d hdue).length_le hsized cs hcs)

/-! ## What the listeners know -/

section

variable [Field K] [LinearOrder K] (A : Arithmetic K) (bits : K → UInt32)

def cursorKey (tcur : TuioCursor K) : UInt32 := UInt32.ofInt tcur.sessionId

def objectKey (tobj : TuioObject K) : UInt32 := UInt32.ofInt tobj.sessionId

/-- What the server says of a cursor. -/
def cursorValue (server : TuioServer K) (tcur : TuioCursor K) : List (Option Argument) :=
  (server.cursorArguments bits tcur).tail.map some

/-- What the server says of an object. -/
def objectValue (server : TuioServer K) (tobj : TuioObject K) : List (Option Argument) :=
  (server.objectArguments A bits tobj).tail.map some

/-- The packets have room for the ids of all contacts, and for a message. -/
def Room (m : TuioManager K) (sourceName : CString) (capacity : ℕ) : Prop :=
  (m.cursorList ≠ [] → 128 + TuioBundle.sourceSize sourceName +
    roundUp4 (m.cursorList.length + 3) + 4 * m.cursorList.length ≤ capacity) ∧
  (m.objectList ≠ [] → 148 + TuioBundle.sourceSize sourceName +
    roundUp4 (m.objectList.length + 3) + 4 * m.objectList.length ≤ capacity)

/-- The listeners of all transports know the contacts of the server. -/
structure Follows (server : TuioServer K) (capacity : ℕ) : Prop where
  ready : server.Ready capacity
  steady : server.toTuioManager.Steady
  blobIds : server.toTuioManager.BlobIds
  cursors : ∀ sender ∈ server.senderList,
    (sender.view cursorAddress).Shows cursorKey (server.cursorValue bits) server.cursorList
  objects : ∀ sender ∈ server.senderList,
    (sender.view objectAddress).Shows objectKey (server.objectValue A bits) server.objectList

omit [LinearOrder K] in
theorem cursorPart_keyed (server : TuioServer K) :
    (server.cursorPart bits).Keyed fun tcur => tcur.sessionId := by
  refine ⟨?_, fun _ => rfl, ?_⟩
  · exact show cursorAddress.chars.head? ≠ some '#'.toUInt8 by decide
  · intro tcur a ha
    simp only [cursorPart, cursorBundle, cursorArguments, position, velocity, List.tail_cons,
      List.mem_cons, List.not_mem_nil, or_false] at ha
    rcases ha with rfl | rfl | rfl | rfl | rfl <;> exact fun _ => rfl

theorem objectPart_keyed (server : TuioServer K) :
    (server.objectPart A bits).Keyed fun tobj => tobj.sessionId := by
  refine ⟨?_, fun _ => rfl, ?_⟩
  · exact show objectAddress.chars.head? ≠ some '#'.toUInt8 by decide
  · intro tobj a ha
    simp only [objectPart, objectBundle, objectArguments, position, velocity, List.tail_cons,
      List.mem_cons, List.not_mem_nil, or_false] at ha
    rcases ha with rfl | rfl | rfl | rfl | rfl | rfl | rfl | rfl | rfl
    · exact flat_int _
    all_goals exact fun _ => rfl

theorem objectAddress_ne : objectAddress ≠ cursorAddress := by decide

variable {A bits}

theorem frameFits_iff (hroom : 76 + TuioBundle.sourceSize server.sourceName ≤ capacity)
    (hsteady : server.toTuioManager.Steady)
    (hcursors : server.updateCursor = false → server.cursorList = [])
    (hobjects : server.updateObject = false → server.objectList = []) :
    server.FrameFits A bits capacity ↔ Room server.toTuioManager server.sourceName capacity := by
  have hcursorIds : (server.cursorPart bits).ids.length = server.cursorList.length :=
    List.length_map _
  have hobjectIds : (server.objectPart A bits).ids.length = server.objectList.length :=
    List.length_map _
  have hcursorFits := partFits_iff (server.cursorPart_sized bits) strlen_cursorAddress hcursorIds
    hroom hsteady.cursors_time hcursors
  have hobjectFits := partFits_iff (server.objectPart_sized A bits) strlen_objectAddress hobjectIds
    hroom hsteady.objects_time hobjects
  rw [TuioBundle.headSize_eq strlen_cursorAddress, hcursorIds,
    show (server.cursorPart bits).messageSize = 88 from rfl,
    show (server.cursorPart bits).sourceName = server.sourceName from rfl] at hcursorFits
  rw [TuioBundle.headSize_eq strlen_objectAddress, hobjectIds,
    show (server.objectPart A bits).messageSize = 108 from rfl,
    show (server.objectPart A bits).sourceName = server.sourceName from rfl] at hobjectFits
  rw [FrameFits, Room, hcursorFits, hobjectFits, and_comm]
  refine and_congr (imp_congr Iff.rfl ?_) (imp_congr Iff.rfl ?_) <;> omega

/-- A listener that is told of the cursors. -/
theorem shows_cursors (hsmall : capacity ≤ oscMaxCapacity)
    (hfits : server.FrameFits A bits capacity) (hsteady : server.toTuioManager.Steady)
    (hids : server.toTuioManager.BlobIds) {v : TuioView}
    (hquiet : server.updateCursor = false →
      server.cursorList = [] ∧ v.Shows cursorKey (server.cursorValue bits) []) :
    (v.receiveAll (said cursorAddress (server.framePackets A bits capacity))).Shows cursorKey
      (server.cursorValue bits) server.cursorList := by
  have hother := said_partPackets_other hsmall (server.objectPart_sized A bits)
    (server.objectPart_keyed A bits) hfits.1 objectAddress_ne
  have hnodup : (server.cursorList.map cursorKey).Nodup := by
    have hkeys := nodup_ofInt hsteady.cursors_nodup hids.1
    rw [TuioManager.cursorIds, List.map_map] at hkeys
    exact hkeys
  rw [framePackets, said_append, hother, List.nil_append]
  exact shows_partPackets hsmall (server.cursorPart_sized bits) (server.cursorPart_keyed bits)
    hfits.2 rfl hnodup hsteady.cursors_time hquiet

/-- A listener that is told of the objects. -/
theorem shows_objects (hsmall : capacity ≤ oscMaxCapacity)
    (hfits : server.FrameFits A bits capacity) (hsteady : server.toTuioManager.Steady)
    (hids : server.toTuioManager.BlobIds) {v : TuioView}
    (hquiet : server.updateObject = false →
      server.objectList = [] ∧ v.Shows objectKey (server.objectValue A bits) []) :
    (v.receiveAll (said objectAddress (server.framePackets A bits capacity))).Shows objectKey
      (server.objectValue A bits) server.objectList := by
  have hother := said_partPackets_other hsmall (server.cursorPart_sized bits)
    (server.cursorPart_keyed bits) hfits.2 objectAddress_ne.symm
  have hnodup : (server.objectList.map objectKey).Nodup := by
    have hkeys := nodup_ofInt hsteady.objects_nodup hids.2
    rw [TuioManager.objectIds, List.map_map] at hkeys
    exact hkeys
  rw [framePackets, said_append, hother, List.append_nil]
  exact shows_partPackets hsmall (server.objectPart_sized A bits)
    (server.objectPart_keyed A bits) hfits.1 rfl hnodup hsteady.objects_time hquiet

/-- What stays as the start of the program has set it. -/
def settings (server : TuioServer K) : CString × List Bool × ℕ :=
  (server.sourceName, [server.invertX, server.invertY, server.invertA, server.cursorProfileEnabled,
    server.objectProfileEnabled, server.blobProfileEnabled], server.senderList.length)

variable [IsStrictOrderedRing K] {frameTime : TuioTime} {blobs : List SurfaceBlob}

variable (A bits) in
/-- What the packets on the way from one server to the other tell a listener: if there are contacts
it knows them, whatever it knew before. -/
structure Told (server server' : TuioServer K) (packets : List (List UInt8)) : Prop where
  senders : server'.senderList = server.senderList.map (·.take packets)
  cursors : ∀ v : TuioView,
    server'.cursorList ≠ [] ∨ v.Shows cursorKey (server.cursorValue bits) server.cursorList →
    (v.receiveAll (said cursorAddress packets)).Shows cursorKey (server'.cursorValue bits)
      server'.cursorList
  objects : ∀ v : TuioView,
    server'.objectList ≠ [] ∨ v.Shows objectKey (server.objectValue A bits) server.objectList →
    (v.receiveAll (said objectAddress packets)).Shows objectKey (server'.objectValue A bits)
      server'.objectList

/-- The packets of a frame. -/
theorem Follows.processFrame_told (h : server.Follows A bits capacity)
    (hbefore : server.toTuioManager.ContactsBefore frameTime)
    (hframe : server.processFrame A bits frameTime blobs = .ok server') :
    (∃ packets, Told A bits server server' packets) ∧ server'.Ready capacity ∧
      server'.toTuioManager = server.toTuioManager.processFrame A frameTime blobs ∧
      server'.settings = server.settings := by
  have hsteady := (h.steady.processFrame (A := A) blobs hbefore).1
  have hids := h.blobIds.processFrame (A := A) blobs h.steady hbefore
  have hcursors := h.steady.cursors_of_quiet (A := A) blobs hbefore
  have hobjects := h.steady.objects_of_quiet (A := A) blobs hbefore
  rw [TuioManager.processFrame_eq] at hsteady hids ⊢
  rw [TuioServer.processFrame] at hframe
  -- the manager in the middle of the frame
  generalize server.toTuioManager.touchFrame A frameTime blobs = m at *
  have hready : Ready { server with toTuioManager := m } capacity :=
    ⟨h.ready.capacity_eq, h.ready.small, h.ready.accepted⟩
  have hsteady' : m.Steady := ⟨hsteady.cursors_nodup, hsteady.objects_nodup,
    hsteady.cursors_time, hsteady.objects_time, hsteady.settled⟩
  rcases hready.commitFrame_spec A bits with
    ⟨hfits, packet, hcapacity, hcommit⟩ | ⟨-, hcommit⟩
  · rw [hcommit] at hframe
    have hserver' := Except.ok.inj hframe
    subst hserver'
    refine ⟨⟨_, rfl, fun v hv => ?_, fun v hv => ?_⟩, hready.committed hcapacity, rfl, ?_⟩
    · refine shows_cursors h.ready.small hfits hsteady' hids fun hflag => ?_
      have hshows := hv.resolve_left fun hne => hne (hcursors hflag).2
      rw [(hcursors hflag).1] at hshows
      exact ⟨(hcursors hflag).2, hshows⟩
    · refine shows_objects h.ready.small hfits hsteady' hids fun hflag => ?_
      have hshows := hv.resolve_left fun hne => hne (hobjects hflag).2
      rw [(hobjects hflag).1] at hshows
      exact ⟨(hobjects hflag).2, hshows⟩
    · simp only [settings, committed, List.length_map]
  · rw [hcommit] at hframe
    cases hframe

/-- A frame that the server gets through. -/
theorem Follows.processFrame (h : server.Follows A bits capacity)
    (hbefore : server.toTuioManager.ContactsBefore frameTime)
    (hframe : server.processFrame A bits frameTime blobs = .ok server') :
    server'.Follows A bits capacity ∧
      server'.toTuioManager = server.toTuioManager.processFrame A frameTime blobs ∧
      server'.settings = server.settings := by
  rcases h.processFrame_told hbefore hframe with ⟨⟨packets, htold⟩, hready, hmanager, hsettings⟩
  refine ⟨⟨hready, ?_, ?_, fun sender hsender => ?_, fun sender hsender => ?_⟩, hmanager,
    hsettings⟩
  · rw [hmanager]
    exact (h.steady.processFrame (A := A) blobs hbefore).1
  · rw [hmanager]
    exact h.blobIds.processFrame (A := A) blobs h.steady hbefore
  · rw [htold.senders] at hsender
    rcases List.mem_map.mp hsender with ⟨s, hs, rfl⟩
    rw [OscSender.view_take]
    exact htold.cursors _ (Or.inr (h.cursors s hs))
  · rw [htold.senders] at hsender
    rcases List.mem_map.mp hsender with ⟨s, hs, rfl⟩
    rw [OscSender.view_take]
    exact htold.objects _ (Or.inr (h.objects s hs))

theorem Follows.turn (h : server.Follows A bits capacity) {t : BlobRead × TuioTime}
    {ts : List (BlobRead × TuioTime)} (hin : server.toTuioManager.InTime A (t :: ts))
    (hturn : server.turn A bits t = .ok server') :
    server'.Follows A bits capacity ∧ server'.toTuioManager = server.toTuioManager.turn A t ∧
      server'.settings = server.settings ∧ server'.toTuioManager.InTime A ts := by
  rw [TuioServer.turn] at hturn
  rw [TuioManager.turn]
  by_cases hskips : server.skips t.1
  · rw [if_pos hskips] at hturn
    have hserver' := Except.ok.inj hturn
    subst hserver'
    rw [if_pos hskips]
    exact ⟨h, rfl, rfl, hin.of_skips hskips⟩
  · rw [if_neg hskips] at hturn
    rw [if_neg hskips]
    rcases hin.of_processFrame h.steady hskips with ⟨hbefore, hlater⟩
    rcases h.processFrame hbefore hturn with ⟨hfollows, hmanager, hsettings⟩
    rw [hmanager]
    exact ⟨hfollows, rfl, hsettings, hlater⟩

/-- **What the listeners know**: behind every turn of the loop that the server gets through, a
listener at any of its transports knows the contacts on its lists with their positions and
speeds, and no other contacts. -/
theorem run_follows (h : server.Follows A bits capacity) (ts : List (BlobRead × TuioTime))
    (hin : server.toTuioManager.InTime A ts) (hrun : server.run A bits ts = .ok server') :
    server'.Follows A bits capacity ∧
      server'.toTuioManager = ts.foldl (TuioManager.turn A) server.toTuioManager ∧
      server'.settings = server.settings := by
  induction ts generalizing server with
  | nil =>
      have hserver' := Except.ok.inj hrun
      subst hserver'
      exact ⟨h, rfl, rfl⟩
  | cons t ts ih =>
      rw [run, Throwing.runAll] at hrun
      cases hturn : server.turn A bits t with
      | error e =>
          rw [hturn] at hrun
          cases hrun
      | ok next =>
          rw [hturn] at hrun
          rcases h.turn hin hturn with ⟨hnext, hmanager, hsettings, hlater⟩
          rw [List.foldl_cons, ← hmanager, ← hsettings]
          exact ih hnext hlater hrun

end

end TuioServer

end Sur40
