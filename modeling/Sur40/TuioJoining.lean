import Sur40.TuioLaunch

/-!
# Listeners that join the program while it runs

A listener that comes late has missed the packets of the start, and one that was away knows what is
no longer so. The server does not know of either: it sends what has changed. Since the panel is
read anew in each turn, and each contact with it, a frame in which something is on the table tells
a listener all there is to know.

## Main definitions

* `TuioServer.Keeps`: what the packets of several turns tell a listener that knows the contacts.
* `TuioServer.Follows.run_joins`: a turn with a contact, and what follows it.
* `TuioServer.launch_run_joins`: a listener that joins knows the table from the next contact on.
-/

namespace Sur40

open Devlib

namespace TuioManager

variable {K : Type*} [Field K] [LinearOrder K] {A : Arithmetic K} {m : TuioManager K}

/-- The frames of a run are those of its first part and those behind it. -/
theorem processedFrames_append (ts us : List (BlobRead × TuioTime)) :
    processedFrames A m (ts ++ us) =
      processedFrames A m ts ++ processedFrames A (ts.foldl (TuioManager.turn A) m) us := by
  induction ts generalizing m with
  | nil => rfl
  | cons t ts ih =>
      rw [List.cons_append, processedFrames, processedFrames, List.foldl_cons, TuioManager.turn]
      by_cases hskips : m.skips t.1
      · rw [if_pos hskips, if_pos hskips, if_pos hskips]
        exact ih
      · rw [if_neg hskips, if_neg hskips, if_neg hskips, List.cons_append, ih]

/-- The first part of a run that is in time. -/
theorem InTime.left {ts us : List (BlobRead × TuioTime)} (h : m.InTime A (ts ++ us)) :
    m.InTime A ts := by
  rcases h with ⟨hbefore, hchain⟩
  rw [processedFrames_append] at hbefore hchain
  exact ⟨fun f hf => hbefore f (List.mem_append_left _ hf), hchain.left_of_append⟩

end TuioManager

namespace TuioServer

variable {K : Type*} [Field K] [LinearOrder K] {A : Arithmetic K} {bits : K → UInt32}
  {server server' server'' : TuioServer K} {capacity : ℕ} {packets packets' : List (List UInt8)}

/-! ## The packets of a run -/

/-- What the packets on the way from one server to the other tell a listener that knows the
contacts. -/
structure Keeps (A : Arithmetic K) (bits : K → UInt32) (server server' : TuioServer K)
    (packets : List (List UInt8)) : Prop where
  senders : server'.senderList = server.senderList.map (·.take packets)
  cursors : ∀ v : TuioView, v.Shows cursorKey (server.cursorValue bits) server.cursorList →
    (v.receiveAll (said cursorAddress packets)).Shows cursorKey (server'.cursorValue bits)
      server'.cursorList
  objects : ∀ v : TuioView, v.Shows objectKey (server.objectValue A bits) server.objectList →
    (v.receiveAll (said objectAddress packets)).Shows objectKey (server'.objectValue A bits)
      server'.objectList

theorem Told.keeps (h : Told A bits server server' packets) : Keeps A bits server server' packets :=
  ⟨h.senders, fun v hv => h.cursors v (Or.inr hv), fun v hv => h.objects v (Or.inr hv)⟩

omit [Field K] [LinearOrder K] in
theorem senders_trans (h : server'.senderList = server.senderList.map (·.take packets))
    (h' : server''.senderList = server'.senderList.map (·.take packets')) :
    server''.senderList = server.senderList.map (·.take (packets ++ packets')) := by
  rw [h', h, List.map_map]
  simp only [Function.comp_def, OscSender.take_take]

theorem Keeps.refl (server : TuioServer K) : Keeps A bits server server [] := by
  refine ⟨?_, fun v hv => hv, fun v hv => hv⟩
  simp only [OscSender.take_nil, List.map_id']

/-- The packets of one part of a run and those of the next one. -/
theorem Keeps.trans (h : Keeps A bits server server' packets)
    (h' : Keeps A bits server' server'' packets') :
    Keeps A bits server server'' (packets ++ packets') := by
  refine ⟨senders_trans h.senders h'.senders, fun v hv => ?_, fun v hv => ?_⟩
  · rw [said_append, TuioView.receiveAll_append]
    exact h'.cursors _ (h.cursors v hv)
  · rw [said_append, TuioView.receiveAll_append]
    exact h'.objects _ (h.objects v hv)

variable [IsStrictOrderedRing K]

/-- A turn, also if its frame is skipped: then there is no contact. -/
theorem Follows.turn_told (h : server.Follows A bits capacity) {t : BlobRead × TuioTime}
    {ts : List (BlobRead × TuioTime)} (hin : server.toTuioManager.InTime A (t :: ts))
    (hturn : server.turn A bits t = .ok server') :
    ∃ packets, Told A bits server server' packets := by
  rw [TuioServer.turn] at hturn
  by_cases hskips : server.skips t.1
  · rw [if_pos hskips] at hturn
    have hserver' := Except.ok.inj hturn
    subst hserver'
    rcases TuioManager.skips_spec hskips with ⟨-, hcursors, hobjects⟩
    have hkeeps : Keeps A bits server server [] := .refl server
    refine ⟨[], hkeeps.senders, fun v hv => ?_, fun v hv => ?_⟩
    · exact hkeeps.cursors v (hv.resolve_left fun hne => hne hcursors)
    · exact hkeeps.objects v (hv.resolve_left fun hne => hne hobjects)
  · rw [if_neg hskips] at hturn
    exact (h.processFrame_told (hin.of_processFrame h.steady hskips).1 hturn).1

/-- The packets of a run keep a listener up to date. By induction on the turns. -/
theorem Follows.run_keeps (h : server.Follows A bits capacity) {ts : List (BlobRead × TuioTime)}
    (hin : server.toTuioManager.InTime A ts) (hrun : server.run A bits ts = .ok server') :
    ∃ packets, Keeps A bits server server' packets := by
  induction ts generalizing server with
  | nil =>
      have hserver' := Except.ok.inj hrun
      subst hserver'
      exact ⟨[], .refl server⟩
  | cons t ts ih =>
      rw [run, Throwing.runAll] at hrun
      cases hturn : server.turn A bits t with
      | error e =>
          rw [hturn] at hrun
          cases hrun
      | ok next =>
          rw [hturn] at hrun
          rcases h.turn_told hin hturn with ⟨packets, htold⟩
          rcases h.turn hin hturn with ⟨hnext, -, -, hlater⟩
          rcases ih hnext hlater hrun with ⟨packets', hkeeps⟩
          exact ⟨packets ++ packets', htold.keeps.trans hkeeps⟩

/-- A turn with a contact, and what follows it. -/
theorem Follows.run_joins (h : server.Follows A bits capacity) {u : BlobRead × TuioTime}
    {us : List (BlobRead × TuioTime)} (hin : server.toTuioManager.InTime A (u :: us))
    (hrun : server.run A bits (u :: us) = .ok server') :
    ∃ packets, server'.senderList = server.senderList.map (·.take packets) ∧ ∀ v : TuioView,
      ((server.toTuioManager.turn A u).cursorList ≠ [] →
        (v.receiveAll (said cursorAddress packets)).Shows cursorKey (server'.cursorValue bits)
          server'.cursorList) ∧
      ((server.toTuioManager.turn A u).objectList ≠ [] →
        (v.receiveAll (said objectAddress packets)).Shows objectKey (server'.objectValue A bits)
          server'.objectList) := by
  rw [run, Throwing.runAll] at hrun
  cases hturn : server.turn A bits u with
  | error e =>
      rw [hturn] at hrun
      cases hrun
  | ok next =>
      rw [hturn] at hrun
      rcases h.turn_told hin hturn with ⟨packets, htold⟩
      rcases h.turn hin hturn with ⟨hnext, hmanager, -, hlater⟩
      rcases hnext.run_keeps hlater hrun with ⟨packets', hkeeps⟩
      refine ⟨packets ++ packets', senders_trans htold.senders hkeeps.senders, fun v => ?_⟩
      rw [said_append, said_append, TuioView.receiveAll_append, TuioView.receiveAll_append,
        ← hmanager]
      constructor
      · intro hne
        exact hkeeps.cursors _ (htold.cursors v (Or.inl hne))
      · intro hne
        exact hkeeps.objects _ (htold.objects v (Or.inl hne))

omit [Field K] [LinearOrder K] [IsStrictOrderedRing K] in
/-- A finger in the frame is a cursor on the list, and a tag an object. -/
theorem contacts_of_tracks {m : TuioManager K} {blobs : List SurfaceBlob} (h : m.Tracks blobs) :
    (blobIdsOfType 0x02 blobs ≠ [] → m.cursorList ≠ []) ∧
      (blobIdsOfType 0x04 blobs ≠ [] → m.objectList ≠ []) := by
  constructor
  · intro hne hnil
    rcases List.exists_mem_of_ne_nil _ hne with ⟨id, hid⟩
    have hmem := (h.cursors_iff id).mpr hid
    rw [TuioManager.cursorIds, hnil] at hmem
    cases hmem
  · intro hne hnil
    rcases List.exists_mem_of_ne_nil _ hne with ⟨id, hid⟩
    have hmem := h.objects id hid
    rw [TuioManager.objectIds, hnil] at hmem
    cases hmem

/-! ## The program -/

omit [IsStrictOrderedRing K] in
theorem run_append_iff {ts us : List (BlobRead × TuioTime)} :
    server.run A bits (ts ++ us) = .ok server' ↔
      ∃ joined : TuioServer K, server.run A bits ts = .ok joined ∧
        joined.run A bits us = .ok server' := by
  rw [run, Throwing.runAll_append]
  change (server.run A bits ts).bind _ = _ ↔ _
  cases server.run A bits ts with
  | error e => simp [Except.bind]
  | ok joined => simp [Except.bind, run]

variable (A bits) (start : TuioTime) (oscBuffer fullBuffer : Memory)

/-- **A listener may come late**: whatever it knows, and whatever packets it has missed, from a turn
on in which there is a finger on the table it knows exactly the fingers and where they are, behind
this turn and every later one. With the tags it is the same. -/
theorem launch_run_joins (host : Option CString) (sourceAddr : CString)
    {joined : TuioServer K} {ts us : List (BlobRead × TuioTime)} {u : BlobRead × TuioTime}
    (htimes : (processedFrames A (.new start) (ts ++ u :: us)).IsChain TuioFrame.Before)
    (hlaunch : launch start oscBuffer fullBuffer host sourceAddr = .ok server)
    (hrun : server.run A bits ts = .ok joined)
    (hrun' : joined.run A bits (u :: us) = .ok server') :
    ∃ packets, server'.senderList = joined.senderList.map (·.take packets) ∧ ∀ v : TuioView,
      (blobIdsOfType 0x02 u.1.entries ≠ [] →
        FingersOn bits (v.receiveAll (said cursorAddress packets))
          ((u :: us).getLast (List.cons_ne_nil u us)).1.entries) ∧
      (blobIdsOfType 0x04 u.1.entries ≠ [] →
        TagsOn bits (v.receiveAll (said objectAddress packets))
          ((u :: us).getLast (List.cons_ne_nil u us)).1.entries) := by
  have hturned := TuioManager.turned_new (K := K) start
  have hin := TuioManager.inTime_new (A := A) htimes
  rcases launch_run A bits start oscBuffer fullBuffer hin.left.chain hlaunch hrun with
    ⟨hfollows, hmanager, -⟩
  rcases hturned.foldl hin with ⟨hturned', hin'⟩
  rw [← hmanager] at hturned' hin'
  rcases hfollows.run_joins hin' hrun' with ⟨packets, hsenders, hshows⟩
  have hcontacts := contacts_of_tracks (hturned'.turn hin').2.1
  -- the program as a whole, which ends with the last turn
  have hlast := List.dropLast_append_getLast (List.cons_ne_nil u us)
  generalize (u :: us).getLast (List.cons_ne_nil u us) = t at hlast ⊢
  have hwhole := run_append_iff.mpr ⟨joined, hrun, hrun'⟩
  rcases launch_run A bits start oscBuffer fullBuffer htimes hlaunch hwhole with
    ⟨-, hmanager', sourceName, -, hsettings⟩
  rw [← hlast, ← List.append_assoc] at hin hmanager'
  rcases hturned.foldl hin with ⟨hturned'', hin''⟩
  rcases hturned''.turn hin'' with ⟨-, htracks, hplaced, -⟩
  rw [List.foldl_append, List.foldl_cons, List.foldl_nil] at hmanager'
  rw [← hmanager'] at htracks hplaced
  rw [settings, Prod.mk.injEq, Prod.mk.injEq] at hsettings
  rcases hsettings with ⟨-, hflags, -⟩
  simp only [List.cons.injEq] at hflags
  refine ⟨packets, hsenders, fun v => ⟨fun hfinger => ?_, fun htag => ?_⟩⟩
  · exact fingersOn_of_shows ((hshows v).1 (hcontacts.1 hfinger)) htracks hplaced hflags.1
      hflags.2.1
  · exact tagsOn_of_shows ((hshows v).2 (hcontacts.2 htag)) htracks hplaced hflags.1 hflags.2.1

/-- A listener that joins when the tag has been lifted, and stays until the finger is gone. -/
theorem launch_run_joins_movingTag :
    ∃ (server joined server' : TuioServer ℝ) (packets : List (List UInt8)),
      launch (.ofMsec 0) (fun _ => 0) (fun _ => 0) none (.ofString "127.0.0.1") = .ok server ∧
      server.run (.real fun _ => 0) (fun _ => 0) movingTag = .ok joined ∧
      joined.run (.real fun _ => 0) (fun _ => 0)
        [(fingerAndTag 700, .ofMsec 5), (fingerAlone, .ofMsec 6),
          (.of [tagAt 900] (by decide), .ofMsec 7)] = .ok server' ∧
      server'.senderList = joined.senderList.map (·.take packets) ∧ ∀ v : TuioView,
        FingersOn (K := ℝ) (fun _ => 0) (v.receiveAll (said cursorAddress packets))
          (BlobRead.of [tagAt 900] (by decide)).entries ∧
        TagsOn (K := ℝ) (fun _ => 0) (v.receiveAll (said objectAddress packets))
          (BlobRead.of [tagAt 900] (by decide)).entries := by
  have htimes : (processedFrames (.real fun _ => 0) (.new (.ofMsec 0)) (movingTag ++
      [(fingerAndTag 700, .ofMsec 5), (fingerAlone, .ofMsec 6),
        (.of [tagAt 900] (by decide), .ofMsec 7)])).IsChain TuioFrame.Before :=
    processedFrames_isChain _ (by decide)
  have hlocal : isLocal none = true := rfl
  have hname : (CString.ofString "127.0.0.1").strlen ≤ 15 := by decide
  rcases launch_run_ok (.real fun _ => 0) (fun _ => 0) (.ofMsec 0) (fun _ => 0) (fun _ => 0)
    hlocal hname htimes with ⟨server, server', hlaunch, hwhole⟩
  rcases run_append_iff.mp hwhole with ⟨joined, hrun, hrun'⟩
  rcases launch_run_joins (.real fun _ => 0) (fun _ => 0) (.ofMsec 0) (fun _ => 0) (fun _ => 0)
    none _ htimes hlaunch hrun hrun' with ⟨packets, hsenders, hjoins⟩
  refine ⟨server, joined, server', packets, hlaunch, hrun, hrun', hsenders, fun v => ?_⟩
  exact ⟨(hjoins v).1 (by decide), (hjoins v).2 (by decide)⟩

end TuioServer

end Sur40
