import Sur40.TuioPositions
import Sur40.TuioRuns

/-!
# The program from its start

The constructor of the server announces that there are no contacts, and the transports of the
program make its packets small enough for all of them. The lists of the manager stay short: a
read gives at most 256 contacts, and an object stays for two frames without it. With the packets
for a listener on the same machine the loop therefore never throws, and what a listener knows
are the contacts on the table.

## Main definitions

* `TuioServer.launch_follows`: the server in front of the loop.
* `TuioManager.Recent`: where the objects on the list come from.
* `TuioServer.launch_run_outcome`: when the loop throws.
* `TuioServer.launch_run_shows`: the listeners know the table.
* `TuioServer.launch_session`: the program from its start to its end.
-/

namespace Sur40

open Devlib

namespace TuioServer

variable {K : Type*} {server server' : TuioServer K} {capacity : ℕ}

/-! ## Bundles without contacts -/

/-- The bytes of a bundle without contacts. -/
def emptyPacket (server : TuioServer K) (address : CString) : List UInt8 :=
  ((server.emptyBundle address).element []).encode

theorem emptyBundle_size {address : CString} (h : address.strlen = 11) :
    (server.emptyBundle address).headSize + (server.emptyBundle address).fseqSize =
      76 + TuioBundle.sourceSize server.sourceName := by
  rw [TuioBundle.headSize_eq h, TuioBundle.fseqSize_eq h]
  simp only [emptyBundle, List.length_nil]
  rw [show roundUp4 (0 + 3) = 4 from rfl]
  omega

theorem emptyBundle_keyed {address : CString}
    (h : address.chars.head? ≠ some '#'.toUInt8) :
    (server.emptyBundle address).Keyed Empty.elim :=
  ⟨h, fun c => c.elim, fun c => c.elim⟩

theorem Ready.sendEmptyBundle (h : server.Ready capacity) {address : CString}
    (haddress : address.strlen = 11) :
    (76 + TuioBundle.sourceSize server.sourceName ≤ capacity ∧
        ∃ packet, packet.capacity = capacity ∧
          server.sendEmptyBundle address = .ok { server with
            oscPacket := packet
            senderList := server.senderList.map (·.take [server.emptyPacket address]) }) ∨
      (capacity < 76 + TuioBundle.sourceSize server.sourceName ∧
        server.sendEmptyBundle address = .error .outOfBufferMemory) := by
  rw [← emptyBundle_size haddress]
  rcases TuioBundle.start_send (b := server.emptyBundle address)
    (o := ⟨server.oscPacket, server.senderList⟩) h.small h.accepted h.capacity_eq rfl with
    ⟨hle, packet, hsend, hcapacity⟩ | ⟨hlt, hsend⟩
  · refine .inl ⟨hle, packet, hcapacity, ?_⟩
    rw [TuioServer.sendEmptyBundle, onPacket, hsend]
    rfl
  · refine .inr ⟨hlt, ?_⟩
    rw [TuioServer.sendEmptyBundle, onPacket, hsend]
    rfl

theorem length_emptyPacket {address : CString} (h : address.strlen = 11) :
    (server.emptyPacket address).length = 76 + TuioBundle.sourceSize server.sourceName := by
  rw [← emptyBundle_size h, emptyPacket, TuioBundle.element, TuioBundle.openElements,
    List.map_nil, List.append_nil, OscElement.encode, encodeElements_append, List.length_append,
    List.length_append, length_bundleHeader, TuioBundle.headSize, TuioBundle.fseqSize,
    Nat.add_assoc]

/-- A bundle without contacts takes all contacts of its profile away. -/
theorem shows_emptyPacket (server : TuioServer K) {address : CString}
    (hlength : address.strlen = 11)
    (hplain : address.chars.head? ≠ some '#'.toUInt8)
    (hsmall : 76 + TuioBundle.sourceSize server.sourceName ≤ oscMaxCapacity) (v : TuioView)
    {α : Type*} (key : α → UInt32) (value : α → List (Option Argument)) :
    (v.receiveAll (said address [server.emptyPacket address])).Shows key value [] := by
  have hsize : ((server.emptyBundle address).element []).encode.length ≤
      oscBundleElementSizeMax := by
    apply TuioBundle.length_encode_le hsmall
    exact Nat.le_of_eq (length_emptyPacket hlength)
  have hsaid : said address [server.emptyPacket address] =
      (server.emptyBundle address).messages Empty.elim [] :=
    TuioBundle.said_element (emptyBundle_keyed hplain) hsize
  rw [hsaid, TuioBundle.receiveAll_messages]
  refine ⟨rfl, And.intro ?_ ?_⟩
  · intro c hc
    cases hc
  · intro k _
    rfl

/-- It says nothing of the other profiles. -/
theorem said_emptyPacket_other (server : TuioServer K) {address other : CString}
    (hlength : address.strlen = 11)
    (hplain : address.chars.head? ≠ some '#'.toUInt8)
    (hsmall : 76 + TuioBundle.sourceSize server.sourceName ≤ oscMaxCapacity)
    (hother : address ≠ other) : said other [server.emptyPacket address] = [] := by
  apply TuioBundle.said_element_other (emptyBundle_keyed hplain) _ hother
  apply TuioBundle.length_encode_le hsmall
  exact Nat.le_of_eq (length_emptyPacket hlength)

/-- The addresses of the profiles. -/
def profileAddresses : List CString := [cursorAddress, objectAddress, blobAddress]

theorem profileAddresses_spec {address : CString} (h : address ∈ profileAddresses) :
    address.strlen = 11 ∧ address.chars.head? ≠ some '#'.toUInt8 := by
  rw [profileAddresses, List.mem_cons, List.mem_cons, List.mem_singleton] at h
  rcases h with rfl | rfl | rfl <;> decide

theorem said_emptyPackets_other (server : TuioServer K) {addresses : List CString}
    (haddresses : addresses ⊆ profileAddresses)
    (hsmall : 76 + TuioBundle.sourceSize server.sourceName ≤ oscMaxCapacity) {address : CString}
    (hmem : address ∉ addresses) :
    said address (addresses.map server.emptyPacket) = [] := by
  induction addresses with
  | nil => rfl
  | cons first rest ih =>
      rw [List.cons_subset] at haddresses
      rw [List.mem_cons, not_or] at hmem
      rcases profileAddresses_spec haddresses.1 with ⟨hlength, hplain⟩
      rw [List.map_cons, ← List.singleton_append, said_append, ih haddresses.2 hmem.2,
        server.said_emptyPacket_other hlength hplain hsmall (Ne.symm hmem.1), List.append_nil]

/-- Bundles without contacts for several profiles. -/
theorem shows_emptyPackets (server : TuioServer K) {addresses : List CString}
    (haddresses : addresses ⊆ profileAddresses)
    (hsmall : 76 + TuioBundle.sourceSize server.sourceName ≤ oscMaxCapacity) {address : CString}
    (hmem : address ∈ addresses) (v : TuioView) {α : Type*} (key : α → UInt32)
    (value : α → List (Option Argument)) :
    (v.receiveAll (said address (addresses.map server.emptyPacket))).Shows key value [] := by
  induction addresses generalizing v with
  | nil => cases hmem
  | cons first rest ih =>
      rw [List.cons_subset] at haddresses
      rw [List.map_cons, ← List.singleton_append, said_append, TuioView.receiveAll_append]
      by_cases hrest : address ∈ rest
      · exact ih haddresses.2 hrest _
      · have hfirst : address = first := (List.mem_cons.mp hmem).resolve_right hrest
        rcases profileAddresses_spec haddresses.1 with ⟨hlength, hplain⟩
        rw [server.said_emptyPackets_other haddresses.2 hsmall hrest, TuioView.receiveAll_nil,
          hfirst]
        exact server.shows_emptyPacket hlength hplain hsmall v key value

/-! ## The start -/

section

variable (currentFrameTime : TuioTime) (oscBuffer fullBuffer : Memory)

/-- What the constructor sends. -/
def welcome (server : TuioServer K) : List (List UInt8) :=
  profileAddresses.map server.emptyPacket

/-- The constructor announces that there are no contacts. -/
theorem init_spec (udp : OscSender) (hsmall : udp.bufferSize ≤ oscMaxCapacity) :
    let server : TuioServer K := allocate currentFrameTime oscBuffer fullBuffer udp
    (76 ≤ udp.bufferSize ∧ ∃ packet, packet.capacity = udp.bufferSize ∧
        init currentFrameTime oscBuffer fullBuffer udp = .ok { server with
          oscPacket := packet
          senderList := [udp.take server.welcome] }) ∨
      (udp.bufferSize < 76 ∧
        (init currentFrameTime oscBuffer fullBuffer udp : Except OscException (TuioServer K)) =
          .error .outOfBufferMemory) := by
  intro server
  have hready : server.Ready udp.bufferSize := by
    refine ⟨rfl, hsmall, ?_⟩
    intro sender hsender
    rw [List.mem_singleton.mp hsender]
  rcases hready.sendEmptyBundle strlen_cursorAddress with
    ⟨hle, packet₁, hcapacity₁, hsend₁⟩ | ⟨hlt, hsend₁⟩
  · have hready₁ : Ready { server with
        oscPacket := packet₁
        senderList := server.senderList.map (·.take [server.emptyPacket cursorAddress]) }
        udp.bufferSize := ⟨hcapacity₁, hsmall, OscSender.accepted_take hready.accepted _⟩
    rcases hready₁.sendEmptyBundle strlen_objectAddress with
      ⟨-, packet₂, hcapacity₂, hsend₂⟩ | ⟨hlt, -⟩
    · have hready₂ : Ready { server with
          oscPacket := packet₂
          senderList := (server.senderList.map (·.take [server.emptyPacket cursorAddress])).map
            (·.take [server.emptyPacket objectAddress]) }
          udp.bufferSize := ⟨hcapacity₂, hsmall, OscSender.accepted_take hready₁.accepted _⟩
      rcases hready₂.sendEmptyBundle strlen_blobAddress with
        ⟨-, packet₃, hcapacity₃, hsend₃⟩ | ⟨hlt, -⟩
      · refine .inl ⟨hle, packet₃, hcapacity₃, ?_⟩
        have hinit : init currentFrameTime oscBuffer fullBuffer udp =
            TuioServer.sendEmptyBundle { server with
              oscPacket := packet₂
              senderList := (server.senderList.map
                (·.take [server.emptyPacket cursorAddress])).map
                  (·.take [server.emptyPacket objectAddress]) } blobAddress := by
          rw [init, sendEmptyCursorBundle, hsend₁]
          exact congrArg (Except.bind · fun server => server.sendEmptyBlobBundle) hsend₂
        rw [hinit, hsend₃]
        simp only [List.map_map, Function.comp_def, OscSender.take_take]
        rfl
      · exact absurd hle (Nat.not_le.mpr hlt)
    · exact absurd hle (Nat.not_le.mpr hlt)
  · refine .inr ⟨hlt, ?_⟩
    rw [init, sendEmptyCursorBundle, hsend₁]
    rfl

end

theorem Ready.addOscSender (h : server.Ready capacity) (sender : OscSender) :
    (server.addOscSender sender).Ready (min capacity sender.bufferSize) := by
  have hlists : ∀ s ∈ server.senderList ++ [sender],
      min capacity sender.bufferSize ≤ s.bufferSize := by
    intro s hs
    rcases List.mem_append.mp hs with hs | hs
    · exact (Nat.min_le_left _ _).trans (h.accepted s hs)
    · rw [List.mem_singleton.mp hs]
      exact Nat.min_le_right _ _
  have hsmall := (Nat.min_le_left capacity sender.bufferSize).trans h.small
  rw [TuioServer.addOscSender]
  by_cases hlt : sender.bufferSize < server.oscPacket.capacity
  · rw [if_pos hlt]
    refine ⟨?_, hsmall, hlists⟩
    rw [h.capacity_eq] at hlt
    exact (Nat.min_eq_right hlt.le).symm
  · rw [if_neg hlt]
    refine ⟨?_, hsmall, hlists⟩
    rw [h.capacity_eq] at hlt
    rw [Nat.min_eq_left (Nat.not_lt.mp hlt)]
    exact h.capacity_eq

@[simp] theorem addOscSender_toTuioManager (sender : OscSender) :
    (server.addOscSender sender).toTuioManager = server.toTuioManager := by
  rw [addOscSender]
  split <;> rfl

@[simp] theorem addOscSender_senderList (sender : OscSender) :
    (server.addOscSender sender).senderList = server.senderList ++ [sender] := by
  rw [addOscSender]
  split <;> rfl

theorem addOscSender_invert (sender : OscSender) :
    (server.addOscSender sender).invertX = server.invertX ∧
      (server.addOscSender sender).invertY = server.invertY ∧
      (server.addOscSender sender).invertA = server.invertA := by
  rw [addOscSender]
  split <;> exact ⟨rfl, rfl, rfl⟩

theorem shows_empty {α : Type*} (key : α → UInt32) (value : α → List (Option Argument)) :
    TuioView.empty.Shows key value [] := by
  refine ⟨rfl, And.intro ?_ ?_⟩
  · intro c hc
    cases hc
  · intro k _
    rfl

section

variable [Field K] [LinearOrder K] {A : Arithmetic K} {bits : K → UInt32}

/-- A transport that is added while there are no contacts. -/
theorem Follows.addOscSender (h : server.Follows A bits capacity)
    (hcursors : server.cursorList = []) (hobjects : server.objectList = []) (sender : OscSender)
    (hsent : sender.sent = []) :
    (server.addOscSender sender).Follows A bits (min capacity sender.bufferSize) := by
  have hready := h.ready.addOscSender sender
  have hview : ∀ address, sender.view address = .empty := by
    intro address
    rw [OscSender.view, hsent]
    rfl
  have hvalues : (server.addOscSender sender).cursorValue bits = server.cursorValue bits ∧
      (server.addOscSender sender).objectValue A bits = server.objectValue A bits := by
    rw [TuioServer.addOscSender]
    split <;> exact ⟨rfl, rfl⟩
  refine ⟨hready, by simpa using h.steady, by simpa using h.blobIds, ?_, ?_⟩
  · intro s hs
    rw [addOscSender_senderList] at hs
    rw [addOscSender_toTuioManager, hvalues.1]
    rcases List.mem_append.mp hs with hs | hs
    · exact h.cursors s hs
    · rw [List.mem_singleton.mp hs, hview, hcursors]
      exact shows_empty _ _
  · intro s hs
    rw [addOscSender_senderList] at hs
    rw [addOscSender_toTuioManager, hvalues.2]
    rcases List.mem_append.mp hs with hs | hs
    · exact h.objects s hs
    · rw [List.mem_singleton.mp hs, hview, hobjects]
      exact shows_empty _ _

variable (A bits)

/-- A new server has told its transport that there are no contacts. -/
theorem follows_init (currentFrameTime : TuioTime) (oscBuffer fullBuffer : Memory) {udpSize : ℕ}
    (hlarge : 76 ≤ udpSize) (hsmall : udpSize ≤ oscMaxCapacity) {packet : OutboundPacketStream}
    (hcapacity : packet.capacity = udpSize) :
    let server : TuioServer K := allocate currentFrameTime oscBuffer fullBuffer ⟨udpSize, []⟩
    Follows A bits { server with
      oscPacket := packet, senderList := [OscSender.take ⟨udpSize, []⟩ server.welcome] }
      udpSize := by
  intro server
  have hroom : 76 + TuioBundle.sourceSize server.sourceName ≤ oscMaxCapacity :=
    hlarge.trans hsmall
  refine ⟨⟨hcapacity, hsmall, ?_⟩, TuioManager.steady_new currentFrameTime, ?_, ?_, ?_⟩
  · intro sender hsender
    rw [List.mem_singleton.mp hsender]
    exact Nat.le_refl udpSize
  · constructor <;> exact fun id hid => by cases hid
  · intro sender hsender
    rw [List.mem_singleton.mp hsender, OscSender.view_take]
    exact server.shows_emptyPackets (List.Subset.refl _) hroom (by decide) _ _ _
  · intro sender hsender
    rw [List.mem_singleton.mp hsender, OscSender.view_take]
    exact server.shows_emptyPackets (List.Subset.refl _) hroom (by decide) _ _ _

variable {A bits}

/-- The other transports of the program. -/
theorem Follows.equip (h : server.Follows A bits capacity) (hcursors : server.cursorList = [])
    (hobjects : server.objectList = []) (sourceAddr : CString) :
    (server.equip sourceAddr).Follows A bits (min capacity maxTcpSize) := by
  have htcp := h.addOscSender hcursors hobjects ⟨maxTcpSize, []⟩ rfl
  have hwebsock := htcp.addOscSender (by rw [addOscSender_toTuioManager]; exact hcursors)
    (by rw [addOscSender_toTuioManager]; exact hobjects) ⟨maxTcpSize, []⟩ rfl
  have hmin : min (min capacity maxTcpSize) maxTcpSize = min capacity maxTcpSize := by
    rw [Nat.min_assoc, Nat.min_self]
  simp only [hmin] at hwebsock
  exact ⟨⟨hwebsock.ready.capacity_eq, hwebsock.ready.small, hwebsock.ready.accepted⟩,
    hwebsock.steady, hwebsock.blobIds, hwebsock.cursors, hwebsock.objects⟩

variable (A bits)

theorem udpBufferSize_le (host : Option CString) : udpBufferSize host ≤ maxTcpSize := by
  rw [udpBufferSize, maxTcpSize]
  split <;> decide

omit [Field K] [LinearOrder K] in
theorem strlen_setSourceName (server : TuioServer K) (src sourceAddr : CString) :
    (server.setSourceName src sourceAddr).sourceName.strlen =
      src.strlen + 1 + sourceAddr.strlen := by
  simp only [setSourceName, CString.strlen, List.length_append, List.length_cons]
  omega

omit [Field K] [LinearOrder K] in
theorem equip_settings (sourceAddr : CString) :
    (server.equip sourceAddr).settings =
      ((server.setSourceName (.ofString "sur40") sourceAddr).sourceName,
        [server.invertX, server.invertY, server.invertA, true, true, false],
        server.senderList.length + 2) := by
  simp only [equip, settings, setSourceName, addOscSender_senderList, addOscSender_invert,
    List.length_append, List.length_singleton]

/-- The server in front of the loop. -/
theorem launch_follows (currentFrameTime : TuioTime) (oscBuffer fullBuffer : Memory)
    (host : Option CString) (sourceAddr : CString) :
    ∃ server : TuioServer K,
      launch currentFrameTime oscBuffer fullBuffer host sourceAddr = .ok server ∧
      server.Follows A bits (udpBufferSize host) ∧
      server.toTuioManager = .new currentFrameTime ∧
      ∃ sourceName : CString, sourceName.strlen = 6 + sourceAddr.strlen ∧
        server.settings = (sourceName, [false, false, false, true, true, false], 3) := by
  have hlarge : 76 ≤ udpBufferSize host := by
    rw [udpBufferSize]
    split <;> decide
  have hsmall : udpBufferSize host ≤ oscMaxCapacity :=
    (udpBufferSize_le host).trans (by rw [maxTcpSize, oscMaxCapacity]; norm_num)
  rcases init_spec (K := K) currentFrameTime oscBuffer fullBuffer ⟨udpBufferSize host, []⟩
    hsmall with ⟨-, packet, hcapacity, hinit⟩ | ⟨hlt, -⟩
  · have hnew := follows_init A bits currentFrameTime oscBuffer fullBuffer hlarge
      hsmall hcapacity
    have hfollows := hnew.equip rfl rfl sourceAddr
    rw [Nat.min_eq_left (udpBufferSize_le host)] at hfollows
    refine ⟨_, by rw [launch, hinit]; rfl, hfollows, ?_, _, ?_, equip_settings sourceAddr⟩
    · simp only [equip, setSourceName, addOscSender_toTuioManager]
      rfl
    · rw [strlen_setSourceName]
      rfl
  · exact absurd hlarge (Nat.not_le.mpr hlt)

end

end TuioServer

/-! ## The length of the lists -/

namespace TuioManager

variable {K : Type*} [Field K] [LinearOrder K] {A : Arithmetic K} {m : TuioManager K}

/-- An object is one of the frame, or rests since the frame before or the one before that. -/
def Recent (m : TuioManager K) (tags tags' tags'' : List ℤ) : Prop :=
  ∀ o ∈ m.objectList, o.sessionId ∈ tags ∨ (o.patience ≤ 1 ∧ o.sessionId ∈ tags') ∨
    (o.patience = 0 ∧ o.sessionId ∈ tags'')

theorem Recent.processFrame [IsStrictOrderedRing K] {tags tags' tags'' : List ℤ}
    (h : m.Recent tags tags' tags'') (hm : m.Steady) {frameTime : TuioTime}
    (hbefore : m.ContactsBefore frameTime) (blobs : List SurfaceBlob) :
    (m.processFrame A frameTime blobs).Recent (blobIdsOfType 0x04 blobs) tags tags' := by
  rcases hm.processFrame (A := A) blobs hbefore with ⟨-, -, -, hrests⟩
  intro o' ho'
  by_cases hblob : o'.sessionId ∈ blobIdsOfType 0x04 blobs
  · exact .inl hblob
  · right
    rcases hrests o' ho' hblob with ⟨o, ho, hsame, hpatience⟩
    have hle := o.patience_le
    rcases h o ho with htags | ⟨hpatience', htags⟩ | ⟨hpatience', -⟩
    · exact .inl ⟨by omega, hsame ▸ htags⟩
    · exact .inr ⟨by omega, hsame ▸ htags⟩
    · omega

theorem Recent.length_le {tags tags' tags'' : List ℤ} (h : m.Recent tags tags' tags'')
    (hm : m.objectIds.Nodup) :
    m.objectIds.length ≤ tags.length + (tags'.length + tags''.length) := by
  have hsubset : m.objectIds ⊆ tags ++ (tags' ++ tags'') := by
    intro id hid
    rcases List.mem_map.mp hid with ⟨o, ho, rfl⟩
    simp only [List.mem_append]
    rcases h o ho with htags | ⟨-, htags⟩ | ⟨-, htags⟩
    · exact .inl htags
    · exact .inr (.inl htags)
    · exact .inr (.inr htags)
  have hlength := (hm.subperm hsubset).length_le
  simpa only [List.length_append] using hlength

/-- The lists of a manager that reads at most 256 contacts at a time. -/
structure Short (m : TuioManager K) : Prop where
  cursors : m.cursorIds.length ≤ blobArraySize
  objects : ∃ tags tags' tags'' : List ℤ, m.Recent tags tags' tags'' ∧
    tags.length ≤ blobArraySize ∧ tags'.length ≤ blobArraySize ∧ tags''.length ≤ blobArraySize

theorem Short.objects_le (h : m.Short) (hm : m.objectIds.Nodup) :
    m.objectIds.length ≤ 3 * blobArraySize := by
  rcases h.objects with ⟨tags, tags', tags'', hrecent, htags, htags', htags''⟩
  have hle := hrecent.length_le hm
  omega

theorem length_blobIdsOfType_le (type : UInt8) (r : BlobRead) :
    (blobIdsOfType type r.entries).length ≤ blobArraySize := by
  have hfilter := List.length_filter_le (fun b : SurfaceBlob => decide (b.type = type)) r.entries
  have hentries : r.entries.length ≤ blobArraySize := by
    rw [BlobRead.entries, List.length_take, r.length_eq]
    exact Nat.min_le_right _ _
  rw [blobIdsOfType, List.length_map]
  exact hfilter.trans hentries

theorem Short.processFrame [IsStrictOrderedRing K] (h : m.Short) (hm : m.Steady)
    {frameTime : TuioTime} (hbefore : m.ContactsBefore frameTime) (r : BlobRead) :
    (m.processFrame A frameTime r.entries).Short := by
  rcases hm.processFrame (A := A) r.entries hbefore with ⟨-, -, htracks, -⟩
  rcases h.objects with ⟨tags, tags', tags'', hrecent, htags, htags', -⟩
  refine ⟨?_, _, _, _, hrecent.processFrame hm hbefore r.entries, length_blobIdsOfType_le _ r,
    htags, htags'⟩
  have hsubset := htracks.cursors_nodup.subperm fun id hid => (htracks.cursors_iff id).mp hid
  exact hsubset.length_le.trans (length_blobIdsOfType_le _ r)

end TuioManager

/-! ## The lists behind a turn -/

namespace TuioManager

variable {K : Type*} [Field K] [LinearOrder K] [IsStrictOrderedRing K] {A : Arithmetic K}
  {m : TuioManager K} {t : BlobRead × TuioTime} {ts us : List (BlobRead × TuioTime)}

/-- The manager between the turns of the loop. -/
structure Turned (m : TuioManager K) : Prop where
  steady : m.Steady
  exact : m.Exact
  short : m.Short

omit [IsStrictOrderedRing K] in
theorem turned_new (systemTime : TuioTime) : (new systemTime : TuioManager K).Turned := by
  refine ⟨steady_new systemTime, exact_new systemTime, Nat.zero_le _, [], [], [], ?_⟩
  simp [Recent, new]

/-- A turn, also if its frame is skipped. -/
theorem Turned.turn (h : m.Turned) (hin : m.InTime A (t :: ts)) :
    (m.turn A t).Turned ∧ (m.turn A t).Tracks t.1.entries ∧ (m.turn A t).Placed t.1.entries ∧
      (m.turn A t).InTime A ts := by
  rw [TuioManager.turn]
  by_cases hskips : m.skips t.1
  · rw [if_pos hskips]
    rcases skips_spec hskips with ⟨hentries, hcursorList, -⟩
    have hcursors : m.cursorIds = [] := by
      rw [cursorIds, hcursorList, List.map_nil]
    rw [hentries]
    refine ⟨h, ⟨h.steady.cursors_nodup, ?_, h.steady.objects_nodup, ?_⟩, placed_nil m,
      hin.of_skips hskips⟩
    · intro id
      rw [hcursors]
      rfl
    · intro id hid
      cases hid
  · rw [if_neg hskips]
    rcases hin.of_processFrame h.steady hskips with ⟨hbefore, hlater⟩
    rcases h.steady.processFrame (A := A) t.1.entries hbefore with ⟨hsteady, -, htracks, -⟩
    rcases h.steady.placed (A := A) h.exact hbefore t.1.entries with ⟨hplaced, hexact⟩
    exact ⟨⟨hsteady, hexact, h.short.processFrame h.steady hbefore t.1⟩, htracks, hplaced, hlater⟩

/-- The managers behind the frames of a run. -/
theorem Turned.processedFrames (h : m.Turned) (hin : m.InTime A ts) :
    ∀ f ∈ processedFrames A m ts, f.after.Turned := by
  induction ts generalizing m with
  | nil => exact fun f hf => by cases hf
  | cons t ts ih =>
      rcases h.turn hin with ⟨hturned, -, -, hlater⟩
      rw [TuioManager.turn] at hturned hlater
      rw [Sur40.processedFrames]
      by_cases hskips : m.skips t.1
      · rw [if_pos hskips] at hturned hlater ⊢
        exact ih hturned hlater
      · rw [if_neg hskips] at hturned hlater ⊢
        intro f hf
        rcases List.mem_cons.mp hf with rfl | hf
        · exact hturned
        · exact ih hturned hlater f hf

theorem Turned.foldl (h : m.Turned) (hin : m.InTime A (ts ++ us)) :
    (ts.foldl (TuioManager.turn A) m).Turned ∧ (ts.foldl (TuioManager.turn A) m).InTime A us := by
  induction ts generalizing m with
  | nil => exact ⟨h, hin⟩
  | cons t ts ih =>
      rcases h.turn hin with ⟨hturned, -, -, hlater⟩
      exact ih hturned hlater

end TuioManager

/-! ## Runs without exceptions -/

namespace TuioServer

variable {K : Type*} [Field K] [LinearOrder K] [IsStrictOrderedRing K] {A : Arithmetic K}
  {bits : K → UInt32} {server server' : TuioServer K} {capacity : ℕ}

/-- The server gets through a frame if there is room for its contacts, and throws otherwise. -/
theorem Follows.processFrame_outcome (h : server.Follows A bits capacity)
    (hroom : 76 + TuioBundle.sourceSize server.sourceName ≤ capacity) {frameTime : TuioTime}
    (hbefore : server.toTuioManager.ContactsBefore frameTime) (blobs : List SurfaceBlob) :
    (Room (server.toTuioManager.processFrame A frameTime blobs) server.sourceName capacity ∧
        ∃ server', server.processFrame A bits frameTime blobs = .ok server') ∨
      (¬Room (server.toTuioManager.processFrame A frameTime blobs) server.sourceName capacity ∧
        server.processFrame A bits frameTime blobs = .error .outOfBufferMemory) := by
  have hsteady := (h.steady.processFrame (A := A) blobs hbefore).1
  have hcursors := h.steady.cursors_of_quiet (A := A) blobs hbefore
  have hobjects := h.steady.objects_of_quiet (A := A) blobs hbefore
  rw [TuioManager.processFrame_eq] at hsteady ⊢
  rw [TuioServer.processFrame]
  generalize server.toTuioManager.touchFrame A frameTime blobs = m at *
  have hready : Ready { server with toTuioManager := m } capacity :=
    ⟨h.ready.capacity_eq, h.ready.small, h.ready.accepted⟩
  have hsteady' : m.Steady := ⟨hsteady.cursors_nodup, hsteady.objects_nodup,
    hsteady.cursors_time, hsteady.objects_time, hsteady.settled⟩
  have hfits : FrameFits A bits { server with toTuioManager := m } capacity ↔ _ :=
    frameFits_iff hroom hsteady' (fun hflag => (hcursors hflag).2) fun hflag => (hobjects hflag).2
  rcases hready.commitFrame_spec A bits with ⟨hfit, packet, -, hcommit⟩ | ⟨hfit, hcommit⟩
  · exact .inl ⟨hfits.mp hfit, _, hcommit⟩
  · exact .inr ⟨fun hroom' => hfit (hfits.mpr hroom'), hcommit⟩

/-- The server gets through a run if there is room for the contacts of every frame, and throws
otherwise. -/
theorem Follows.run_outcome (h : server.Follows A bits capacity)
    (hroom : 76 + TuioBundle.sourceSize server.sourceName ≤ capacity)
    (ts : List (BlobRead × TuioTime)) (hin : server.toTuioManager.InTime A ts) :
    ((∀ f ∈ processedFrames A server.toTuioManager ts,
          Room f.after server.sourceName capacity) ∧
        ∃ server', server.run A bits ts = .ok server') ∨
      ((¬∀ f ∈ processedFrames A server.toTuioManager ts,
          Room f.after server.sourceName capacity) ∧
        server.run A bits ts = .error .outOfBufferMemory) := by
  induction ts generalizing server with
  | nil =>
      refine .inl ⟨fun f hf => ?_, server, rfl⟩
      cases hf
  | cons t ts ih =>
      rw [run, Throwing.runAll, TuioServer.turn, processedFrames]
      by_cases hskips : server.skips t.1
      · rw [if_pos hskips, if_pos hskips]
        exact ih h hroom (hin.of_skips hskips)
      · rw [if_neg hskips, if_neg hskips, List.forall_mem_cons]
        rcases hin.of_processFrame h.steady hskips with ⟨hbefore, hlater⟩
        rcases h.processFrame_outcome hroom hbefore t.1.entries with
          ⟨hframe, next, hnext⟩ | ⟨hframe, herror⟩
        · -- the rest of the run is one of the server behind the frame
          rcases h.processFrame hbefore hnext with ⟨hfollows, hmanager, hsettings⟩
          have hname : next.sourceName = server.sourceName := congrArg Prod.fst hsettings
          rw [← hmanager] at hlater ⊢
          rw [← hmanager] at hframe
          rw [← hname] at hroom hframe ⊢
          rw [hnext]
          rcases ih hfollows hroom hlater with ⟨hrest, hrun⟩ | ⟨hrest, hrun⟩
          · exact .inl ⟨⟨hframe, hrest⟩, hrun⟩
          · exact .inr ⟨fun hall => hrest hall.2, hrun⟩
        · rw [herror]
          exact .inr ⟨fun hall => hframe hall.1, rfl⟩

omit [IsStrictOrderedRing K] in
/-- There is room for the contacts of a program that runs, on the same machine. -/
theorem room_of_turned {m : TuioManager K} (h : m.Turned) {sourceName : CString}
    (hroom : 3994 + TuioBundle.sourceSize sourceName ≤ capacity) : Room m sourceName capacity := by
  have hcursors : m.cursorList.length ≤ 256 := by
    have hle := h.short.cursors
    rwa [TuioManager.cursorIds, List.length_map] at hle
  have hobjects : m.objectList.length ≤ 768 := by
    have hle := h.short.objects_le h.steady.objects_nodup
    rwa [TuioManager.objectIds, List.length_map] at hle
  have hcursorRound := roundUp4_lt (m.cursorList.length + 3)
  have hobjectRound := roundUp4_lt (m.objectList.length + 3)
  exact ⟨fun _ => by omega, fun _ => by omega⟩

theorem sourceSize_le {sourceName : CString} (h : sourceName.strlen ≤ 21) :
    TuioBundle.sourceSize sourceName ≤ 52 := by
  have hmono := roundUp4_mono (Nat.succ_le_succ h)
  rw [show roundUp4 (Nat.succ 21) = 24 from rfl] at hmono
  rw [TuioBundle.sourceSize]
  split
  · exact Nat.zero_le _
  · exact Nat.add_le_add_left hmono 28

variable (A bits) (start : TuioTime) (oscBuffer fullBuffer : Memory)

omit [IsStrictOrderedRing K] in
/-- The server in front of the loop, and what its packets have room for. -/
theorem launch_room (host : Option CString) {sourceAddr : CString}
    (hname : sourceAddr.strlen ≤ 15) :
    ∃ server : TuioServer K,
      launch start oscBuffer fullBuffer host sourceAddr = .ok server ∧
      server.Follows A bits (udpBufferSize host) ∧ server.toTuioManager = .new start ∧
      TuioBundle.sourceSize server.sourceName ≤ 52 ∧
      76 + TuioBundle.sourceSize server.sourceName ≤ udpBufferSize host := by
  rcases launch_follows A bits start oscBuffer fullBuffer host sourceAddr with
    ⟨server, hlaunch, hfollows, hmanager, sourceName, hlength, hsettings⟩
  have hsource : server.sourceName = sourceName := congrArg Prod.fst hsettings
  have hsize := sourceSize_le (show server.sourceName.strlen ≤ 21 by rw [hsource]; omega)
  refine ⟨server, hlaunch, hfollows, hmanager, hsize, ?_⟩
  rw [udpBufferSize]
  split <;> omega

/-- **When the program throws**: it gets through a run exactly if in every frame the packets have
room for the ids of all contacts and the message of one, and otherwise it is the buffer of a packet
that ends it. -/
theorem launch_run_outcome (host : Option CString) {sourceAddr : CString}
    (hname : sourceAddr.strlen ≤ 15) {ts : List (BlobRead × TuioTime)}
    (htimes : (processedFrames A (.new start) ts).IsChain TuioFrame.Before)
    (hlaunch : launch start oscBuffer fullBuffer host sourceAddr = .ok server) :
    ((∃ server', server.run A bits ts = .ok server') ↔
      ∀ f ∈ processedFrames A (.new start) ts,
        Room f.after server.sourceName (udpBufferSize host)) ∧
    (server.run A bits ts = .error .outOfBufferMemory ↔
      ∃ f ∈ processedFrames A (.new start) ts,
        ¬Room f.after server.sourceName (udpBufferSize host)) := by
  rcases launch_room A bits start oscBuffer fullBuffer host hname with
    ⟨server₀, hlaunch₀, hfollows, hmanager, -, hroom⟩
  rw [hlaunch₀] at hlaunch
  have hserver := Except.ok.inj hlaunch
  subst hserver
  rw [← hmanager]
  rcases hfollows.run_outcome hroom ts (hmanager ▸ TuioManager.inTime_new htimes) with
    ⟨hall, server', hrun⟩ | ⟨hfull, hrun⟩
  · refine ⟨⟨fun _ => hall, fun _ => ⟨server', hrun⟩⟩, fun herror => ?_, ?_⟩
    · rw [hrun] at herror
      cases herror
    · rintro ⟨f, hf, hroom'⟩
      exact absurd (hall f hf) hroom'
  · refine ⟨⟨?_, fun hall => absurd hall hfull⟩, fun _ => ?_, fun _ => hrun⟩
    · rintro ⟨server', hok⟩
      rw [hrun] at hok
      cases hok
    · simpa using hfull

/-- A finger and a tag, which are then lifted. -/
def liftedContacts : List (BlobRead × TuioTime) :=
  [(.of [(finger 7).surface, { (finger 9).surface with type := 0x04 }] (by decide),
      .ofMsec 0),
    (.of [] (by decide), .ofMsec 1), (.of [] (by decide), .ofMsec 2),
    (.of [] (by decide), .ofMsec 3)]

theorem launch_run_outcome_liftedContacts :
    ∃ server : TuioServer ℝ,
      launch (.ofMsec 0) (fun _ => 0) (fun _ => 0) none (.ofString "127.0.0.1") = .ok server ∧
      ((∃ server', server.run (.real fun _ => 0) (fun _ => 0) liftedContacts = .ok server') ↔
        ∀ f ∈ processedFrames (.real fun _ => 0) (.new (.ofMsec 0)) liftedContacts,
          Room f.after server.sourceName (udpBufferSize none)) ∧
      (server.run (.real fun _ => 0) (fun _ => 0) liftedContacts = .error .outOfBufferMemory ↔
        ∃ f ∈ processedFrames (.real fun _ => 0) (.new (.ofMsec 0)) liftedContacts,
          ¬Room f.after server.sourceName (udpBufferSize none)) := by
  have hname : (CString.ofString "127.0.0.1").strlen ≤ 15 := by decide
  rcases launch_room (.real fun _ => 0) (fun _ => 0) (.ofMsec 0) (fun _ => 0) (fun _ => 0) none
    hname with ⟨server, hlaunch, -⟩
  exact ⟨server, hlaunch, launch_run_outcome (.real fun _ => 0) (fun _ => 0) (.ofMsec 0)
    (fun _ => 0) (fun _ => 0) none hname (processedFrames_isChain _ (by decide)) hlaunch⟩

/-- With its listeners on the same machine the program does not throw. -/
theorem launch_run_ok {host : Option CString} (hlocal : isLocal host = true) {sourceAddr : CString}
    (hname : sourceAddr.strlen ≤ 15) {ts : List (BlobRead × TuioTime)}
    (htimes : (processedFrames A (.new start) ts).IsChain TuioFrame.Before) :
    ∃ server server' : TuioServer K,
      launch start oscBuffer fullBuffer host sourceAddr = .ok server ∧
      server.run A bits ts = .ok server' := by
  rcases launch_room A bits start oscBuffer fullBuffer host hname with
    ⟨server, hlaunch, hfollows, hmanager, hsize, hroom⟩
  have hin := TuioManager.inTime_new htimes
  have hframes : ∀ f ∈ processedFrames A server.toTuioManager ts,
      Room f.after server.sourceName (udpBufferSize host) := by
    intro f hf
    rw [hmanager] at hf
    apply room_of_turned ((TuioManager.turned_new start).processedFrames hin f hf)
    rw [udpBufferSize, if_pos hlocal]
    omega
  rcases hfollows.run_outcome hroom ts (hmanager ▸ hin) with
    ⟨-, server', hrun⟩ | ⟨hfull, -⟩
  · exact ⟨server, server', hlaunch, hrun⟩
  · exact absurd hframes hfull

/-! ## What the listeners know of the table -/

/-- The fingers among the entries of a frame, as a listener knows them. -/
structure FingersOn (bits : K → UInt32) (v : TuioView) (blobs : List SurfaceBlob) : Prop where
  known : ∀ k, (v.contacts k).isSome ↔ k ∈ (blobIdsOfType 0x02 blobs).map UInt32.ofInt
  position : ∀ id, ∀ b ∈ fingerOf id blobs, ∃ speeds,
    v.contacts (UInt32.ofInt id) =
      some (some (.float (bits (b.relX K))) :: some (.float (bits (b.relY K))) :: speeds)

/-- The tags among the entries of a frame, as a listener knows them. -/
def TagsOn (bits : K → UInt32) (v : TuioView) (blobs : List SurfaceBlob) : Prop :=
  ∀ id, ∀ b ∈ tagOf id blobs, ∃ symbol rest,
    v.contacts (UInt32.ofInt id) = some (symbol ::
      some (.float (bits (b.relX K))) :: some (.float (bits (b.relY K))) :: rest)

variable {A bits} {v : TuioView} {blobs : List SurfaceBlob}

omit [LinearOrder K] [IsStrictOrderedRing K] in
theorem fingersOn_of_shows (h : v.Shows cursorKey (server.cursorValue bits) server.cursorList)
    (htracks : server.toTuioManager.Tracks blobs) (hplaced : server.toTuioManager.Placed blobs)
    (hx : server.invertX = false) (hy : server.invertY = false) : FingersOn bits v blobs := by
  constructor
  · intro k
    rw [h.2.isSome_iff]
    have hkeys : server.cursorList.map cursorKey = server.cursorIds.map UInt32.ofInt := by
      rw [TuioManager.cursorIds, List.map_map]
      rfl
    simp only [hkeys, List.mem_map, htracks.cursors_iff]
  · intro id b hb
    have hmem : id ∈ server.cursorIds := by
      rw [htracks.cursors_iff, ← isSome_fingerOf, Option.mem_def.mp hb]
      rfl
    rcases List.mem_map.mp hmem with ⟨c, hc, rfl⟩
    rcases hplaced.cursors c hc b hb with ⟨hposx, hposy⟩
    refine ⟨(server.cursorValue bits c).drop 2, (h.2.1 c hc).trans ?_⟩
    simp only [cursorValue, cursorArguments, position, hx, hy, hposx, hposy]
    rfl

omit [IsStrictOrderedRing K] in
theorem tagsOn_of_shows (h : v.Shows objectKey (server.objectValue A bits) server.objectList)
    (htracks : server.toTuioManager.Tracks blobs) (hplaced : server.toTuioManager.Placed blobs)
    (hx : server.invertX = false) (hy : server.invertY = false) : TagsOn bits v blobs := by
  intro id b hb
  have hmem : id ∈ server.objectIds := by
    apply htracks.objects
    rw [← isSome_tagOf, Option.mem_def.mp hb]
    rfl
  rcases List.mem_map.mp hmem with ⟨o, ho, rfl⟩
  rcases hplaced.objects o ho b hb with ⟨hposx, hposy⟩
  refine ⟨intArgument o.symbolId, (server.objectValue A bits o).drop 3, (h.2.1 o ho).trans ?_⟩
  simp only [objectValue, objectArguments, position, hx, hy, hposx, hposy]
  rfl

variable (A bits)

/-- The server behind a run of the program. -/
theorem launch_run {host : Option CString} {sourceAddr : CString}
    {ts : List (BlobRead × TuioTime)}
    (htimes : (processedFrames A (.new start) ts).IsChain TuioFrame.Before)
    (hlaunch : launch start oscBuffer fullBuffer host sourceAddr = .ok server)
    (hrun : server.run A bits ts = .ok server') :
    server'.Follows A bits (udpBufferSize host) ∧
      server'.toTuioManager = ts.foldl (TuioManager.turn A) (.new start) ∧
      ∃ sourceName : CString, sourceName.strlen = 6 + sourceAddr.strlen ∧
        server'.settings = (sourceName, [false, false, false, true, true, false], 3) := by
  rcases launch_follows A bits start oscBuffer fullBuffer host sourceAddr with
    ⟨server₀, hlaunch₀, hfollows, hmanager, sourceName, hlength, hsettings⟩
  rw [hlaunch₀] at hlaunch
  have hserver := Except.ok.inj hlaunch
  subst hserver
  have hin : server₀.toTuioManager.InTime A ts := hmanager ▸ TuioManager.inTime_new htimes
  rcases run_follows hfollows ts hin hrun with ⟨hfollows', hmanager', hsettings'⟩
  rw [hmanager] at hmanager'
  exact ⟨hfollows', hmanager', sourceName, hlength, hsettings'.trans hsettings⟩

/-- **A listener knows the table**: behind every turn of the loop it knows exactly the fingers
that the turn has read, and the tags, and where they are. -/
theorem launch_run_shows (host : Option CString) (sourceAddr : CString)
    {ts : List (BlobRead × TuioTime)} {t : BlobRead × TuioTime}
    (htimes : (processedFrames A (.new start) (ts ++ [t])).IsChain TuioFrame.Before)
    (hlaunch : launch start oscBuffer fullBuffer host sourceAddr = .ok server)
    (hrun : server.run A bits (ts ++ [t]) = .ok server') :
    server'.senderList.length = 3 ∧ ∀ sender ∈ server'.senderList,
      FingersOn bits (sender.view cursorAddress) t.1.entries ∧
      TagsOn bits (sender.view objectAddress) t.1.entries := by
  rcases launch_run A bits start oscBuffer fullBuffer htimes hlaunch hrun with
    ⟨hfollows, hmanager, sourceName, -, hsettings⟩
  have hin := TuioManager.inTime_new htimes
  rcases (TuioManager.turned_new start).foldl hin with ⟨hturned, hin'⟩
  rcases hturned.turn hin' with ⟨-, htracks, hplaced, -⟩
  rw [List.foldl_append, List.foldl_cons, List.foldl_nil] at hmanager
  rw [← hmanager] at htracks hplaced
  rw [settings, Prod.mk.injEq, Prod.mk.injEq] at hsettings
  rcases hsettings with ⟨-, hflags, hlength⟩
  simp only [List.cons.injEq] at hflags
  refine ⟨hlength, ?_⟩
  intro sender hsender
  exact ⟨fingersOn_of_shows (hfollows.cursors sender hsender) htracks hplaced hflags.1 hflags.2.1,
    tagsOn_of_shows (hfollows.objects sender hsender) htracks hplaced hflags.1 hflags.2.1⟩

/-- The tag comes back at another place. -/
theorem launch_run_shows_movingTag :
    ∃ server server' : TuioServer ℝ,
      launch (.ofMsec 0) (fun _ => 0) (fun _ => 0) none (.ofString "127.0.0.1") = .ok server ∧
      server.run (.real fun _ => 0) (fun _ => 0)
        (movingTag ++ [(fingerAndTag 700, .ofMsec 5)]) = .ok server' ∧
      server'.senderList.length = 3 ∧ ∀ sender ∈ server'.senderList,
        FingersOn (K := ℝ) (fun _ => 0) (sender.view cursorAddress) (fingerAndTag 700).entries ∧
        TagsOn (K := ℝ) (fun _ => 0) (sender.view objectAddress) (fingerAndTag 700).entries := by
  have htimes : (processedFrames (.real fun _ => 0) (.new (.ofMsec 0))
      (movingTag ++ [(fingerAndTag 700, .ofMsec 5)])).IsChain TuioFrame.Before :=
    processedFrames_isChain _ (by decide)
  have hlocal : isLocal none = true := rfl
  have hname : (CString.ofString "127.0.0.1").strlen ≤ 15 := by decide
  rcases launch_run_ok (.real fun _ => 0) (fun _ => 0) (.ofMsec 0) (fun _ => 0) (fun _ => 0)
    hlocal hname htimes with
    ⟨server, server', hlaunch, hrun⟩
  exact ⟨server, server', hlaunch, hrun, launch_run_shows (.real fun _ => 0) (fun _ => 0)
    (.ofMsec 0) (fun _ => 0) (fun _ => 0) none _ htimes hlaunch hrun⟩

/-! ## The end -/

section

variable {A bits}

omit [Field K] [LinearOrder K] [IsStrictOrderedRing K] in
/-- The empty bundles of a server without blobs. -/
theorem Ready.sendEmptyBundles (h : server.Ready capacity)
    (hroom : 76 + TuioBundle.sourceSize server.sourceName ≤ capacity)
    (hcursors : server.cursorProfileEnabled = true) (hobjects : server.objectProfileEnabled = true)
    (hblobs : server.blobProfileEnabled = false) :
    ∃ packet, (if server.cursorProfileEnabled then server.sendEmptyCursorBundle
        else .ok server).bind (fun server =>
          (if server.objectProfileEnabled then server.sendEmptyObjectBundle else .ok server).bind
            fun server => if server.blobProfileEnabled then server.sendEmptyBlobBundle
              else .ok server) = .ok { server with
        oscPacket := packet
        senderList := server.senderList.map
          (·.take ([cursorAddress, objectAddress].map server.emptyPacket)) } := by
  rcases h.sendEmptyBundle strlen_cursorAddress with ⟨-, packet, hcapacity, hsend⟩ | ⟨hlt, -⟩
  · have hready : Ready { server with
        oscPacket := packet
        senderList := server.senderList.map (·.take [server.emptyPacket cursorAddress]) }
        capacity := ⟨hcapacity, h.small, OscSender.accepted_take h.accepted _⟩
    rcases hready.sendEmptyBundle strlen_objectAddress with
      ⟨-, packet', -, hsend'⟩ | ⟨hlt, -⟩
    · refine ⟨packet', ?_⟩
      rw [if_pos hcursors, sendEmptyCursorBundle, hsend, Except.bind]
      dsimp only
      rw [if_pos hobjects, sendEmptyObjectBundle, hsend', Except.bind]
      dsimp only
      rw [if_neg (by simp [hblobs])]
      simp only [List.map_map, Function.comp_def, OscSender.take_take]
      rfl
    · exact absurd hroom (Nat.not_le.mpr hlt)
  · exact absurd hroom (Nat.not_le.mpr hlt)

end

/-- Behind the destructor no listener knows a contact. -/
theorem launch_run_destroy (host : Option CString) {sourceAddr : CString}
    (hname : sourceAddr.strlen ≤ 15) {ts : List (BlobRead × TuioTime)}
    (htimes : (processedFrames A (.new start) ts).IsChain TuioFrame.Before)
    (hlaunch : launch start oscBuffer fullBuffer host sourceAddr = .ok server)
    (hrun : server.run A bits ts = .ok server') (sessionTime sessionTime' : TuioTime) :
    ∃ server'', server'.destroy A sessionTime sessionTime' = .ok server'' ∧
      server''.senderList.length = 3 ∧ ∀ sender ∈ server''.senderList, ∀ k,
        (sender.view cursorAddress).contacts k = none ∧
        (sender.view objectAddress).contacts k = none := by
  rcases launch_run A bits start oscBuffer fullBuffer htimes hlaunch hrun with
    ⟨hfollows, -, sourceName, hlength, hsettings⟩
  rw [settings, Prod.mk.injEq, Prod.mk.injEq] at hsettings
  rcases hsettings with ⟨hsource, hflags, hsenders⟩
  simp only [List.cons.injEq] at hflags
  have hsize := sourceSize_le (show server'.sourceName.strlen ≤ 21 by rw [hsource]; omega)
  have hroom : 76 + TuioBundle.sourceSize server'.sourceName ≤ udpBufferSize host := by
    rw [udpBufferSize]
    split <;> omega
  rw [destroy]
  generalize TuioManager.removeUntouchedStoppedObjects _ = m
  have hready : Ready { server' with toTuioManager := m } (udpBufferSize host) :=
    ⟨hfollows.ready.capacity_eq, hfollows.ready.small, hfollows.ready.accepted⟩
  rcases hready.sendEmptyBundles hroom hflags.2.2.2.1 hflags.2.2.2.2.1 hflags.2.2.2.2.2.1 with
    ⟨packet, hsend⟩
  refine ⟨_, hsend, by simpa using hsenders, ?_⟩
  intro sender hsender k
  rcases List.mem_map.mp hsender with ⟨s, -, rfl⟩
  have haddresses : [cursorAddress, objectAddress] ⊆ profileAddresses := by decide
  have hlarge := hroom.trans hfollows.ready.small
  have hcleared (address : CString) (hmem : address ∈ [cursorAddress, objectAddress]) :=
    TuioServer.shows_emptyPackets { server' with toTuioManager := m } haddresses hlarge hmem
      (s.view address) cursorKey (server'.cursorValue bits)
  rw [OscSender.view_take, OscSender.view_take]
  constructor
  · exact (hcleared cursorAddress (by decide)).2.2 k List.not_mem_nil
  · exact (hcleared objectAddress (by decide)).2.2 k List.not_mem_nil

/-- **The program from its start to its end**: with its listeners on the same machine it never
throws, however many contacts come and go, and it ends with the table cleared. -/
theorem launch_session {host : Option CString} (hlocal : isLocal host = true)
    {sourceAddr : CString} (hname : sourceAddr.strlen ≤ 15) {ts : List (BlobRead × TuioTime)}
    (htimes : (processedFrames A (.new start) ts).IsChain TuioFrame.Before)
    (sessionTime sessionTime' : TuioTime) :
    ∃ server server' server'' : TuioServer K,
      launch start oscBuffer fullBuffer host sourceAddr = .ok server ∧
      server.run A bits ts = .ok server' ∧
      server'.destroy A sessionTime sessionTime' = .ok server'' ∧
      server''.senderList.length = 3 ∧ ∀ sender ∈ server''.senderList, ∀ k,
        (sender.view cursorAddress).contacts k = none ∧
        (sender.view objectAddress).contacts k = none := by
  rcases launch_run_ok A bits start oscBuffer fullBuffer hlocal hname htimes with
    ⟨server, server', hlaunch, hrun⟩
  rcases launch_run_destroy A bits start oscBuffer fullBuffer host hname htimes hlaunch hrun
    sessionTime sessionTime' with ⟨server'', hdestroy, hcleared⟩
  exact ⟨server, server', server'', hlaunch, hrun, hdestroy, hcleared⟩

theorem launch_session_liftedContacts :
    ∃ server server' server'' : TuioServer ℝ,
      launch (.ofMsec 0) (fun _ => 0) (fun _ => 0) none (.ofString "127.0.0.1") = .ok server ∧
      server.run (.real fun _ => 0) (fun _ => 0) liftedContacts = .ok server' ∧
      server'.destroy (.real fun _ => 0) (.ofMsec 4) (.ofMsec 4) = .ok server'' ∧
      server''.senderList.length = 3 ∧ ∀ sender ∈ server''.senderList, ∀ k,
        (sender.view cursorAddress).contacts k = none ∧
        (sender.view objectAddress).contacts k = none :=
  launch_session (.real fun _ => 0) (fun _ => 0) (.ofMsec 0) (fun _ => 0) (fun _ => 0) rfl
    (by decide) (processedFrames_isChain _ (by decide)) (.ofMsec 4) (.ofMsec 4)

end TuioServer

end Sur40
