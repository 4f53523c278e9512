import Sur40.TuioBundles

/-!
# The frames of the TUIO server

What the server sends when a frame is committed, and when it cannot. The constants for the sizes
of messages are exact, so that a frame goes out if the first messages of a bundle leave room for
one contact.

## Main definitions

* `TuioServer.due`: the contacts of a profile that a frame reports of.
* `TuioServer.framePackets`: the packets of a frame.
* `TuioServer.Ready.commitFrame_spec`: what `commitFrame` does.
-/

namespace Sur40

open Devlib

/-! ## Sizes -/

@[simp] theorem strlen_cursorAddress : cursorAddress.strlen = 11 := by decide

@[simp] theorem strlen_objectAddress : objectAddress.strlen = 11 := by decide

@[simp] theorem strlen_blobAddress : blobAddress.strlen = 11 := by decide

theorem length_encodeElements_message (address : CString) (arguments : List Argument) :
    (encodeElements [.message address arguments]).length =
      4 + (roundUp4 (address.strlen + 1) + (roundUp4 (arguments.length + 2) +
        (argumentData arguments).length)) := by
  simp [encodeElements, OscElement.encode, messageBytes]

@[simp] theorem length_intArgument (x : ℤ) : (intArgument x).data.length = 4 := by
  simp [intArgument, Argument.data]

theorem length_argumentData_ints (ids : List ℤ) :
    (argumentData (ids.map intArgument)).length = 4 * ids.length := by
  induction ids with
  | nil => rfl
  | cons id ids ih =>
      rw [argumentData] at ih
      rw [argumentData, List.map_cons, List.flatMap_cons, List.length_append, ih,
        length_intArgument, List.length_cons]
      omega

namespace TuioBundle
variable {α : Type*} {b : TuioBundle α}

/-- The addresses of the profiles have 11 characters. -/
theorem fseqSize_eq (h : b.address.strlen = 11) : b.fseqSize = 32 := by
  have htext : (textArgument "fseq").data.length = 8 := by decide
  rw [fseqSize, fseqElement, length_encodeElements_message, h, fseqArguments, argumentData]
  simp only [List.flatMap_cons, List.flatMap_nil, List.length_append, List.length_cons,
    List.length_nil, length_intArgument, htext]
  rfl

/-- The bytes of the source message. -/
def sourceSize (sourceName : CString) : ℕ :=
  if sourceName.chars.isEmpty then 0 else 28 + roundUp4 (sourceName.strlen + 1)

theorem headSize_eq (h : b.address.strlen = 11) :
    b.headSize = 40 + sourceSize b.sourceName + roundUp4 (b.ids.length + 3) +
      4 * b.ids.length := by
  have halive : (encodeElements [.message b.address
      (textArgument "alive" :: b.ids.map intArgument)]).length =
      24 + roundUp4 (b.ids.length + 3) + 4 * b.ids.length := by
    have htext : (textArgument "alive").data.length = 8 := by decide
    have haddress : roundUp4 (11 + 1) = 12 := rfl
    have hints := length_argumentData_ints b.ids
    rw [argumentData] at hints
    rw [length_encodeElements_message, h, argumentData, List.flatMap_cons, List.length_append,
      hints, htext, haddress, List.length_cons, List.length_map, Nat.add_assoc b.ids.length]
    omega
  have hsource : (encodeElements [.message b.address
      [textArgument "source", .string b.sourceName]]).length =
      28 + roundUp4 (b.sourceName.strlen + 1) := by
    have htext : (textArgument "source").data.length = 8 := by decide
    have haddress : roundUp4 (11 + 1) = 12 := rfl
    have htags : roundUp4 (2 + 2) = 4 := rfl
    have hname : (Argument.string b.sourceName).data.length =
        roundUp4 (b.sourceName.strlen + 1) := CString.length_padded _
    rw [length_encodeElements_message, h]
    simp only [argumentData, List.flatMap_cons, List.flatMap_nil, List.append_nil,
      List.length_append, List.length_cons, List.length_nil, htext, haddress, hname]
    rw [htags]
    omega
  rw [headSize, headElements, headArguments, List.map_append, encodeElements_append,
    List.length_append, List.map_singleton, halive, sourceSize]
  by_cases hempty : b.sourceName.chars.isEmpty = true
  · rw [if_pos hempty, if_pos hempty, List.map_nil]
    simp only [encodeElements, List.length_nil]
    omega
  · rw [if_neg hempty, if_neg hempty, List.map_singleton, hsource]
    omega

end TuioBundle

namespace TuioServer
variable {K : Type*} [Field K] [LinearOrder K] {A : Arithmetic K} {bits : K → UInt32}
  {server : TuioServer K}

omit [LinearOrder K] in
theorem fseqSize_cursorBundle (fseq : ℤ) : (server.cursorBundle bits fseq).fseqSize = 32 :=
  TuioBundle.fseqSize_eq strlen_cursorAddress

theorem fseqSize_objectBundle (fseq : ℤ) : (server.objectBundle A bits fseq).fseqSize = 32 :=
  TuioBundle.fseqSize_eq strlen_objectAddress

omit [LinearOrder K] in
/-- `CUR_MESSAGE_SIZE` is exact. -/
theorem cursorBundle_sized (fseq : ℤ) : (server.cursorBundle bits fseq).Sized := by
  constructor
  · intro tcur
    have hset : (server.cursorBundle bits fseq).setSize tcur = 56 := by
      rw [TuioBundle.setSize, TuioBundle.setElement, length_encodeElements_message]
      simp only [cursorBundle, cursorArguments, TuioBundle.setArguments, argumentData, position,
        velocity, List.flatMap_cons, List.flatMap_nil, List.length_append, List.length_cons,
        List.length_nil, Argument.data, length_bigEndian, strlen_cursorAddress]
      rfl
    rw [hset, fseqSize_cursorBundle]
    rfl
  · rw [fseqSize_cursorBundle]
    exact show 32 < 88 by decide

/-- `OBJ_MESSAGE_SIZE` is exact. -/
theorem objectBundle_sized (fseq : ℤ) : (server.objectBundle A bits fseq).Sized := by
  constructor
  · intro tobj
    have hset : (server.objectBundle A bits fseq).setSize tobj = 76 := by
      rw [TuioBundle.setSize, TuioBundle.setElement, length_encodeElements_message]
      simp only [objectBundle, objectArguments, TuioBundle.setArguments, argumentData, position,
        velocity, List.flatMap_cons, List.flatMap_nil, List.length_append, List.length_cons,
        List.length_nil, Argument.data, length_bigEndian, strlen_objectAddress]
      rfl
    rw [hset, fseqSize_objectBundle]
    rfl
  · rw [fseqSize_objectBundle]
    exact show 32 < 108 by decide

omit [LinearOrder K] in
theorem cursorPart_sized (bits : K → UInt32) (server : TuioServer K) :
    (server.cursorPart bits).Sized := cursorBundle_sized server.currentFrame

theorem objectPart_sized (A : Arithmetic K) (bits : K → UInt32) (server : TuioServer K) :
    (server.objectPart A bits).Sized := objectBundle_sized server.currentFrame

/-! ## The part of a profile -/

/-- The contacts that the server goes through, and which of them it sends. -/
def due (server : TuioServer K) {α : Type*} (part : TuioPart α) :
    Option ((α → Bool) × List α) :=
  if part.update then
    some (fun contact =>
      server.fullUpdate || decide (part.currentTime contact = server.currentFrameTime),
        part.contacts)
  else if part.profileEnabled && server.periodicUpdate &&
      decide (server.updateInterval ≤ (server.currentFrameTime - part.updateTime).seconds) then
    some (fun _ => true, if server.fullUpdate then part.contacts else [])
  else none

/-- What is sent of a profile. -/
def partPackets (server : TuioServer K) {α : Type*} (part : TuioPart α) (capacity : ℕ) :
    List (List UInt8) :=
  match server.due part with
  | none => []
  | some (chosen, contacts) => part.packets capacity chosen contacts

/-- What is sent of a profile fits. -/
def PartFits (server : TuioServer K) {α : Type*} (part : TuioPart α) (capacity : ℕ) : Prop :=
  ∀ d ∈ server.due part, part.Fits capacity d.1 d.2

/-- The packet is not larger than what the transports take. -/
structure Ready (server : TuioServer K) (capacity : ℕ) : Prop where
  capacity_eq : server.oscPacket.capacity = capacity
  small : capacity ≤ oscMaxCapacity
  accepted : ∀ sender ∈ server.senderList, capacity ≤ sender.bufferSize

variable {capacity : ℕ}

omit [Field K] [LinearOrder K] in
/-- The transports are given the packets of a bundle. -/
theorem Ready.onPacket_sendAll (h : server.Ready capacity) {α : Type*} {b : TuioBundle α}
    (hsized : b.Sized) (chosen : α → Bool)
    (contacts : List α) :
    (b.Fits capacity chosen contacts ∧ ∃ packet, packet.capacity = capacity ∧
        server.onPacket (b.sendAll chosen contacts) = .ok { server with
          oscPacket := packet
          senderList := server.senderList.map (·.take (b.packets capacity chosen contacts)) }) ∨
      (¬b.Fits capacity chosen contacts ∧
        server.onPacket (b.sendAll chosen contacts) = .error .outOfBufferMemory) := by
  by_cases hfits : b.Fits capacity chosen contacts
  · rcases TuioBundle.sendAll_fits (o := ⟨server.oscPacket, server.senderList⟩) h.small h.accepted
      hsized h.capacity_eq rfl hfits with ⟨packet, hsend, hcapacity⟩
    refine .inl ⟨hfits, packet, hcapacity, ?_⟩
    rw [onPacket, hsend]
    rfl
  · refine .inr ⟨hfits, ?_⟩
    rw [onPacket, TuioBundle.sendAll_exceeds h.small h.accepted hsized h.capacity_eq rfl hfits]
    rfl

omit [Field K] [LinearOrder K] in
theorem commitPart_eq {α : Type*} (part : TuioPart α) :
    server.commitPart part =
      match server.due part with
      | none => .ok (server, part.updateTime)
      | some (chosen, contacts) =>
          (server.onPacket (part.sendAll chosen contacts)).map
            fun server => (server, server.currentFrameTime) := by
  rw [commitPart, due]
  by_cases hupdate : part.update = true
  · simp only [if_pos hupdate]
  · by_cases hperiodic : (part.profileEnabled && server.periodicUpdate) = true
    · by_cases htime : server.updateInterval ≤
          (server.currentFrameTime - part.updateTime).seconds
      · simp [hupdate, hperiodic, htime]
      · simp [hupdate, hperiodic, htime]
    · simp [hupdate, hperiodic]

omit [Field K] [LinearOrder K] in
/-- A part of a frame. -/
theorem Ready.commitPart_spec (h : server.Ready capacity) {α : Type*} {part : TuioPart α}
    (hsized : part.Sized) :
    (server.PartFits part capacity ∧ ∃ packet, packet.capacity = capacity ∧
        server.commitPart part = .ok ({ server with
            oscPacket := packet
            senderList := server.senderList.map (·.take (server.partPackets part capacity)) },
          if (server.due part).isSome then server.currentFrameTime else part.updateTime)) ∨
      (¬server.PartFits part capacity ∧
        server.commitPart part = .error .outOfBufferMemory) := by
  rw [commitPart_eq, PartFits, partPackets]
  cases server.due part with
  | none =>
      refine .inl ⟨by simp, server.oscPacket, h.capacity_eq, ?_⟩
      simp
  | some d =>
      rcases h.onPacket_sendAll hsized d.1 d.2 with
        ⟨hfits, packet, hcapacity, hsend⟩ | ⟨hfits, hsend⟩
      · refine .inl ⟨by simpa using hfits, packet, hcapacity, ?_⟩
        simp only [hsend]
        rfl
      · refine .inr ⟨by simpa using hfits, ?_⟩
        simp only [hsend]
        rfl

/-! ## A frame -/

section

variable (A bits) (server : TuioServer K) (capacity : ℕ)

/-- The packets of a frame. -/
def framePackets : List (List UInt8) :=
  server.partPackets (server.objectPart A bits) capacity ++
    server.partPackets (server.cursorPart bits) capacity

/-- The packets of a frame fit. -/
def FrameFits : Prop :=
  server.PartFits (server.objectPart A bits) capacity ∧
    server.PartFits (server.cursorPart bits) capacity

/-- The server behind a frame. -/
def committed (packet : OutboundPacketStream) : TuioServer K :=
  { server with
    toTuioManager := server.toTuioManager.commitFrame
    oscPacket := packet
    senderList := server.senderList.map (·.take (server.framePackets A bits capacity))
    objectUpdateTime := if (server.due (server.objectPart A bits)).isSome
      then server.currentFrameTime else server.objectUpdateTime
    cursorUpdateTime := if (server.due (server.cursorPart bits)).isSome
      then server.currentFrameTime else server.cursorUpdateTime }

end

theorem Ready.committed (h : server.Ready capacity) {packet : OutboundPacketStream}
    (hcapacity : packet.capacity = capacity) :
    (server.committed A bits capacity packet).Ready capacity := by
  exact ⟨hcapacity, h.small, OscSender.accepted_take h.accepted _⟩

variable (A bits) in
/-- A frame is delivered to all transports if its packets fit, and the server throws otherwise. -/
theorem Ready.commitFrame_spec (h : server.Ready capacity) :
    (server.FrameFits A bits capacity ∧ ∃ packet, packet.capacity = capacity ∧
        server.commitFrame A bits = .ok (server.committed A bits capacity packet)) ∨
      (¬server.FrameFits A bits capacity ∧
        server.commitFrame A bits = .error .outOfBufferMemory) := by
  rcases h.commitPart_spec (server.objectPart_sized A bits) with
    ⟨hobjects, packet, hcapacity, hcommit⟩ | ⟨hobjects, hcommit⟩
  · -- the cursors are sent with the packet that the objects leave
    let server' : TuioServer K := { server with
      updateObject := false
      oscPacket := packet
      senderList := server.senderList.map
        (·.take (server.partPackets (server.objectPart A bits) capacity))
      objectUpdateTime := if (server.due (server.objectPart A bits)).isSome
        then server.currentFrameTime else server.objectUpdateTime }
    have hbind : server.commitFrame A bits = server'.commitCursors bits := by
      rw [commitFrame, commitObjects, hcommit]
      rfl
    have hready : server'.Ready capacity :=
      ⟨hcapacity, h.small, OscSender.accepted_take h.accepted _⟩
    rcases hready.commitPart_spec (server'.cursorPart_sized bits) with
      ⟨hcursors, packet', hcapacity', hcommit'⟩ | ⟨hcursors, hcommit'⟩
    · refine .inl ⟨⟨hobjects, hcursors⟩, packet', hcapacity', ?_⟩
      rw [hbind, commitCursors, hcommit']
      simp only [server', List.map_map, Function.comp_def, OscSender.take_take]
      rfl
    · refine .inr ⟨fun hfits => hcursors hfits.2, ?_⟩
      rw [hbind, commitCursors, hcommit']
      rfl
  · refine .inr ⟨fun hfits => hobjects hfits.1, ?_⟩
    rw [commitFrame, commitObjects, hcommit]
    rfl

end TuioServer

end Sur40
