import Sur40.TuioServer

/-!
# The bundles of the TUIO server

A packet is reused for one bundle after the other. What a transport is given of a frame are whole
bundles, and every contact that is chosen is in one of them. They go out exactly if the first
messages leave room for a set and an fseq message; otherwise the server throws.

## Main definitions

* `TuioBundle.element`: a bundle as a tree.
* `TuioBundle.packets`: the bundles for a list of contacts.
* `TuioBundle.Fits`: the packet has room for them.
* `TuioBundle.sendAll_fits`, `TuioBundle.sendAll_exceeds`: what the transports are given.
-/

namespace Sur40

open Devlib

/-- The elements go into a bundle behind others. -/
def bundleBuilder (es : List OscElement) : PacketBuilder := ⟨[], [(1, es)], none⟩

theorem size_bundleBuilder (es : List OscElement) :
    (bundleBuilder es).size = 16 + (encodeElements es).length := by
  rw [← PacketBuilder.length_finish]
  simp [bundleBuilder, PacketBuilder.finish, PacketBuilder.finishBundles, OscElement.encode]

theorem addAll_bundleBuilder (es fs : List OscElement) :
    fs.foldl PacketBuilder.add (bundleBuilder es) = bundleBuilder (es ++ fs) := by
  induction fs generalizing es with
  | nil => simp
  | cons f fs ih =>
      rw [List.foldl_cons, show (bundleBuilder es).add f = bundleBuilder (es ++ [f]) from rfl, ih,
        List.append_assoc, List.singleton_append]

theorem elementsOps_messages (address : CString) (arguments : List (List Argument)) :
    elementsOps (arguments.map (.message address)) = arguments.flatMap (messageOps address) := by
  induction arguments with
  | nil => rfl
  | cons a as ih => rw [List.map_cons, elementsOps, ih, List.flatMap_cons, OscElement.ops]

/-! ## Transports -/

namespace OscSender

/-- The transport is given packets one after another. -/
def take (sender : OscSender) (packets : List (List UInt8)) : OscSender :=
  { sender with sent := sender.sent ++ packets }

@[simp] theorem take_nil (sender : OscSender) : sender.take [] = sender := by simp [take]

@[simp] theorem take_take (sender : OscSender) (ps qs : List (List UInt8)) :
    (sender.take ps).take qs = sender.take (ps ++ qs) := by simp [take]

theorem sendOscPacket_eq {sender : OscSender} {bundle : OutboundPacketStream}
    (hpos : 0 < bundle.size) (hle : bundle.size ≤ sender.bufferSize) :
    sender.sendOscPacket bundle = sender.take [bundle.data] := by
  rw [sendOscPacket, if_neg (Nat.not_lt.mpr hle), if_neg (Nat.ne_of_gt hpos), take]

theorem accepted_take {senders : List OscSender} {capacity : ℕ}
    (h : ∀ sender ∈ senders, capacity ≤ sender.bufferSize) (ps : List (List UInt8)) :
    ∀ sender ∈ senders.map (·.take ps), capacity ≤ sender.bufferSize := by
  intro sender hsender
  rcases List.mem_map.mp hsender with ⟨s, hs, rfl⟩
  exact h s hs

end OscSender

namespace TuioOutput
variable {o : TuioOutput} {es : List OscElement}

/-- The packet has an open bundle with the elements. -/
structure Opened (o : TuioOutput) (capacity : ℕ) (senders : List OscSender)
    (es : List OscElement) : Prop where
  builds : o.packet.BuildsExactly (bundleBuilder es)
  capacity_eq : o.packet.capacity = capacity
  senderList : o.senderList = senders

variable {capacity : ℕ} {senders : List OscSender}

theorem Opened.size_eq (h : o.Opened capacity senders es) :
    o.packet.size = 16 + (encodeElements es).length := by
  rw [h.builds.size_eq, size_bundleBuilder]

/-- Elements are written into the bundle. -/
theorem Opened.write (h : o.Opened capacity senders es) (hsmall : capacity ≤ oscMaxCapacity)
    (fs : List OscElement) :
    (16 + (encodeElements (es ++ fs)).length ≤ capacity ∧
        ∃ o', o.write (elementsOps fs) = .ok o' ∧ o'.Opened capacity senders (es ++ fs)) ∨
      (capacity < 16 + (encodeElements (es ++ fs)).length ∧
        o.write (elementsOps fs) = .error .outOfBufferMemory) := by
  have hops := elementsOps_properAll fs (b := bundleBuilder es) rfl
  have hrun := h.builds.runAll (h.capacity_eq.trans_le hsmall) hops.1
  rw [hops.2, addAll_bundleBuilder, size_bundleBuilder, h.capacity_eq] at hrun
  rcases hrun with ⟨hle, packet, hpacket, hbuilds, hcapacity⟩ | ⟨hlt, herror⟩
  · refine .inl ⟨hle, ⟨packet, o.senderList⟩, ?_, hbuilds, hcapacity, h.senderList⟩
    rw [TuioOutput.write, hpacket]
    rfl
  · refine .inr ⟨hlt, ?_⟩
    rw [TuioOutput.write, herror]
    rfl

/-- A bundle is begun in a packet, whatever was in it. -/
theorem begin_spec (o : TuioOutput) (hsmall : o.packet.capacity ≤ oscMaxCapacity)
    (es : List OscElement) :
    (16 + (encodeElements es).length ≤ o.packet.capacity ∧
        ∃ o', o.clear.write (.beginBundle 1 :: elementsOps es) = .ok o' ∧
          o'.Opened o.packet.capacity o.senderList es) ∨
      (o.packet.capacity < 16 + (encodeElements es).length ∧
        o.clear.write (.beginBundle 1 :: elementsOps es) = .error .outOfBufferMemory) := by
  have hclear : o.packet.clear.BuildsExactly .empty :=
    OutboundPacketStream.buildsExactly_new o.packet.mem o.packet.capacity
  have hops := elementsOps_properAll es (b := bundleBuilder []) rfl
  have hproper : PacketBuilder.empty.ProperAll (.beginBundle 1 :: elementsOps es) :=
    ⟨rfl, hops.1⟩
  have hrun := hclear.runAll hsmall hproper
  have hfoldl : (StreamOp.beginBundle 1 :: elementsOps es).foldl PacketBuilder.step .empty =
      bundleBuilder es := by
    rw [List.foldl_cons]
    exact hops.2.trans (addAll_bundleBuilder [] es)
  rw [hfoldl, size_bundleBuilder] at hrun
  rcases hrun with ⟨hle, packet, hpacket, hbuilds, hcapacity⟩ | ⟨hlt, herror⟩
  · refine .inl ⟨hle, ⟨packet, o.senderList⟩, ?_, hbuilds, hcapacity, rfl⟩
    rw [TuioOutput.write, TuioOutput.clear, hpacket]
    rfl
  · refine .inr ⟨hlt, ?_⟩
    rw [TuioOutput.write, TuioOutput.clear, herror]
    rfl

/-- The last elements are written, and the packet is delivered. -/
theorem Opened.finish (h : o.Opened capacity senders es) (hsmall : capacity ≤ oscMaxCapacity)
    (hsenders : ∀ sender ∈ senders, capacity ≤ sender.bufferSize) (fs : List OscElement) :
    (16 + (encodeElements (es ++ fs)).length ≤ capacity ∧
        ∃ packet, (o.write (elementsOps fs ++ [.endBundle])).map (·.deliverOscPacket) =
            .ok ⟨packet, senders.map (·.take [(OscElement.bundle 1 (es ++ fs)).encode])⟩ ∧
          packet.capacity = capacity) ∨
      (capacity < 16 + (encodeElements (es ++ fs)).length ∧
        (o.write (elementsOps fs ++ [.endBundle])).map (·.deliverOscPacket) =
          .error .outOfBufferMemory) := by
  have hops := elementsOps_properAll fs (b := bundleBuilder es) rfl
  rw [addAll_bundleBuilder] at hops
  have hproper : (bundleBuilder es).ProperAll (elementsOps fs ++ [.endBundle]) := by
    rw [PacketBuilder.properAll_append, hops.2]
    exact ⟨hops.1, ⟨rfl, List.cons_ne_nil _ _⟩, trivial⟩
  have hrun := h.builds.runAll (h.capacity_eq.trans_le hsmall) hproper
  have hend : (bundleBuilder (es ++ fs)).step .endBundle =
      ⟨[.bundle 1 (es ++ fs)], [], none⟩ := rfl
  have hsize : (⟨[.bundle 1 (es ++ fs)], [], none⟩ : PacketBuilder).size =
      16 + (encodeElements (es ++ fs)).length := by
    rw [← PacketBuilder.length_finish]
    simp [PacketBuilder.finish, OscElement.encode]
  rw [List.foldl_append, hops.2, List.foldl_cons, List.foldl_nil, hend, hsize,
    h.capacity_eq] at hrun
  rcases hrun with ⟨hle, packet, hpacket, hbuilds, hcapacity⟩ | ⟨hlt, herror⟩
  · have hdata : packet.data = (OscElement.bundle 1 (es ++ fs)).encode := by
      rw [hbuilds.data_ready (hbuilds.isReady_iff.mpr ⟨rfl, rfl⟩)]
      simp
    have hpacketSize : packet.size = 16 + (encodeElements (es ++ fs)).length := by
      rw [hbuilds.size_eq, hsize]
    refine .inl ⟨hle, packet, ?_, hcapacity⟩
    rw [TuioOutput.write, hpacket]
    simp only [Except.map, deliverOscPacket, h.senderList, Except.ok.injEq, TuioOutput.mk.injEq,
      true_and]
    apply List.map_congr_left
    intro sender hsender
    have hbuffer := hsenders sender hsender
    rw [OscSender.sendOscPacket_eq (by omega) (by omega), hdata]
  · refine .inr ⟨hlt, ?_⟩
    rw [TuioOutput.write, herror]
    rfl

end TuioOutput

/-! ## The bundles of a profile -/

namespace TuioBundle
variable {α : Type*} (b : TuioBundle α)

def headElements : List OscElement := b.headArguments.map (.message b.address)

def setElement (contact : α) : OscElement := .message b.address (b.setArguments contact)

def fseqElement : OscElement := .message b.address b.fseqArguments

/-- The elements of a bundle with set messages for the contacts. -/
def openElements (contacts : List α) : List OscElement :=
  b.headElements ++ contacts.map b.setElement

/-- A bundle with set messages for the contacts. -/
def element (contacts : List α) : OscElement :=
  .bundle 1 (b.openElements contacts ++ [b.fseqElement])

/-- The bytes of a bundle up to the first set message. -/
def headSize : ℕ := 16 + (encodeElements b.headElements).length

/-- The bytes of a set message in a bundle. -/
def setSize (contact : α) : ℕ := (encodeElements [b.setElement contact]).length

/-- The bytes of the fseq message. -/
def fseqSize : ℕ := (encodeElements [b.fseqElement]).length

/-- `messageSize` is what the comment at the constants says. -/
structure Sized : Prop where
  messageSize_eq : ∀ contact, b.setSize contact + b.fseqSize = b.messageSize
  fseqSize_lt : b.fseqSize < b.messageSize

/-- The bundle has room for the next set message and the fseq message. -/
def full (capacity n : ℕ) : Bool :=
  decide (capacity - (b.headSize + n * (b.messageSize - b.fseqSize)) < b.messageSize)

/-- The packets for a list of contacts. -/
def packets (capacity : ℕ) (chosen : α → Bool) (contacts : List α) : List (List UInt8) :=
  (Packing.pack (b.full capacity) chosen [] contacts).map fun cs => (b.element cs).encode

/-- The packet has room for the first messages, the fseq message, and one set message if there is
any. -/
def Fits (capacity : ℕ) (chosen : α → Bool) (contacts : List α) : Prop :=
  b.headSize + b.fseqSize ≤ capacity ∧
    (contacts.any chosen = true → b.headSize + b.messageSize ≤ capacity)

instance (capacity : ℕ) (chosen : α → Bool) (contacts : List α) :
    Decidable (b.Fits capacity chosen contacts) := inferInstanceAs (Decidable (_ ∧ _))

variable {b} {o : TuioOutput} {capacity : ℕ} {senders : List OscSender} {chosen : α → Bool}

theorem openElements_append (cs ds : List α) :
    b.openElements (cs ++ ds) = b.openElements cs ++ ds.map b.setElement := by
  rw [openElements, openElements, List.map_append, List.append_assoc]

/-- The bytes of a bundle that is open. -/
theorem Sized.length_openElements (h : b.Sized) (cs : List α) :
    16 + (encodeElements (b.openElements cs)).length =
      b.headSize + cs.length * (b.messageSize - b.fseqSize) := by
  have hsets : (encodeElements (cs.map b.setElement)).length =
      cs.length * (b.messageSize - b.fseqSize) := by
    induction cs with
    | nil => simp [encodeElements]
    | cons c cs ih =>
        have hc := h.messageSize_eq c
        have hlength : (encodeElements [b.setElement c]).length = b.setSize c := rfl
        rw [List.map_cons, ← List.singleton_append, encodeElements_append, List.length_append, ih,
          hlength, List.length_cons, Nat.succ_mul]
        omega
  rw [openElements, encodeElements_append, List.length_append, hsets, headSize]
  omega

theorem start_eq : b.start o = o.clear.write (.beginBundle 1 :: elementsOps b.headElements) := by
  rw [start, headElements, elementsOps_messages]

theorem add_eq (contact : α) : b.add o contact = o.write (elementsOps [b.setElement contact]) := by
  rw [add, elementsOps, elementsOps, setElement, OscElement.ops, List.append_nil]

theorem send_eq :
    b.send o =
      (o.write (elementsOps [b.fseqElement] ++ [.endBundle])).map (·.deliverOscPacket) := by
  rw [send, elementsOps, elementsOps, fseqElement, OscElement.ops, List.append_nil]

variable (hsmall : capacity ≤ oscMaxCapacity)
  (hsenders : ∀ sender ∈ senders, capacity ≤ sender.bufferSize)

include hsmall

/-- A new bundle. -/
theorem start_spec (hcapacity : o.packet.capacity = capacity) (hlist : o.senderList = senders) :
    (b.headSize ≤ capacity ∧ ∃ o', b.start o = .ok o' ∧
        o'.Opened capacity senders (b.openElements [])) ∨
      (capacity < b.headSize ∧ b.start o = .error .outOfBufferMemory) := by
  have hbegin := o.begin_spec (hcapacity.trans_le hsmall) b.headElements
  rw [← start_eq, hcapacity, hlist] at hbegin
  rw [openElements, List.map_nil, List.append_nil]
  exact hbegin

theorem add_spec {cs : List α} (hsized : b.Sized)
    (h : o.Opened capacity senders (b.openElements cs)) (contact : α) :
    (b.headSize + (cs.length + 1) * (b.messageSize - b.fseqSize) ≤ capacity ∧
        ∃ o', b.add o contact = .ok o' ∧
          o'.Opened capacity senders (b.openElements (cs ++ [contact]))) ∨
      (capacity < b.headSize + (cs.length + 1) * (b.messageSize - b.fseqSize) ∧
        b.add o contact = .error .outOfBufferMemory) := by
  have hlength := hsized.length_openElements (cs ++ [contact])
  rw [List.length_append, List.length_singleton, openElements_append] at hlength
  have hwrite := h.write hsmall [b.setElement contact]
  rw [← List.map_singleton, hlength, List.map_singleton, ← add_eq] at hwrite
  rw [openElements_append]
  exact hwrite

include hsenders

theorem send_spec {cs : List α} (hsized : b.Sized)
    (h : o.Opened capacity senders (b.openElements cs)) :
    (b.headSize + cs.length * (b.messageSize - b.fseqSize) + b.fseqSize ≤ capacity ∧
        ∃ packet, b.send o = .ok ⟨packet, senders.map (·.take [(b.element cs).encode])⟩ ∧
          packet.capacity = capacity) ∨
      (capacity < b.headSize + cs.length * (b.messageSize - b.fseqSize) + b.fseqSize ∧
        b.send o = .error .outOfBufferMemory) := by
  have hlength : 16 + (encodeElements (b.openElements cs ++ [b.fseqElement])).length =
      b.headSize + cs.length * (b.messageSize - b.fseqSize) + b.fseqSize := by
    rw [encodeElements_append, List.length_append, ← hsized.length_openElements, fseqSize]
    omega
  have hfinish := h.finish hsmall hsenders [b.fseqElement]
  rw [hlength, ← send_eq] at hfinish
  exact hfinish

/-- A bundle without contacts. -/
theorem start_send (hcapacity : o.packet.capacity = capacity) (hlist : o.senderList = senders) :
    (b.headSize + b.fseqSize ≤ capacity ∧
        ∃ packet, (b.start o).bind b.send =
            .ok ⟨packet, senders.map (·.take [(b.element []).encode])⟩ ∧
          packet.capacity = capacity) ∨
      (capacity < b.headSize + b.fseqSize ∧
        (b.start o).bind b.send = .error .outOfBufferMemory) := by
  have hlength : 16 + (encodeElements (b.openElements [] ++ [b.fseqElement])).length =
      b.headSize + b.fseqSize := by
    rw [openElements, List.map_nil, List.append_nil, encodeElements_append, List.length_append,
      headSize, fseqSize, Nat.add_assoc]
  rcases start_spec (b := b) hsmall hcapacity hlist with ⟨-, o', ho', hopened⟩ | ⟨hlt, herror⟩
  · have hfinish := hopened.finish hsmall hsenders [b.fseqElement]
    rw [hlength, ← send_eq] at hfinish
    rw [ho']
    exact hfinish
  · refine .inr ⟨by omega, ?_⟩
    rw [herror]
    rfl

/-! ## All contacts -/

omit hsmall hsenders in
theorem exceeds_eq {cs : List α} (hsized : b.Sized)
    (h : o.Opened capacity senders (b.openElements cs)) :
    b.exceeds o = b.full capacity cs.length := by
  rw [exceeds, full, h.capacity_eq, h.size_eq, hsized.length_openElements]

/-- A bundle is sent and the next one is begun. -/
theorem send_start {cs : List α} (hsized : b.Sized)
    (h : o.Opened capacity senders (b.openElements cs)) (hhead : b.headSize ≤ capacity) :
    (b.headSize + cs.length * (b.messageSize - b.fseqSize) + b.fseqSize ≤ capacity ∧
        ∃ o', (b.send o).bind b.start = .ok o' ∧
          o'.Opened capacity (senders.map (·.take [(b.element cs).encode])) (b.openElements [])) ∨
      (capacity < b.headSize + cs.length * (b.messageSize - b.fseqSize) + b.fseqSize ∧
        (b.send o).bind b.start = .error .outOfBufferMemory) := by
  rcases send_spec hsmall hsenders hsized h with ⟨hle, packet, hsend, hcapacity⟩ | ⟨hlt, hsend⟩
  · have hstart := start_spec (b := b)
      (o := ⟨packet, senders.map (·.take [(b.element cs).encode])⟩) hsmall hcapacity rfl
    rcases hstart with ⟨-, o', ho', hopened⟩ | ⟨hlt, -⟩
    · refine .inl ⟨hle, o', ?_, hopened⟩
      rw [hsend]
      exact ho'
    · omega
  · refine .inr ⟨hlt, ?_⟩
    rw [hsend]
    rfl

/-- The number of contacts that a packet has room for. -/
def bound (b : TuioBundle α) (capacity : ℕ) : ℕ :=
  (capacity - b.headSize - b.fseqSize) / (b.messageSize - b.fseqSize)

omit hsmall hsenders in
theorem le_bound_iff {n : ℕ} (hpos : b.fseqSize < b.messageSize)
    (hroom : b.headSize + b.fseqSize ≤ capacity) :
    n ≤ b.bound capacity ↔
      b.headSize + n * (b.messageSize - b.fseqSize) + b.fseqSize ≤ capacity := by
  rw [bound, Nat.le_div_iff_mul_le (by omega)]
  omega

/-- The state of the loop: the packets that were sent, and the contacts in the open one. -/
structure Filling (b : TuioBundle α) (capacity : ℕ) (senders : List OscSender)
    (out : List (List α)) (current : List α) (o : TuioOutput) : Prop where
  opened : o.Opened capacity
    (senders.map (·.take (out.map fun cs => (b.element cs).encode))) (b.openElements current)

theorem packs_filling (hsized : b.Sized)
    (hroom : b.headSize + b.fseqSize ≤ capacity) :
    Packing.Packs (b.full capacity) (b.bound capacity) b.exceeds
      (fun o => (b.send o).bind b.start) b.add (b.Filling capacity senders) := by
  constructor
  · intro out current o h
    exact exceeds_eq hsized h.opened
  · intro out current o h hle
    have hfits := (le_bound_iff hsized.fseqSize_lt hroom).mp hle
    rcases send_start hsmall (OscSender.accepted_take hsenders _) hsized h.opened (by omega) with
      ⟨-, o', ho', hopened⟩ | ⟨hlt, -⟩
    · refine ⟨o', ho', ⟨?_⟩⟩
      simp only [List.map_map, Function.comp_def, OscSender.take_take] at hopened
      simpa using hopened
    · omega
  · intro out current o contact h hlt
    have hfits := (le_bound_iff hsized.fseqSize_lt hroom).mp (Nat.succ_le_of_lt hlt)
    rcases add_spec hsmall hsized h.opened contact with ⟨-, o', ho', hopened⟩ | ⟨hlt', -⟩
    · exact ⟨o', ho', ⟨hopened⟩⟩
    · rw [Nat.succ_eq_add_one] at hfits
      omega

omit hsmall hsenders in
theorem lt_bound_of_full (hpos : b.fseqSize < b.messageSize)
    (hroom : b.headSize + b.fseqSize ≤ capacity) (n : ℕ) (hfull : b.full capacity n = false) :
    n < b.bound capacity := by
  apply (le_bound_iff hpos hroom).mpr
  simp only [full, decide_eq_false_iff_not, Nat.not_lt] at hfull
  rw [Nat.succ_mul]
  omega

omit hsmall hsenders in
theorem Fits.bound_pos (hpos : b.fseqSize < b.messageSize) {contacts : List α}
    (hfits : b.Fits capacity chosen contacts) (hany : contacts.any chosen = true) :
    0 < b.bound capacity := by
  have hset := hfits.2 hany
  apply (le_bound_iff hpos hfits.1).mpr
  omega

omit hsmall hsenders in
/-- No packet is larger than the capacity. -/
theorem Fits.length_le (hsized : b.Sized)
    {contacts : List α} (hfits : b.Fits capacity chosen contacts) :
    ∀ cs ∈ Packing.pack (b.full capacity) chosen [] contacts,
      (b.element cs).encode.length ≤ capacity := by
  intro cs hcs
  have hle := Packing.length_le_of_mem_pack (lt_bound_of_full hsized.fseqSize_lt hfits.1)
    (hfits.bound_pos hsized.fseqSize_lt) (Nat.zero_le _) cs hcs
  have hroom := (le_bound_iff hsized.fseqSize_lt hfits.1).mp hle
  have hopen := hsized.length_openElements cs
  have hfseq : (encodeElements [b.fseqElement]).length = b.fseqSize := rfl
  rw [element, OscElement.encode, List.length_append, length_bundleHeader,
    encodeElements_append, List.length_append, hfseq]
  omega

/-- Bundles that fit are all delivered. -/
theorem sendAll_fits (hsized : b.Sized)
    (hcapacity : o.packet.capacity = capacity) (hlist : o.senderList = senders)
    {contacts : List α} (hfits : b.Fits capacity chosen contacts) :
    ∃ packet, b.sendAll chosen contacts o =
        .ok ⟨packet, senders.map (·.take (b.packets capacity chosen contacts))⟩ ∧
      packet.capacity = capacity := by
  have hroom := hfits.1
  rcases start_spec hsmall hcapacity hlist with ⟨-, o₁, ho₁, hopened⟩ | ⟨hlt, -⟩
  · have hfilling : b.Filling capacity senders [] [] o₁ := ⟨by simpa using hopened⟩
    have hloop := Packing.loop_spec (packs_filling hsmall hsenders hsized hroom)
      (lt_bound_of_full hsized.fseqSize_lt hroom) (hfits.bound_pos hsized.fseqSize_lt) hfilling
      (Nat.zero_le _)
    rcases hloop with ⟨o₂, out, last, ho₂, hfilling₂, hle, hout⟩
    have hlast := (le_bound_iff hsized.fseqSize_lt hroom).mp hle
    rcases send_spec hsmall (OscSender.accepted_take hsenders _) hsized hfilling₂.opened with
      ⟨-, packet, hsend, hcapacity'⟩ | ⟨hlt, -⟩
    · have hbind : b.sendAll chosen contacts o = b.send o₂ := by
        rw [sendAll, ho₁]
        change (Packing.loop _ _ _ _ _ _).bind _ = _
        rw [ho₂]
        rfl
      refine ⟨packet, ?_, hcapacity'⟩
      rw [hbind, hsend, packets, ← List.nil_append (Packing.pack _ _ _ _), ← hout,
        List.map_append, List.map_singleton, List.map_map]
      simp only [Function.comp_def, OscSender.take_take]
    · omega
  · omega

/-- The loop where a set message and the fseq message do not go into one bundle. -/
theorem loop_exceeds (hsized : b.Sized) (hhead : b.headSize ≤ capacity)
    (hlt : capacity < b.headSize + b.messageSize) {contacts : List α}
    (hany : contacts.any chosen = true) (h : o.Opened capacity senders (b.openElements [])) :
    (Packing.loop b.exceeds (fun o => (b.send o).bind b.start) b.add chosen o contacts).bind
      b.send = .error .outOfBufferMemory := by
  apply Packing.loop_fails
    (fun o => ∃ senders', (∀ sender ∈ senders', capacity ≤ sender.bufferSize) ∧
      o.Opened capacity senders' (b.openElements []))
    (fun o => ∃ senders' contact, (∀ sender ∈ senders', capacity ≤ sender.bufferSize) ∧
      o.Opened capacity senders' (b.openElements [contact]))
  · intro o ho
    rcases ho with ⟨senders', -, hopened⟩ | ⟨senders', contact, -, hopened⟩
    · rw [exceeds_eq hsized hopened, full]
      simp only [decide_eq_true_eq]
      omega
    · rw [exceeds_eq hsized hopened, full]
      simp only [decide_eq_true_eq]
      omega
  · intro o ⟨senders', haccept, hopened⟩
    rcases send_start hsmall haccept hsized hopened hhead with ⟨-, o', ho', hopened'⟩ | ⟨-, hsend⟩
    · exact .inr ⟨o', ho', _, OscSender.accepted_take haccept _, hopened'⟩
    · exact .inl hsend
  · intro o contact ⟨senders', haccept, hopened⟩
    rcases add_spec hsmall hsized hopened contact with ⟨-, o', ho', hopened'⟩ | ⟨-, hadd⟩
    · exact .inr ⟨o', ho', senders', contact, haccept, hopened'⟩
    · exact .inl hadd
  · intro o ⟨senders', contact, haccept, hopened⟩
    have hset := hsized.messageSize_eq contact
    have hone : ¬b.headSize + [contact].length * (b.messageSize - b.fseqSize) + b.fseqSize ≤
        capacity := by
      rw [List.length_singleton]
      omega
    constructor
    · rcases send_start hsmall haccept hsized hopened hhead with ⟨hle, -⟩ | ⟨-, hsend⟩
      · exact absurd hle hone
      · exact hsend
    · rcases send_spec hsmall haccept hsized hopened with ⟨hle, -⟩ | ⟨-, hsend⟩
      · exact absurd hle hone
      · exact hsend
  · exact hany
  · exact ⟨senders, hsenders, h⟩

/-- Otherwise the server throws. -/
theorem sendAll_exceeds (hsized : b.Sized)
    (hcapacity : o.packet.capacity = capacity) (hlist : o.senderList = senders)
    {contacts : List α} (hfits : ¬b.Fits capacity chosen contacts) :
    b.sendAll chosen contacts o = .error .outOfBufferMemory := by
  rcases start_spec (b := b) hsmall hcapacity hlist with ⟨hhead, o₁, ho₁, hopened⟩ | ⟨-, herror⟩
  · have hbind : b.sendAll chosen contacts o =
        (Packing.loop b.exceeds (fun o => (b.send o).bind b.start) b.add chosen o₁
          contacts).bind b.send := by
      rw [sendAll, ho₁]
      rfl
    rw [hbind]
    by_cases hroom : b.headSize + b.fseqSize ≤ capacity
    · -- a set message does not go together with the fseq message
      have hany : contacts.any chosen = true ∧ capacity < b.headSize + b.messageSize := by
        by_contra hnot
        apply hfits
        refine ⟨hroom, ?_⟩
        intro hany
        by_contra hlt
        exact hnot ⟨hany, Nat.not_le.mp hlt⟩
      exact loop_exceeds hsmall hsenders hsized hhead hany.2 hany.1 hopened
    · -- the fseq message does not go into the bundle
      have hsend : b.send o₁ = .error .outOfBufferMemory := by
        rcases send_spec hsmall hsenders hsized hopened with ⟨hle, -⟩ | ⟨-, hsend⟩
        · simp only [List.length_nil, Nat.zero_mul] at hle
          omega
        · exact hsend
      cases contacts with
      | nil => exact hsend
      | cons c cs =>
          have hfull : b.full capacity 0 = true := by
            have hlt := hsized.fseqSize_lt
            simp only [full, decide_eq_true_eq, Nat.zero_mul]
            omega
          rw [Packing.loop, exceeds_eq hsized hopened, List.length_nil, hfull, if_pos rfl, hsend]
          rfl
  · rw [sendAll, herror]
    rfl

end TuioBundle

end Sur40
