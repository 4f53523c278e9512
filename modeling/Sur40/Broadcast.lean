import Sur40.HandshakeFirst
import Sur40.Lib.PartialSend
import Sur40.Lib.WebSocketFrame

/-!
# Packets for all clients

`sendOscPacket` sends header and payload of a packet to every client on the list, each in
pieces that its socket chooses. A client whose socket fails is shut down and passed over;
the loop goes on with the next one. What a client gets is determined by the packets and by
the answers of its own socket.

## Main definitions

* `oscFrame`, `binaryFrame`: a packet with its header, and the frame this is.
* `SendThread.remaining`: what the loop has still to send to a client.
* `Listed`: the invariant of the client list.
* `SendRun`: a client that stays connected during a run.
* `sendOscPacket_roundTrip`: what the client gets.
-/

namespace Sur40

open Devlib

/-! ## Frames -/

/-- What `sendOscPacket` sends to a client. -/
def oscFrame (packet : List UInt8) : List UInt8 := webSocketHeader packet.length ++ packet

/-- A binary message in one frame, not masked. -/
def binaryFrame (packet : List UInt8) : WebSocketFrame :=
  { fin := true, opcode := .binary, maskKey := none, payload := packet }

theorem binaryFrame_wellFormed {packet : List UInt8} (h : packet.length ≤ maxTcpSize) :
    (binaryFrame packet).WellFormed := by
  refine ⟨Nat.lt_of_le_of_lt h (by decide), fun hcontrol => ?_⟩
  exact absurd hcontrol (show ¬8 ≤ Opcode.binary.toNat by decide)

/-- The three encodings of the length are those of the protocol, up to four bytes. -/
theorem webSocketHeader_eq {len : ℕ} (h : len < 256 ^ 4) :
    webSocketHeader len = 0x82 :: UInt8.ofNat (WebSocketFrame.lengthField len).1 ::
      (WebSocketFrame.lengthField len).2 := by
  have hzero : ∀ k, 4 ≤ k → UInt8.ofNat (len / 256 ^ k) = 0 := by
    intro k hk
    have hle : 256 ^ 4 ≤ 256 ^ k := Nat.pow_le_pow_right (by decide) hk
    rw [Nat.div_eq_of_lt (by omega)]
    rfl
  rw [webSocketHeader, WebSocketFrame.lengthField]
  by_cases hshort : len ≤ 125
  · rw [if_pos hshort, if_pos (by omega)]
  · by_cases hmedium : len ≤ 65535
    · rw [if_neg hshort, if_pos hmedium, if_neg (by omega), if_pos (by omega)]
      simp [bigEndian, Nat.shiftRight_eq_div_pow]
    · rw [if_neg hshort, if_neg hmedium, if_neg (by omega), if_neg (by omega)]
      simp only [bigEndian, hzero 7 (by omega), hzero 6 (by omega), hzero 5 (by omega),
        hzero 4 (by omega)]
      simp [Nat.shiftRight_eq_div_pow]

/-- What is sent is the frame of the packet. -/
theorem oscFrame_eq_encode {packet : List UInt8} (h : packet.length ≤ maxTcpSize) :
    oscFrame packet = (binaryFrame packet).encode := by
  have hsmall : packet.length < 256 ^ 4 := Nat.lt_of_le_of_lt h (by decide)
  rw [oscFrame, webSocketHeader_eq hsmall]
  simp [binaryFrame, WebSocketFrame.encode, Opcode.toNat, applyMask]

/-- The frames of packets decode to these packets. -/
theorem decodeFrames_oscFrame {packets : List (List UInt8)}
    (h : ∀ p ∈ packets, p.length ≤ maxTcpSize) :
    decodeFrames (packets.flatMap oscFrame) = some (packets.map binaryFrame) := by
  have hframes : packets.flatMap oscFrame =
      (packets.map binaryFrame).flatMap WebSocketFrame.encode := by
    rw [List.flatMap_map]
    exact List.flatMap_congr fun p hp => oscFrame_eq_encode (h p hp)
  have hwell : ∀ f ∈ packets.map binaryFrame, f.WellFormed := by
    intro f hf
    obtain ⟨p, hp, rfl⟩ := List.mem_map.mp hf
    exact binaryFrame_wellFormed (h p hp)
  rw [hframes, decodeFrames_encode hwell]

/-! ## What is left to send -/

/-- The clients that the loop has not passed yet, the current one first. -/
def SendThread.clients : SendThread → List ℕ
  | .idle | .lock _ => []
  | .header _ client _ pending | .payload _ client _ pending => client :: pending

/-- What the call of `sendOscPacket` has still to send to a client of the list. -/
def SendThread.remaining (i : ℕ) : SendThread → List UInt8
  | .idle => []
  | .lock packet => oscFrame packet
  | .header packet client rest pending =>
      if client = i then rest ++ packet else if i ∈ pending then oscFrame packet else []
  | .payload packet client rest pending =>
      if client = i then rest else if i ∈ pending then oscFrame packet else []

@[simp] theorem nextClient_clients (packet : List UInt8) (clients : List ℕ) :
    (nextClient packet clients).clients = clients := by
  cases clients <;> rfl

theorem nextClient_remaining (packet : List UInt8) (clients : List ℕ) (i : ℕ) :
    (nextClient packet clients).remaining i = if i ∈ clients then oscFrame packet else [] := by
  cases clients with
  | nil => rfl
  | cons client pending =>
      by_cases hi : client = i
      · simp [nextClient, SendThread.remaining, hi, oscFrame]
      · simp [nextClient, SendThread.remaining, hi, Ne.symm hi]

/-- A piece of the header. -/
theorem header_remaining (packet rest : List UInt8) (i n : ℕ) (pending : List ℕ) :
    rest.take n ++ (if rest.drop n = [] then SendThread.payload packet i packet pending
        else .header packet i (rest.drop n) pending).remaining i =
      (SendThread.header packet i rest pending).remaining i := by
  split_ifs with hdone
  · have hall : rest.take n = rest := by
      rw [← List.append_nil (rest.take n), ← hdone, List.take_append_drop]
    simp [SendThread.remaining, hall]
  · simp [SendThread.remaining, ← List.append_assoc]

/-- A piece of the payload. -/
theorem payload_remaining (packet rest : List UInt8) {i : ℕ} (n : ℕ) {pending : List ℕ}
    (hi : i ∉ pending) :
    rest.take n ++ (if rest.drop n = [] then nextClient packet pending
        else .payload packet i (rest.drop n) pending).remaining i =
      (SendThread.payload packet i rest pending).remaining i := by
  split_ifs with hdone
  · have hall : rest.take n = rest := by
      rw [← List.append_nil (rest.take n), ← hdone, List.take_append_drop]
    rw [nextClient_remaining, if_neg hi, hall]
    simp [SendThread.remaining]
  · simp [SendThread.remaining]

namespace WebSockSender

variable {e : WebSockEvent} {s s' : WebSockSender}

/-! ## The list of clients -/

/-- No client is twice on the list, and while a packet is sent the list stays. -/
structure Listed (s : WebSockSender) : Prop where
  nodup : s.tcpClientList.Nodup
  accepted : ∀ i ∈ s.tcpClientList, i < s.clients.length
  fresh : ∀ client, s.server = .push client →
    client ∉ s.tcpClientList ∧ client < s.clients.length
  sending : s.sender.clients <:+ s.tcpClientList
  /-- Clients are on the list before they are announced. -/
  announced : ∀ i ∈ s.tcpClientList, s.server ≠ .announce i → s.connected = true

theorem listed_new : new.Listed where
  nodup := List.nodup_nil
  accepted := by
    intro i hi
    cases hi
  fresh := by
    intro client h
    cases h
  sending := List.suffix_rfl
  announced := by
    intro i hi
    cases hi

/-- Steps that leave the list alone. -/
theorem Listed.of_list (h : s.Listed) (hlist : s'.tcpClientList = s.tcpClientList)
    (hlength : s.clients.length ≤ s'.clients.length)
    (hserver : ∀ client, s'.server = .push client →
      client ∉ s.tcpClientList ∧ client < s'.clients.length)
    (hsender : s'.sender.clients <:+ s.tcpClientList)
    (hannounced : ∀ i ∈ s.tcpClientList, s'.server ≠ .announce i → s'.connected = true) :
    s'.Listed where
  nodup := by
    rw [hlist]
    exact h.nodup
  accepted i hi := by
    rw [hlist] at hi
    exact Nat.lt_of_lt_of_le (h.accepted i hi) hlength
  fresh := by
    rw [hlist]
    exact hserver
  sending := by
    rw [hlist]
    exact hsender
  announced := by
    rw [hlist]
    exact hannounced

theorem clients_of_unlocked {t : SendThread} (h : t.unlocked = true) : t.clients = [] := by
  cases t with
  | idle => rfl
  | lock packet => rfl
  | header packet client rest pending => cases h
  | payload packet client rest pending => cases h

theorem returnFrom_ne_push (client other : ℕ) (handshake : Handshake) :
    returnFrom client handshake ≠ .push other := by
  cases handshake <;> exact nofun

/-- Steps of the sending loop, and those that change a client in its place. -/
theorem Listed.of_sender (h : s.Listed) {clients : List WebSockClient} {sender : SendThread}
    (hlength : clients.length = s.clients.length)
    (hsender : sender.clients <:+ s.sender.clients) :
    Listed { s with clients, sender } := by
  refine h.of_list rfl (Nat.le_of_eq hlength.symm) ?_ (hsender.trans h.sending) h.announced
  intro client hclient
  dsimp only
  rw [hlength]
  exact h.fresh client hclient

theorem Listed.push (h : s.Listed) {client : ℕ} (hserver : s.server = .push client)
    (hfree : s.sender.unlocked = true) :
    Listed { s with
      tcpClientList := s.tcpClientList ++ [client]
      server := .announce client } := by
  obtain ⟨hfresh, hlt⟩ := h.fresh client hserver
  refine ⟨?_, fun i hi => ?_, nofun, ?_, fun i hi hne => ?_⟩
  · refine List.nodup_append.mpr ⟨h.nodup, List.nodup_singleton _, fun i hi j hj => ?_⟩
    rw [List.mem_singleton] at hj
    rintro rfl
    exact hfresh (hj ▸ hi)
  · rw [List.mem_append, List.mem_singleton] at hi
    rcases hi with hi | rfl
    · exact h.accepted i hi
    · exact hlt
  · rw [clients_of_unlocked hfree]
    exact List.nil_suffix
  · rw [List.mem_append, List.mem_singleton] at hi
    rcases hi with hi | rfl
    · exact h.announced i hi (by simp [hserver])
    · exact absurd rfl hne

theorem Listed.clientLeaves (h : s.Listed) {client : ℕ} (hfree : s.sender.unlocked = true)
    (c : WebSockClient) :
    Listed { s with
      clients := s.clients.set client c
      tcpClientList := s.tcpClientList.filter fun other => other ≠ client
      connected := if (s.tcpClientList.filter fun other => other ≠ client).length = 0 then
        false else s.connected } := by
  refine ⟨h.nodup.filter _, fun i hi => ?_, fun other hpush => ?_, ?_, fun i hi hne => ?_⟩
  · simpa using h.accepted i (List.mem_of_mem_filter hi)
  · obtain ⟨hfresh, hlt⟩ := h.fresh other hpush
    exact ⟨fun hmem => hfresh (List.mem_of_mem_filter hmem), by simpa using hlt⟩
  · rw [clients_of_unlocked hfree]
    exact List.nil_suffix
  · rw [if_neg (by rw [List.length_eq_zero_iff]; exact List.ne_nil_of_mem hi)]
    exact h.announced i (List.mem_of_mem_filter hi) hne

theorem Listed.step (h : s.Listed) (hstep : step e s = some s') : s'.Listed := by
  cases step_cases hstep with
  | accept hserver =>
      refine h.of_list rfl (by simp) (fun client hclient => ?_) h.sending fun i hi _ => ?_
      · cases hclient
        exact ⟨fun hmem => Nat.lt_irrefl _ (h.accepted _ hmem), by simp⟩
      · exact h.announced i hi (by simp [hserver])
  | acceptFails hserver =>
      refine h.of_list rfl (Nat.le_refl _) nofun h.sending fun i hi _ => ?_
      exact h.announced i hi (by simp [hserver])
  | push hserver hfree => exact h.push hserver hfree
  | announce hserver =>
      exact h.of_list rfl (Nat.le_refl _) nofun h.sending fun _ _ _ => rfl
  | newClient hserver hc hclient =>
      refine h.of_list rfl (by simp) (fun client hpush => ?_) h.sending fun i hi _ => ?_
      · exact absurd hpush (returnFrom_ne_push _ _ _)
      · exact h.announced i hi (by simp [hserver])
  | spawn hserver =>
      refine h.of_list rfl (by simp [modifyClient]) nofun h.sending fun i hi _ => ?_
      exact h.announced i hi (by simp [hserver])
  | refused hidle hrefused => exact h
  | sendOscPacket hidle haccepted => exact h.of_sender rfl List.nil_suffix
  | lock hsender =>
      refine h.of_list rfl (Nat.le_refl _) h.fresh ?_ h.announced
      rw [nextClient_clients]
  | @sendFails bytes packet rest client pending c hsender hc hbytes =>
      refine h.of_sender (by simp) ?_
      rw [nextClient_clients, show s.sender.clients = client :: pending by
        rcases hsender with hsender | hsender <;> rw [hsender] <;> rfl]
      exact List.suffix_cons _ _
  | header hsender hc hsend hbytes =>
      refine h.of_sender (by simp) ?_
      rw [hsender]
      split_ifs <;> exact List.suffix_rfl
  | payload hsender hc hsend hbytes =>
      refine h.of_sender (by simp) ?_
      rw [hsender]
      split_ifs
      · rw [nextClient_clients]
        exact List.suffix_cons _ _
      · exact List.suffix_rfl
  | clientRecv client => exact h
  | clientEnds hc => exact h.of_sender (by simp) List.suffix_rfl
  | clientLeaves hc hthread hfree => exact h.clientLeaves hfree _

theorem listed_of_run {es : List WebSockEvent} (h : threads.run es new = some s) : s.Listed :=
  Machine.run_invariant (fun _ _ _ hs hstep => hs.step hstep) listed_new h

/-- The sender counts as connected, and the client is on the list. -/
def Connected (s : WebSockSender) (i : ℕ) : Prop := s.connected = true ∧ i ∈ s.tcpClientList

/-- A client is connected from its announcement on, as long as it is on the list. -/
theorem Listed.connected (h : s.Listed) {i : ℕ} (hi : i ∈ s.tcpClientList)
    (hannounced : s.server ≠ .announce i) : s.Connected i :=
  ⟨h.announced i hi hannounced, hi⟩

/-! ## What a client has got -/

end WebSockSender

/-- The bytes of frames among those written to a client. -/
def frameBytes (written : List (Origin × UInt8)) : List UInt8 :=
  (written.filter fun p => p.1 = .frame).map Prod.snd

theorem frameBytes_append (v w : List (Origin × UInt8)) :
    frameBytes (v ++ w) = frameBytes v ++ frameBytes w := by
  simp [frameBytes]

theorem frameBytes_map (origin : Origin) (bytes : List UInt8) :
    frameBytes (bytes.map fun b => (origin, b)) = if origin = .frame then bytes else [] := by
  cases origin <;> simp [frameBytes, List.filter_map, Function.comp_def]

namespace WebSockClient

/-- `newClient` has returned. -/
def HandshakeOver (c : WebSockClient) : Prop :=
  c.handshake ≠ .reading ∧ ∀ rest, c.handshake ≠ .replying rest

/-- What a step leaves of a client: its socket stays shut, frames only come from the loop,
and once the handshake is over nothing else is written. -/
structure Grows (c c' : WebSockClient) (sent : List UInt8) : Prop where
  frames : frameBytes c'.written = frameBytes c.written ++ sent
  shut : c.shut = true → c'.shut = true
  handshakeOver : c.HandshakeOver →
    c'.HandshakeOver ∧ c'.written = c.written ++ sent.map (Origin.frame, ·)

theorem Grows.refl (c : WebSockClient) : c.Grows c [] where
  frames := (List.append_nil _).symm
  shut := id
  handshakeOver h := ⟨h, (List.append_nil _).symm⟩

theorem Grows.trans {c c' c'' : WebSockClient} {sent sent' : List UInt8} (h : c.Grows c' sent)
    (h' : c'.Grows c'' sent') : c.Grows c'' (sent ++ sent') where
  frames := by rw [h'.frames, h.frames, List.append_assoc]
  shut hshut := h'.shut (h.shut hshut)
  handshakeOver hover := by
    obtain ⟨hover', hwritten⟩ := h.handshakeOver hover
    obtain ⟨hover'', hwritten'⟩ := h'.handshakeOver hover'
    rw [hwritten', hwritten, List.map_append, List.append_assoc]
    exact ⟨hover'', rfl⟩

theorem grows_write (c : WebSockClient) (bytes : List UInt8) :
    c.Grows (c.write .frame bytes) bytes where
  frames := by rw [write, frameBytes_append, frameBytes_map, if_pos rfl]
  shut := id
  handshakeOver h := ⟨h, rfl⟩

theorem Step.grows {c c' : WebSockClient} (h : Step (fun _ => False) c c') : c.Grows c' [] := by
  cases h with
  | receive hreading b =>
      refine ⟨by simp, fun hshut => ?_, fun hover => absurd hreading hover.1⟩
      simp only [WebSockClient.receive]
      split
      · exact hshut
      · split
        · split
          · rfl
          · exact hshut
        · exact hshut
  | recvFails hreading => exact ⟨by simp, id, fun hover => absurd hreading hover.1⟩
  | reply hreplying bytes =>
      refine ⟨?_, fun hshut => ?_, fun hover => absurd hreplying (hover.2 _)⟩
      · obtain ⟨sent, hwritten⟩ := c.reply_written _ bytes
        rw [hwritten, frameBytes_append, frameBytes_map, if_neg (by decide)]
      · simp only [WebSockClient.reply]
        split
        · exact hshut
        · split <;> exact hshut
  | thread t => exact ⟨by simp, id, fun hover => ⟨hover, by simp⟩⟩
  | shut => exact ⟨by simp, fun _ => rfl, fun hover => ⟨hover, by simp⟩⟩
  | frame hopen hbytes => exact hbytes.elim

end WebSockClient

/-! ## One step -/

/-- The packet that is passed to `sendOscPacket`. -/
def WebSockEvent.packet? : WebSockEvent → Option (List UInt8)
  | .sendOscPacket packet => some packet
  | _ => none

/-- The packets passed to `sendOscPacket`. -/
def packetsOf (es : List WebSockEvent) : List (List UInt8) := es.filterMap WebSockEvent.packet?

namespace WebSockSender

/-- The results of the `send` calls that a step makes for a client. -/
def sendResult (i : ℕ) (e : WebSockEvent) (s : WebSockSender) : List ℤ :=
  match e, s.sender with
  | .sendFrame bytes, .header _ client _ _ | .sendFrame bytes, .payload _ client _ _ =>
      if client = i then [bytes] else []
  | _, _ => []

theorem sendResult_of_sender {s : WebSockSender} {packet rest : List UInt8} {client : ℕ}
    {pending : List ℕ} (h : s.sender = .header packet client rest pending ∨
      s.sender = .payload packet client rest pending) (i : ℕ) (bytes : ℤ) :
    sendResult i (.sendFrame bytes) s = if client = i then [bytes] else [] := by
  rcases h with h | h <;> simp only [sendResult, h]

/-- The results of the `send` calls that a run makes for a client. -/
def sendResults (i : ℕ) : List WebSockEvent → WebSockSender → List ℤ
  | [], _ => []
  | e :: es, s => sendResult i e s ++ (step e s).elim [] (sendResults i es)

/-- What a step means for a client: what it sends comes off what is left to send, or its
socket fails and is shut. -/
inductive SendCase (i : ℕ) (e : WebSockEvent) (s s' : WebSockSender) (c c' : WebSockClient) : Prop
  | sends (sent : List UInt8) (hgrows : c.Grows c' sent)
      (hlength : sent.length = ((sendResult i e s).map Int.toNat).sum)
      (hpos : ∀ r ∈ sendResult i e s, 0 < r)
      (hopen : c.shut = true → sendResult i e s = [])
      (hsent : sent ++ s'.sender.remaining i =
        s.sender.remaining i ++ e.packet?.toList.flatMap oscFrame)
  | fails (r : ℤ) (hgrows : c.Grows c' []) (hshut : c'.shut = true) (hr : r ≤ 0)
      (hresult : sendResult i e s = [r])

variable {e : WebSockEvent} {s s' : WebSockSender} {i j : ℕ} {c d d' : WebSockClient}
  {sent : List UInt8}

/-- A step that sends nothing to the client. -/
theorem SendCase.quiet {c' : WebSockClient} (hgrows : c.Grows c' [])
    (hresult : sendResult i e s = [])
    (hsender : s'.sender.remaining i =
      s.sender.remaining i ++ e.packet?.toList.flatMap oscFrame) : SendCase i e s s' c c' := by
  refine .sends [] hgrows ?_ ?_ (fun _ => hresult) hsender
  · rw [hresult]
    rfl
  · rw [hresult]
    exact nofun

/-- What happens to one client happens to no other. -/
theorem set_grows {clients : List WebSockClient} (hc : clients[i]? = some c)
    (hd : clients[j]? = some d) (hgrows : d.Grows d' sent) :
    ∃ c', (clients.set j d')[i]? = some c' ∧ c.Grows c' (if j = i then sent else []) := by
  by_cases hj : j = i
  · subst hj
    obtain rfl : c = d := Option.some.inj (hc.symm.trans hd)
    refine ⟨d', List.getElem?_set_self (List.getElem?_eq_some_iff.mp hc).1, ?_⟩
    rw [if_pos rfl]
    exact hgrows
  · refine ⟨c, (List.getElem?_set_ne hj).trans hc, ?_⟩
    rw [if_neg hj]
    exact .refl c

theorem thread_grows (c : WebSockClient) (t : ClientThread) :
    c.Grows { c with thread := t } [] := (WebSockClient.Step.thread c t).grows

/-- A step that changes a client, but sends nothing. -/
theorem quiet_set (hc : s.clients[i]? = some c) (hd : s.clients[j]? = some d)
    (hgrows : d.Grows d' []) (hclients : s'.clients = s.clients.set j d')
    (hsender : s'.sender = s.sender) (hresult : sendResult i e s = [])
    (hpacket : e.packet? = none) : ∃ c', s'.clients[i]? = some c' ∧ SendCase i e s s' c c' := by
  obtain ⟨c', hc', hgrows'⟩ := set_grows hc hd hgrows
  rw [ite_self] at hgrows'
  refine ⟨c', hclients ▸ hc', .quiet hgrows' hresult ?_⟩
  rw [hsender, hpacket]
  exact (List.append_nil _).symm

/-- A client is either the current one or one of those behind it. -/
theorem Listed.notMem_pending (h : s.Listed) {client : ℕ} {pending : List ℕ}
    (hsender : s.sender.clients = client :: pending) : client ∉ pending := by
  have hnodup := h.nodup.sublist h.sending.sublist
  rw [hsender] at hnodup
  exact (List.nodup_cons.mp hnodup).1

/-- A piece that a socket takes, of header or payload. -/
theorem sendCase_piece {bytes : ℤ} {rest : List UInt8} {client : ℕ}
    (hc : s.clients[i]? = some c) (hd : s.clients[client]? = some d)
    (hsend : d.CanSend rest bytes) (hbytes : 0 < bytes)
    (hresult : sendResult i (.sendFrame bytes) s = if client = i then [bytes] else [])
    (hclients : s'.clients = s.clients.set client (d.write .frame (rest.take bytes.toNat)))
    (hsent : (if client = i then rest.take bytes.toNat else []) ++ s'.sender.remaining i =
      s.sender.remaining i) :
    ∃ c', s'.clients[i]? = some c' ∧ SendCase i (.sendFrame bytes) s s' c c' := by
  obtain ⟨c', hc', hgrows⟩ := set_grows hc hd (d.grows_write (rest.take bytes.toNat))
  refine ⟨c', hclients ▸ hc', .sends _ hgrows ?_ ?_ ?_ ?_⟩
  · rw [hresult]
    split_ifs
    · have hle := hsend.1
      simp only [List.length_take, List.map_singleton, List.sum_singleton]
      omega
    · rfl
  · intro r hr
    rw [hresult] at hr
    split_ifs at hr
    · rw [List.mem_singleton] at hr
      exact hr ▸ hbytes
    · cases hr
  · intro hshut
    rw [hresult]
    refine if_neg fun hi => ?_
    subst hi
    obtain rfl : c = d := Option.some.inj (hc.symm.trans hd)
    have hopen := hsend.shut_eq_false (Int.not_le.mpr hbytes)
    rw [hshut] at hopen
    cases hopen
  · exact hsent.trans (List.append_nil _).symm

/-- A call that fails, for the client or for another one. -/
theorem sendCase_failed {bytes : ℤ} {client : ℕ} (hc : s.clients[i]? = some c)
    (hd : s.clients[client]? = some d) (hbytes : bytes ≤ 0)
    (hresult : sendResult i (.sendFrame bytes) s = if client = i then [bytes] else [])
    (hclients : s'.clients = s.clients.set client { d with shut := true })
    (hothers : client ≠ i → s'.sender.remaining i = s.sender.remaining i) :
    ∃ c', s'.clients[i]? = some c' ∧ SendCase i (.sendFrame bytes) s s' c c' := by
  have hshut : d.Grows { d with shut := true } [] := (WebSockClient.Step.shut d).grows
  by_cases hclient : client = i
  · subst hclient
    obtain rfl : c = d := Option.some.inj (hc.symm.trans hd)
    refine ⟨{ c with shut := true }, ?_, .fails bytes hshut rfl hbytes (hresult.trans (if_pos rfl))⟩
    rw [hclients]
    exact List.getElem?_set_self (List.getElem?_eq_some_iff.mp hc).1
  · obtain ⟨c', hc', hgrows⟩ := set_grows hc hd hshut
    rw [ite_self] at hgrows
    refine ⟨c', hclients ▸ hc', .quiet hgrows (hresult.trans (if_neg hclient)) ?_⟩
    exact (hothers hclient).trans (List.append_nil _).symm

/-- **What a step means for a connected client.** -/
theorem send_step (hs : s.Listed) (hi : s.Connected i)
    (hsizes : ∀ p, e.packet? = some p → 1 ≤ p.length ∧ p.length ≤ maxTcpSize)
    (h : step e s = some s') (hc : s.clients[i]? = some c) :
    ∃ c', s'.clients[i]? = some c' ∧ SendCase i e s s' c c' := by
  have hnothing : s.sender.remaining i = s.sender.remaining i ++ [] := (List.append_nil _).symm
  cases step_cases h with
  | accept hserver =>
      have hlt := (List.getElem?_eq_some_iff.mp hc).1
      exact ⟨c, (List.getElem?_append_left hlt).trans hc, .quiet (.refl c) rfl hnothing⟩
  | acceptFails hserver => exact ⟨c, hc, .quiet (.refl c) rfl hnothing⟩
  | push hserver hfree => exact ⟨c, hc, .quiet (.refl c) rfl hnothing⟩
  | announce hserver => exact ⟨c, hc, .quiet (.refl c) rfl hnothing⟩
  | newClient hserver hd hclient =>
      have hresult : sendResult i e s = [] := by cases hclient <;> rfl
      have hpacket : e.packet? = none := by cases hclient <;> rfl
      exact quiet_set hc hd (hclient.step _).grows rfl rfl hresult hpacket
  | @spawn client hserver =>
      cases hd : s.clients[client]? with
      | none =>
          have hsame : s.clients.modify client (fun c => { c with thread := .receiving }) =
              s.clients := List.modify_eq_self (by simpa using hd)
          exact ⟨c, (congrArg (·[i]?) hsame).trans hc, .quiet (.refl c) rfl hnothing⟩
      | some d =>
          exact quiet_set hc hd (thread_grows d _) (KeyedList.modify_eq_set hd _) rfl rfl rfl
  | @refused packet hidle hrefused =>
      obtain ⟨hpos, hle⟩ := hsizes packet rfl
      rcases hrefused with hoff | hempty | hlarge
      · exact absurd hi.1 (by simp [hoff])
      · omega
      · omega
  | @sendOscPacket packet hidle haccepted =>
      refine ⟨c, hc, .quiet (.refl c) rfl ?_⟩
      rw [hidle]
      exact (List.append_nil _).symm
  | @lock packet hsender =>
      refine ⟨c, hc, .quiet (.refl c) rfl ?_⟩
      rw [nextClient_remaining, if_pos hi.2, hsender]
      exact (List.append_nil _).symm
  | @sendFails bytes packet rest client pending d hsender hd hbytes =>
      have hresult := sendResult_of_sender hsender i bytes
      refine sendCase_failed hc hd hbytes hresult rfl fun hclient => ?_
      rw [nextClient_remaining]
      rcases hsender with hsender | hsender
      · simp [hsender, SendThread.remaining, hclient]
      · simp [hsender, SendThread.remaining, hclient]
  | @header bytes packet rest client pending d hsender hd hsend hbytes =>
      have hresult := sendResult_of_sender (.inl hsender) i bytes
      refine sendCase_piece hc hd hsend hbytes hresult rfl ?_
      by_cases hclient : client = i
      · subst hclient
        rw [if_pos rfl, header_remaining, hsender]
      · rw [if_neg hclient, hsender]
        split_ifs <;> simp [SendThread.remaining, hclient]
  | @payload bytes packet rest client pending d hsender hd hsend hbytes =>
      have hresult := sendResult_of_sender (.inr hsender) i bytes
      refine sendCase_piece hc hd hsend hbytes hresult rfl ?_
      by_cases hclient : client = i
      · subst hclient
        have hpending := hs.notMem_pending (congrArg SendThread.clients hsender)
        rw [if_pos rfl, payload_remaining _ _ _ hpending, hsender]
      · rw [if_neg hclient, hsender]
        split_ifs
        · rw [nextClient_remaining]
          simp [SendThread.remaining, hclient]
        · simp [SendThread.remaining, hclient]
  | clientRecv client => exact ⟨c, hc, .quiet (.refl c) rfl hnothing⟩
  | clientEnds hd => exact quiet_set hc hd (thread_grows _ _) rfl rfl rfl rfl
  | clientLeaves hd hthread hfree => exact quiet_set hc hd (thread_grows _ _) rfl rfl rfl rfl

/-! ## Runs -/

/-- The client is connected from the beginning of a run to its end. -/
def ConnectedThroughout (i : ℕ) (es : List WebSockEvent) (s : WebSockSender) : Prop :=
  ∀ pre t, pre <+: es → threads.run pre s = some t → t.Connected i

theorem ConnectedThroughout.tail {es : List WebSockEvent}
    (h : ConnectedThroughout i (e :: es) s) (hstep : step e s = some s') :
    ConnectedThroughout i es s' :=
  ((Machine.forall_run_prefix_cons (M := threads) hstep).mp h).2

/-- A client stays connected until its own thread takes it off the list. -/
theorem Connected.step (h : s.Connected i) (he : e ≠ .clientLeaves i)
    (hstep : step e s = some s') : s'.Connected i := by
  cases step_cases hstep with
  | push hserver hfree => exact ⟨h.1, List.mem_append_left _ h.2⟩
  | announce hserver => exact ⟨rfl, h.2⟩
  | @clientLeaves client d hd hthread hfree =>
      have hne : i ≠ client := fun heq => he (heq ▸ rfl)
      have hmem : i ∈ s.tcpClientList.filter fun other => other ≠ client :=
        List.mem_filter.mpr ⟨h.2, by simpa using hne⟩
      refine ⟨?_, hmem⟩
      rw [if_neg fun hlength => List.ne_nil_of_mem hmem (List.length_eq_zero_iff.mp hlength)]
      exact h.1
  | _ => exact h

theorem Connected.throughout (h : s.Connected i) {es : List WebSockEvent}
    (hes : .clientLeaves i ∉ es) : ConnectedThroughout i es s := by
  intro pre t hpre hrun
  have hstay : ∀ e ∈ pre, e ≠ .clientLeaves i := by
    intro e he heq
    exact hes (heq ▸ hpre.subset he)
  exact Machine.run_invariant_of (I := fun s => s.Connected i) (A := (· ≠ .clientLeaves i))
    (fun e s s' he hs hstep => hs.step he hstep) hstay h hrun

/-- What a run sends to a client, by induction on the run. -/
theorem send_run {es : List WebSockEvent} (hs : s.Listed) (hi : ConnectedThroughout i es s)
    (hsizes : ∀ p ∈ packetsOf es, 1 ≤ p.length ∧ p.length ≤ maxTcpSize)
    (hrun : threads.run es s = some s') (hc : s.clients[i]? = some c) :
    ∃ c' sent, s'.clients[i]? = some c' ∧ c.Grows c' sent ∧
      Sends (s.sender.remaining i) ((packetsOf es).flatMap oscFrame) (s'.sender.remaining i) sent
        (sendResults i es s) ∧
      (c.shut = true → ∀ r ∈ sendResults i es s, r ≤ 0) := by
  induction es generalizing s c with
  | nil =>
      obtain rfl : s = s' := by simpa using hrun
      exact ⟨c, [], hc, .refl c, .nil _, fun _ => nofun⟩
  | cons e es ih =>
      rw [Machine.run_cons, Option.bind_eq_some_iff] at hrun
      obtain ⟨t, hstep, hrun⟩ := hrun
      have hpackets : packetsOf (e :: es) = e.packet?.toList ++ packetsOf es := by
        rw [packetsOf, List.filterMap_cons]
        cases e.packet? <;> rfl
      have hresults : sendResults i (e :: es) s = sendResult i e s ++ sendResults i es t := by
        rw [sendResults, show step e s = some t from hstep]
        rfl
      rw [hpackets] at hsizes
      obtain ⟨d, hd, hcase⟩ := send_step hs (hi [] s List.nil_prefix rfl)
        (fun p hp => hsizes p (List.mem_append_left _ (by simp [hp]))) hstep hc
      obtain ⟨c', sent, hc', hgrows, hsends, hshut⟩ := ih (hs.step hstep) (hi.tail hstep)
        (fun p hp => hsizes p (List.mem_append_right _ hp)) hrun hd
      rw [hpackets, hresults, List.flatMap_append]
      cases hcase with
      | sends piece hpiece hlength hpos hopen hsent =>
          refine ⟨c', piece ++ sent, hc', hpiece.trans hgrows, hsends.append hsent hlength hpos,
            fun h => ?_⟩
          rw [hopen h]
          exact hshut (hpiece.shut h)
      | fails r hpiece hdshut hr hresult =>
          -- the socket is shut from here on, and takes nothing any more
          have hall : ∀ q ∈ r :: sendResults i es t, q ≤ 0 := by
            intro q hq
            rcases List.mem_cons.mp hq with rfl | hq
            · exact hr
            · exact hshut hdshut q hq
          have hnone : sent = [] := by
            have hlength := hsends.length_sent
            rw [sum_toNat_eq_zero (hshut hdshut)] at hlength
            exact List.eq_nil_of_length_eq_zero hlength
          subst hnone
          rw [hresult]
          exact ⟨c', [], hc', hpiece.trans hgrows, .failed _ _ _ (List.cons_ne_nil _ _) hall,
            fun _ => hall⟩

end WebSockSender

/-! ## Clients that stay connected -/

/-- A client, and a run through which it is connected. The run begins, after any history,
between two calls of `sendOscPacket`, and passes packets to it that it does not refuse. -/
structure SendRun where
  client : ℕ
  history : List WebSockEvent
  events : List WebSockEvent
  start : WebSockSender
  stop : WebSockSender
  reached : WebSockSender.threads.run history .new = some start
  run : WebSockSender.threads.run events start = some stop
  idle : start.sender = .idle
  connected : WebSockSender.ConnectedThroughout client events start
  sizes : ∀ p ∈ packetsOf events, 1 ≤ p.length ∧ p.length ≤ 65536

namespace SendRun

/-- What the socket of the client has got by a state, of the kind that the sending loop writes. -/
def frames (R : SendRun) (s : WebSockSender) : List UInt8 :=
  (s.clients[R.client]?).elim [] fun c => frameBytes c.written

/-- The bytes of frames that the run has delivered to the client. -/
def delivered (R : SendRun) : List UInt8 := (R.frames R.stop).drop (R.frames R.start).length

def packets (R : SendRun) : List (List UInt8) := packetsOf R.events

/-- The frames of the packets, one after the other. -/
def stream (R : SendRun) : List UInt8 := R.packets.flatMap oscFrame

/-- The results of the `send` calls made for the client. -/
def results (R : SendRun) : List ℤ := WebSockSender.sendResults R.client R.events R.start

/-- All calls of `sendOscPacket` have returned. -/
def Returned (R : SendRun) : Prop := R.stop.sender = .idle

theorem spec (R : SendRun) : ∃ c c', R.start.clients[R.client]? = some c ∧
    R.stop.clients[R.client]? = some c' ∧ c.Grows c' R.delivered ∧
    Sends [] R.stream (R.stop.sender.remaining R.client) R.delivered R.results := by
  have hs := WebSockSender.listed_of_run R.reached
  have hi := R.connected [] R.start List.nil_prefix rfl
  obtain ⟨c, hc⟩ : ∃ c, R.start.clients[R.client]? = some c :=
    ⟨_, List.getElem?_eq_getElem (hs.accepted _ hi.2)⟩
  obtain ⟨c', sent, hc', hgrows, hsends, -⟩ :=
    WebSockSender.send_run hs R.connected R.sizes R.run hc
  have hdelivered : R.delivered = sent := by
    rw [delivered, frames, frames, hc, hc', Option.elim_some, Option.elim_some, hgrows.frames]
    exact List.drop_left
  rw [R.idle] at hsends
  rw [hdelivered]
  exact ⟨c, c', hc, hc', hgrows, hsends⟩

end SendRun

/-- **What a client gets.** A client that is connected throughout gets a prefix of the frames
of the packets, and all of them if none of its sends failed; they decode to the packets, as
whole unmasked binary messages. What it gets is decided by the answers of its own socket:
runs with the same packets and the same answers, whatever happens to other clients, deliver
the same. -/
theorem sendOscPacket_roundTrip (R : SendRun) :
    R.frames R.stop = R.frames R.start ++ R.delivered ∧
    R.delivered <+: R.stream ∧
    (R.Returned → (∀ r ∈ R.results, 0 < r) → R.delivered = R.stream) ∧
    decodeFrames R.stream = some (R.packets.map binaryFrame) ∧
    (∀ c c', R.start.clients[R.client]? = some c → R.stop.clients[R.client]? = some c' →
      c.HandshakeOver → c'.written = c.written ++ R.delivered.map (Origin.frame, ·)) ∧
    ∀ R' : SendRun, R'.packets = R.packets → R.Returned → R'.Returned →
      R.results <+: R'.results → R'.delivered = R.delivered := by
  obtain ⟨c, c', hc, hc', hgrows, hsends⟩ := R.spec
  refine ⟨?_, ?_, fun hreturned hpos => ?_, ?_, fun d d' hd hd' hover => ?_, ?_⟩
  · rw [SendRun.frames, SendRun.frames, hc, hc', Option.elim_some, Option.elim_some,
      hgrows.frames]
  · exact hsends.sent_prefix
  · have hwhole := hsends.whole hpos
    rw [show R.stop.sender = .idle from hreturned] at hwhole
    simpa [SendThread.remaining] using hwhole
  · exact decodeFrames_oscFrame fun p hp => (R.sizes p hp).2
  · obtain rfl : c = d := Option.some.inj (hc.symm.trans hd)
    obtain rfl : c' = d' := Option.some.inj (hc'.symm.trans hd')
    exact (hgrows.handshakeOver hover).2
  · intro R' hpackets hreturned hreturned' hresults
    obtain ⟨-, -, -, -, -, hsends'⟩ := R'.spec
    rw [show R.stop.sender = .idle from hreturned] at hsends
    rw [show R'.stop.sender = .idle from hreturned',
      show R'.stream = R.stream from congrArg (List.flatMap oscFrame) hpackets] at hsends'
    exact hsends.eq_of_prefix hsends' hresults

/-- The request of a client, and the reply to it. -/
def sampleRequest : List UInt8 :=
  ascii "Upgrade: websocket\r\nSec-WebSocket-Key: dGhlIHNhbXBsZSBub25jZQ==\r\n\r\n"

def sampleReply : List UInt8 :=
  ascii "HTTP/1.1 101 Switching Protocols\r\nUpgrade: websocket\r\nConnection: Upgrade\r\n" ++
    ascii "Access-Control-Allow-Origin: *\r\n" ++
    ascii "Sec-WebSocket-Accept: s3pPLMBiTxaQ9kYGzzhZRbK+xOo=\r\n\r\n"

/-- Two clients; the first has taken its whole reply, and the second has sent nothing. -/
def answeredSender : WebSockSender where
  clients := [
    { request := sampleRequest
      handshake := .replied
      shut := false
      written := sampleReply.map (Origin.reply, ·)
      thread := .receiving },
    { WebSockClient.accepted with handshake := .recvFailed, thread := .receiving }]
  tcpClientList := [0, 1]
  connected := true
  server := .accept
  sender := .idle

/-- The first client takes its frame in three pieces, and the second one fails. -/
def failingNeighbour : SendRun where
  client := 0
  history := [.accept, .push, .announce] ++ sampleRequest.map .recv ++
    [.sendReply 100, .sendReply 61, .spawn, .accept, .push, .announce, .recvFails, .spawn]
  events := [.sendOscPacket [1, 2, 3], .lock, .sendFrame 1, .sendFrame 1, .sendFrame 3,
    .sendFrame (-1)]
  start := answeredSender
  stop := _
  reached := by decide +kernel
  run := rfl
  idle := rfl
  connected := WebSockSender.Connected.throughout ⟨rfl, List.mem_cons_self⟩ (by simp)
  sizes := by simp [packetsOf, WebSockEvent.packet?]

theorem sendOscPacket_roundTrip_failingNeighbour :
    failingNeighbour.delivered = [0x82, 3, 1, 2, 3] ∧
    decodeFrames failingNeighbour.delivered = some [binaryFrame [1, 2, 3]] ∧
    ∃ c', failingNeighbour.stop.clients[0]? = some c' ∧
      c'.written = sampleReply.map (Origin.reply, ·) ++
        [0x82, 3, 1, 2, 3].map (Origin.frame, ·) := by
  obtain ⟨-, -, hwhole, hdecode, hwritten, -⟩ := sendOscPacket_roundTrip failingNeighbour
  have hdelivered : failingNeighbour.delivered = failingNeighbour.stream :=
    hwhole rfl (by decide)
  have hover : (answeredSender.clients.head (List.cons_ne_nil _ _)).HandshakeOver :=
    ⟨nofun, fun _ => nofun⟩
  have hreply := hwritten _ _ rfl rfl hover
  rw [hdelivered] at hreply ⊢
  exact ⟨rfl, hdecode, _, rfl, hreply⟩

end Sur40
