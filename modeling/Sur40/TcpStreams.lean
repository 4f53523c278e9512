import Sur40.TcpConnections

/-!
# The streams of the TCP sender

What is written to a client is the packets that were sent since the client came on the list, each
behind its size: the mutex keeps the list as it is while a packet goes out, and the loop goes on
with the rest of a packet of which `send` has taken a part only. A client to which a packet did
not get through is shut down, and gets nothing any more.

## Main definitions

* `TcpSender.remaining`: what the loop still has to write to a client.
* `TcpClient.Gets`: what was written, and what is still to be written.
* `TcpSender.Streams`: the invariant.
* `TcpSender.tcp_streams`: a client reads the packets that were sent while it was on the list.
-/

namespace Sur40

open Devlib

/-- The packet that `sendOscPacket` is about to send. -/
def TcpSendThread.waiting : TcpSendThread → List (List UInt8)
  | .lock packet => [packet]
  | _ => []

/-- What the loop still has to write to a socket of the list. -/
def TcpSendThread.rest (socket : ℕ) : TcpSendThread → List UInt8
  | .idle | .lock _ => []
  | .sending packet current rest pending =>
      if socket = current then rest else if socket ∈ pending then tcpRecord packet else []

theorem TcpSendThread.rest_of_unlocked {t : TcpSendThread} (h : t.unlocked = true) (socket : ℕ) :
    t.rest socket = [] := by
  cases t with
  | idle => rfl
  | lock packet => rfl
  | sending packet current rest pending => cases h

theorem nextSocket_rest (packet : List UInt8) (sockets : List ℕ) (socket : ℕ) :
    (nextSocket packet sockets).rest socket =
      if socket ∈ sockets then tcpRecord packet else [] := by
  cases sockets with
  | nil => rfl
  | cons current pending =>
      simp only [nextSocket, TcpSendThread.rest, List.mem_cons]
      split_ifs with hcurrent hor hor
      all_goals first | rfl | (exfalso; tauto)

theorem nextSocket_waiting (packet : List UInt8) (sockets : List ℕ) :
    (nextSocket packet sockets).waiting = [] := by
  cases sockets <;> rfl

/-- `rest` is what is still to be written. A client that was shut down gets nothing any more. -/
structure TcpClient.Gets (c : TcpClient) (rest : List UInt8) : Prop where
  written_part : c.written <+: c.packets.flatMap tcpRecord
  whole : c.shut = false → c.written ++ rest = c.packets.flatMap tcpRecord

namespace TcpSender

variable {s s' : TcpSender} {e : TcpEvent}

/-- What the loop has still to send to a client. -/
def remaining (s : TcpSender) (i : ℕ) : List UInt8 :=
  if (s.clients i).phase.onList then s.sender.rest (s.clients i).socket else []

/-- What the clients have got is a stretch of what was sent, up to what remains. -/
structure Streams (s : TcpSender) : Prop where
  gets : ∀ i, (s.clients i).Gets (s.remaining i)
  accepted : ∀ i, (s.clients i).phase = .accepted → (s.clients i).packets = []
  stretch : ∀ i, (s.clients i).packets <:+: s.sent
  current : ∀ i, (s.clients i).phase.onList = true → (s.clients i).packets <:+ s.sent
  unconnected : s.connected = false → ∀ i, (s.clients i).phase.onList = true →
    s.server = .announce i
  sizes : ∀ packet ∈ s.sent ++ s.sender.waiting, packet.length ≤ maxTcpSize

/-! ## One client -/

theorem remaining_of_unlocked (h : s.sender.unlocked = true) (i : ℕ) : s.remaining i = [] := by
  rw [remaining, TcpSendThread.rest_of_unlocked h, ite_self]

end TcpSender

namespace TcpClient

variable {c c' : TcpClient} {rest rest' : List UInt8}

theorem Gets.of_whole (h : c.written ++ rest = c.packets.flatMap tcpRecord) : c.Gets rest :=
  ⟨⟨rest, h⟩, fun _ => h⟩

/-- What a step leaves of a client that it does not send to. -/
structure Keeps (c c' : TcpClient) : Prop where
  socket : c'.socket = c.socket
  written : c'.written = c.written
  packets : c'.packets = c.packets
  shut : c'.shut = false → c.shut = false

theorem Keeps.refl (c : TcpClient) : c.Keeps c := ⟨rfl, rfl, rfl, id⟩

theorem Gets.of_keeps (h : c.Gets rest) (hkeeps : c.Keeps c') : c'.Gets rest := by
  refine ⟨?_, fun hshut => ?_⟩
  · rw [hkeeps.written, hkeeps.packets]
    exact h.written_part
  · rw [hkeeps.written, hkeeps.packets]
    exact h.whole (hkeeps.shut hshut)

/-- `send` takes a part of the rest. -/
theorem Gets.write (h : c.Gets rest) (hshut : c.shut = false) (n : ℕ) :
    Gets { c with written := c.written ++ rest.take n } (rest.drop n) := by
  apply Gets.of_whole
  rw [List.append_assoc, List.take_append_drop]
  exact h.whole hshut

theorem Gets.shutDown (h : c.Gets rest) (rest' : List UInt8) :
    Gets { c with shut := true } rest' :=
  ⟨h.written_part, nofun⟩

/-- The loop begins with a packet. -/
theorem Gets.addPacket (h : c.Gets []) {packet : List UInt8} (hon : c.phase.onList = true) :
    (c.addPacket packet).Gets (tcpRecord packet) := by
  rw [TcpClient.addPacket, if_pos hon]
  refine ⟨?_, fun hshut => ?_⟩
  · rw [List.flatMap_append]
    exact h.written_part.trans (List.prefix_append _ _)
  · have hwhole := h.whole hshut
    rw [List.append_nil] at hwhole
    rw [List.flatMap_append, List.flatMap_singleton, hwhole]

end TcpClient

/-! ## One step -/

namespace TcpSender

variable {s s' : TcpSender} {e : TcpEvent}

namespace Sound

/-- The client that the loop sends to is on the list. -/
theorem onList_of_sending (h : Sound s) {client : ℕ} {packet rest : List UInt8} {pending : List ℕ}
    (hsender : s.sender = .sending packet (s.clients client).socket rest pending)
    (hlive : (s.clients client).phase.live = true) : (s.clients client).phase.onList = true := by
  have hsending := h.sending
  rw [hsender] at hsending
  rcases (h.mem_list _).mp (hsending.mem List.mem_cons_self) with ⟨i, hon, hsocket⟩
  rw [← h.distinct i client (TcpClientPhase.live_of_onList hon) hlive hsocket]
  exact hon

theorem remaining_of_sending (h : Sound s) {client : ℕ} {packet rest : List UInt8}
    {pending : List ℕ} (hsender : s.sender = .sending packet (s.clients client).socket rest pending)
    (hlive : (s.clients client).phase.live = true) : s.remaining client = rest := by
  rw [remaining, if_pos (h.onList_of_sending hsender hlive), hsender, TcpSendThread.rest,
    if_pos rfl]

/-- The loop comes to a socket only once. -/
theorem not_mem_pending (h : Sound s) {packet rest : List UInt8} {socket : ℕ} {pending : List ℕ}
    (hsender : s.sender = .sending packet socket rest pending) : socket ∉ pending := by
  have hsending := h.sending
  rw [hsender] at hsending
  exact (List.nodup_cons.mp (h.nodup.sublist hsending.sublist)).1

end Sound

namespace Streams

/-- A step that sends nothing. -/
theorem of_keeps (h : Streams s) (hkeeps : ∀ i, (s.clients i).Keeps (s'.clients i))
    (hremaining : ∀ i, s'.remaining i = s.remaining i) (hsent : s'.sent = s.sent)
    (hwaiting : s'.sender.waiting = s.sender.waiting)
    (haccepted : ∀ i, (s'.clients i).phase = .accepted → (s.clients i).packets = [])
    (hcurrent : ∀ i, (s'.clients i).phase.onList = true → (s.clients i).packets <:+ s.sent)
    (hunconnected : s'.connected = false → ∀ i, (s'.clients i).phase.onList = true →
      s'.server = .announce i) : Streams s' where
  gets i := by
    rw [hremaining]
    exact (h.gets i).of_keeps (hkeeps i)
  accepted i hphase := (hkeeps i).packets.trans (haccepted i hphase)
  stretch i := by
    rw [(hkeeps i).packets, hsent]
    exact h.stretch i
  current i hon := by
    rw [(hkeeps i).packets, hsent]
    exact hcurrent i hon
  unconnected := hunconnected
  sizes := by
    rw [hsent, hwaiting]
    exact h.sizes

/-- A step that changes neither the list nor what the loop does. -/
theorem of_same (h : Streams s) (hkeeps : ∀ i, (s.clients i).Keeps (s'.clients i))
    (honList : ∀ i, (s'.clients i).phase.onList = (s.clients i).phase.onList)
    (haccepted : ∀ i, (s'.clients i).phase = .accepted → (s.clients i).phase = .accepted)
    (hsender : s'.sender = s.sender) (hsent : s'.sent = s.sent)
    (hunconnected : s'.connected = false → ∀ i, (s.clients i).phase.onList = true →
      s'.server = .announce i) : Streams s' := by
  apply h.of_keeps hkeeps
  · intro i
    rw [remaining, remaining, honList, (hkeeps i).socket, hsender]
  · exact hsent
  · rw [hsender]
  · intro i hphase
    exact h.accepted i (haccepted i hphase)
  · intro i hon
    exact h.current i ((honList i).symm.trans hon)
  · intro hconnected i hon
    exact hunconnected hconnected i ((honList i).symm.trans hon)

end Streams

theorem setPhase_keeps (client i : ℕ) (p : TcpClientPhase) :
    (s.clients i).Keeps ((s.setPhase client p).clients i) := by
  by_cases hi : i = client
  · rw [hi, setPhase, setClient_self]
    exact ⟨rfl, rfl, rfl, id⟩
  · rw [setPhase, setClient_of_ne hi]
    exact .refl _

namespace Streams

/-- The thread of a client changes, but not whether the client is on the list. -/
theorem setPhase (h : Streams s) {client : ℕ} {p : TcpClientPhase}
    (hon : p.onList = (s.clients client).phase.onList) (hp : p ≠ .accepted) :
    Streams (s.setPhase client p) := by
  apply h.of_same (fun i => setPhase_keeps client i p) (setPhase_congr _ hon)
  · intro i hphase
    rw [setPhase_phase] at hphase
    split_ifs at hphase with hi
    · exact absurd hphase hp
    · exact hphase
  · rfl
  · rfl
  · exact h.unconnected

/-- The server thread goes on, and puts no client on the list. -/
theorem setServer (h : Streams s) (server : TcpServerThread) (connected : Bool)
    (hunconnected : connected = false → ∀ i, (s.clients i).phase.onList = true →
      server = .announce i) : Streams { s with server, connected } :=
  h.of_same (fun _ => .refl _) (fun _ => rfl) (fun _ hphase => hphase) rfl rfl hunconnected

theorem does (h : Streams s) (ops : List (Ledger.Op TcpResource)) : Streams (s.does ops) :=
  h.of_same (fun _ => .refl _) (fun _ => rfl) (fun _ hphase => hphase) rfl rfl h.unconnected

theorem setDestructor (h : Streams s) (destructor : TcpDestructor) (tcpSocket : ℕ) :
    Streams { s with destructor, tcpSocket } :=
  h.of_same (fun _ => .refl _) (fun _ => rfl) (fun _ hphase => hphase) rfl rfl h.unconnected

/-- Nobody is on the list of a sender that is not connected and announces nobody. -/
theorem connected_of_onList (h : Streams s) {i : ℕ} (hon : (s.clients i).phase.onList = true)
    (hserver : s.server ≠ .announce i) : s.connected = true := by
  by_contra hne
  exact hserver (h.unconnected (Bool.eq_false_iff.mpr hne) i hon)

/-! ### The list -/

/-- A new client, which is not on the list yet. -/
theorem of_new (h : Streams s) {new socket : ℕ} (hserver : s.server = .accept)
    (hself : s'.clients new = { TcpClient.absent with socket, phase := .accepted })
    (hother : ∀ i, i ≠ new → s'.clients i = s.clients i) (hsender : s'.sender = s.sender)
    (hsent : s'.sent = s.sent) (hconnected : s'.connected = s.connected) : Streams s' := by
  have hnot : (s'.clients new).phase.onList ≠ true := by
    rw [hself]
    exact Bool.false_ne_true
  constructor
  · intro i
    by_cases hi : i = new
    · rw [remaining, if_neg (hi ▸ hnot), hi, hself]
      exact .of_whole rfl
    · rw [remaining, hother i hi, hsender]
      exact h.gets i
  · intro i hphase
    by_cases hi : i = new
    · rw [hi, hself]
      rfl
    · rw [hother i hi] at hphase ⊢
      exact h.accepted i hphase
  · intro i
    rw [hsent]
    by_cases hi : i = new
    · rw [hi, hself]
      exact List.nil_infix
    · rw [hother i hi]
      exact h.stretch i
  · intro i hon
    have hi : i ≠ new := fun heq => hnot (heq ▸ hon)
    rw [hother i hi] at hon ⊢
    rw [hsent]
    exact h.current i hon
  · intro hfalse i hon
    have hi : i ≠ new := fun heq => hnot (heq ▸ hon)
    rw [hother i hi] at hon
    have hannounce := h.unconnected (hconnected.symm.trans hfalse) i hon
    rw [hserver] at hannounce
    cases hannounce
  · rw [hsent, hsender]
    exact h.sizes

/-- A client that comes on the list has missed what was sent before. -/
theorem push (h : Streams s) (hsound : Sound s) {client : ℕ} (hserver : s.server = .push client)
    (hfree : s.sender.unlocked = true) :
    Streams { s.setPhase client .listed with
      tcpClientList := s.tcpClientList ++ [(s.clients client).socket]
      server := .announce client } := by
  have hphase := (hsound.accepted_iff client).mpr hserver
  have hnone : ∀ i, (s.clients i).phase.onList = true → s.connected = true :=
    fun i hon => h.connected_of_onList hon (by simp [hserver])
  refine h.of_keeps (fun i => setPhase_keeps client i .listed) (fun i => ?_) rfl rfl
    (fun i hi => ?_) (fun i hon => ?_) fun hconnected i hon => ?_
  · rw [remaining_of_unlocked hfree]
    exact remaining_of_unlocked (by exact hfree) i
  · apply h.accepted i
    by_cases hic : i = client
    · rw [hic, hphase]
    · simpa [hic] using hi
  · by_cases hic : i = client
    · rw [hic, h.accepted client hphase]
      exact List.nil_suffix
    · exact h.current i (by simpa [hic] using hon)
  · by_cases hic : i = client
    · rw [hic]
    · have hon' : (s.clients i).phase.onList = true := by simpa [hic] using hon
      have htrue := hnone i hon'
      rw [show s.connected = false from hconnected] at htrue
      cases htrue

/-- A client that leaves the list keeps what it has. -/
theorem clientLeaves (h : Streams s) (hsound : Sound s) {client : ℕ}
    (hphase : (s.clients client).phase = .leaving) (hfree : s.sender.unlocked = true) :
    Streams { s.setPhase client .closing with
      tcpClientList := s.tcpClientList.filter fun other => other ≠ (s.clients client).socket
      tcpSocket := if (s.clients client).socket = s.tcpSocket then 0 else s.tcpSocket
      connected :=
        if (s.tcpClientList.filter fun other => other ≠ (s.clients client).socket).length = 0
        then false else s.connected } := by
  have hordered := hsound.toOrdered.clientLeaves hphase hfree s.connected
  have honList : ∀ i, ((s.setPhase client .closing).clients i).phase.onList = true →
      (s.clients i).phase.onList = true := by
    intro i hon
    by_cases hic : i = client
    · rw [hic, hphase]
      rfl
    · simpa [hic] using hon
  refine h.of_keeps (fun i => setPhase_keeps client i .closing) (fun i => ?_) rfl rfl
    (fun i hi => ?_) (fun i hon => h.current i (honList i hon)) fun hconnected i hon => ?_
  · rw [remaining_of_unlocked hfree]
    exact remaining_of_unlocked (by exact hfree) i
  · apply h.accepted i
    by_cases hic : i = client
    · simp [hic] at hi
    · simpa [hic] using hi
  · dsimp only at hconnected
    split_ifs at hconnected with hempty
    · have hmem := (hordered.mem_list _).mpr ⟨i, hon, rfl⟩
      rw [List.eq_nil_of_length_eq_zero hempty] at hmem
      cases hmem
    · exact h.unconnected hconnected i (honList i hon)

theorem shutdown (h : Streams s) : Streams s.shutdownAll := by
  refine h.of_same (fun i => ?_) (fun i => congrArg _ (shutdownAll_phase i)) (fun i hi => ?_) rfl
    rfl h.unconnected
  · simp only [shutdownAll]
    split_ifs
    · exact ⟨rfl, rfl, rfl, fun hshut => by cases hshut⟩
    · exact .refl _
  · rwa [shutdownAll_phase] at hi

/-! ### The loop -/

/-- The packet goes to all clients that are on the list now. -/
theorem lock (h : Streams s) (hsound : Sound s) {packet : List UInt8}
    (hsender : s.sender = .lock packet) :
    Streams { s with
      sender := nextSocket packet s.tcpClientList
      sent := s.sent ++ [packet]
      clients := fun i => (s.clients i).addPacket packet } := by
  have hfree : s.sender.unlocked = true := by rw [hsender]; rfl
  have hgets : ∀ i, (s.clients i).Gets [] := by
    intro i
    rw [← remaining_of_unlocked hfree i]
    exact h.gets i
  have hoff : ∀ i, (s.clients i).phase.onList ≠ true →
      (s.clients i).addPacket packet = s.clients i := fun i hon => if_neg hon
  have hpackets : ∀ i, (s.clients i).phase.onList = true →
      ((s.clients i).addPacket packet).packets = (s.clients i).packets ++ [packet] := by
    intro i hon
    rw [TcpClient.addPacket, if_pos hon]
  have hcurrent : ∀ i, (s.clients i).phase.onList = true →
      ((s.clients i).addPacket packet).packets <:+ s.sent ++ [packet] := by
    intro i hon
    rw [hpackets i hon]
    exact (List.suffix_append_inj_of_length_eq rfl).mpr ⟨h.current i hon, rfl⟩
  constructor
  · intro i
    simp only [remaining, TcpClient.addPacket_phase, TcpClient.addPacket_socket, nextSocket_rest]
    by_cases hon : (s.clients i).phase.onList = true
    · rw [if_pos hon, if_pos ((hsound.mem_list _).mpr ⟨i, hon, rfl⟩)]
      exact (hgets i).addPacket hon
    · rw [if_neg hon, hoff i hon]
      exact hgets i
  · intro i hphase
    dsimp only at hphase ⊢
    rw [TcpClient.addPacket_phase] at hphase
    rw [hoff i (by rw [hphase]; exact Bool.false_ne_true)]
    exact h.accepted i hphase
  · intro i
    by_cases hon : (s.clients i).phase.onList = true
    · exact (hcurrent i hon).isInfix
    · dsimp only
      rw [hoff i hon]
      exact (h.stretch i).trans (List.prefix_append _ _).isInfix
  · intro i hon
    exact hcurrent i (by simpa only [TcpClient.addPacket_phase] using hon)
  · intro hconnected i hon
    exact h.unconnected hconnected i (by simpa only [TcpClient.addPacket_phase] using hon)
  · have hsizes := h.sizes
    rw [hsender] at hsizes
    intro p hp
    dsimp only at hp
    rw [nextSocket_waiting, List.append_nil] at hp
    exact hsizes p hp

theorem sendOscPacket (h : Streams s) (hsender : s.sender = .idle) {packet : List UInt8}
    (hsize : packet.length ≤ maxTcpSize) : Streams { s with sender := .lock packet } where
  gets i := by
    have hgets := h.gets i
    rw [remaining_of_unlocked (by rw [hsender]; rfl)] at hgets
    rw [remaining_of_unlocked rfl]
    exact hgets
  accepted := h.accepted
  stretch := h.stretch
  current := h.current
  unconnected := h.unconnected
  sizes p hp := by
    rcases List.mem_append.mp hp with hp | hp
    · exact h.sizes p (List.mem_append_left _ hp)
    · rw [List.mem_singleton.mp hp]
      exact hsize

/-- What the loop does to one client, and how it goes on. -/
theorem send (h : Streams s) (hsound : Sound s) {client : ℕ} {packet rest : List UInt8}
    {pending : List ℕ} (hsender : s.sender = .sending packet (s.clients client).socket rest pending)
    (hlive : (s.clients client).phase.live = true) {c : TcpClient} {sender : TcpSendThread}
    (hphase : c.phase = (s.clients client).phase) (hsocket : c.socket = (s.clients client).socket)
    (hpackets : c.packets = (s.clients client).packets)
    (hgets : c.Gets (sender.rest (s.clients client).socket))
    (hother : ∀ n, n ≠ (s.clients client).socket → sender.rest n = s.sender.rest n)
    (hwaiting : sender.waiting = []) : Streams { s.setClient client c with sender } := by
  have hon := hsound.onList_of_sending hsender hlive
  have hkept : ∀ i, ((s.setClient client c).clients i).phase = (s.clients i).phase ∧
      ((s.setClient client c).clients i).socket = (s.clients i).socket ∧
      ((s.setClient client c).clients i).packets = (s.clients i).packets := by
    intro i
    by_cases hi : i = client
    · rw [hi, setClient_self]
      exact ⟨hphase, hsocket, hpackets⟩
    · rw [setClient_of_ne hi]
      exact ⟨rfl, rfl, rfl⟩
  constructor
  · intro i
    simp only [remaining, (hkept i).1, (hkept i).2.1]
    by_cases hi : i = client
    · rw [hi, setClient_self, if_pos hon]
      exact hgets
    · rw [setClient_of_ne hi]
      have hgets' := h.gets i
      rw [remaining] at hgets'
      split_ifs at hgets' ⊢ with hi'
      · have hne : (s.clients i).socket ≠ (s.clients client).socket := fun heq =>
          hi (hsound.distinct i client (TcpClientPhase.live_of_onList hi') hlive heq)
        rw [hother _ hne]
        exact hgets'
      · exact hgets'
  · intro i hi
    exact (hkept i).2.2.trans (h.accepted i ((hkept i).1.symm.trans hi))
  · intro i
    rw [show _ = (s.clients i).packets from (hkept i).2.2]
    exact h.stretch i
  · intro i hi
    rw [show _ = (s.clients i).packets from (hkept i).2.2]
    exact h.current i (by rwa [← (hkept i).1])
  · intro hconnected i hi
    exact h.unconnected hconnected i (by rwa [← (hkept i).1])
  · intro p hp
    rw [hwaiting, List.append_nil] at hp
    exact h.sizes p (List.mem_append_left _ hp)

end Streams

/-- Every step keeps the streams; that the sockets are told apart comes from `Sound`. -/
theorem Streams.step (h : Streams s) (hsound : Sound s) (hstep : TcpSender.step e s = some s') :
    Streams s' := by
  cases step_cases hstep with
  | accept hserver hdestructor h0 hfree =>
      exact h.of_new hserver (setClient_self ..) (fun i hi => setClient_of_ne hi _) rfl rfl rfl
  | acceptFails hserver =>
      refine (h.does _).setServer .stopped s.connected fun hconnected i hon => ?_
      have hannounce := h.unconnected hconnected i hon
      rw [hserver] at hannounce
      cases hannounce
  | push hserver hfree => exact (h.push hsound hserver hfree).does _
  | @announce client hserver => exact (h.does _).setServer (.spawn client) true nofun
  | @spawn client hserver =>
      have hphase := (hsound.listed_iff client).mpr (Or.inr hserver)
      have hstarts : Streams (s.setPhase client .starting) :=
        h.setPhase (by rw [hphase]; rfl) (by simp)
      have hspawns : Streams { s.setPhase client .starting with server := .accept } := by
        refine hstarts.setServer .accept s.connected fun hconnected i hon => ?_
        have hannounce := hstarts.unconnected hconnected i hon
        rw [setPhase_server, hserver] at hannounce
        cases hannounce
      exact hspawns.does _
  | @clientStarts client hphase =>
      have hstarts : Streams (s.setPhase client .receiving) :=
        h.setPhase (by rw [hphase]; rfl) (by simp)
      exact hstarts.does _
  | clientRecv hphase => exact h.does _
  | @clientEnds client hphase =>
      have hends : Streams (s.setPhase client .leaving) :=
        h.setPhase (by rw [hphase]; rfl) (by simp)
      exact hends.does _
  | clientLeaves hphase hfree => exact (h.clientLeaves hsound hphase hfree).does _
  | @clientCloses client hphase =>
      have hcloses : Streams (s.setPhase client .closed) :=
        h.setPhase (by rw [hphase]; rfl) (by simp)
      exact hcloses.does _
  | refused hsender hdestructor hrefused => exact h.does _
  | sendOscPacket hsender hdestructor haccepted =>
      rw [not_or, not_or, not_lt] at haccepted
      exact (h.sendOscPacket hsender haccepted.2.1).does _
  | lock hsender => exact (h.lock hsound hsender).does _
  | @sendFails client bytes packet rest pending hsender hlive hbytes =>
      have hsend : Streams { s.setClient client { s.clients client with shut := true } with
          sender := nextSocket packet pending } := by
        refine h.send hsound hsender hlive rfl rfl rfl ((h.gets client).shutDown _)
          (fun n hn => ?_) (nextSocket_waiting packet pending)
        rw [nextSocket_rest, hsender, TcpSendThread.rest, if_neg hn]
      exact hsend.does _
  | @send client bytes packet rest pending hsender hlive hshut hbytes hle =>
      have hgets := (h.gets client).write hshut bytes.toNat
      rw [hsound.remaining_of_sending hsender hlive] at hgets
      have hsend : Streams { s.setClient client
            { s.clients client with written := (s.clients client).written ++ rest.take bytes.toNat }
          with
          sender := if rest.drop bytes.toNat = [] then nextSocket packet pending
            else .sending packet (s.clients client).socket (rest.drop bytes.toNat) pending } := by
        refine h.send hsound hsender hlive rfl rfl rfl ?_ (fun n hn => ?_) ?_
        · split_ifs with hwhole
          · rw [nextSocket_rest, if_neg (hsound.not_mem_pending hsender), ← hwhole]
            exact hgets
          · rw [TcpSendThread.rest, if_pos rfl]
            exact hgets
        · rw [hsender, TcpSendThread.rest, if_neg hn]
          by_cases hwhole : rest.drop bytes.toNat = []
          · rw [if_pos hwhole]
            exact nextSocket_rest packet pending n
          · rw [if_neg hwhole, TcpSendThread.rest, if_neg hn]
        · split_ifs
          · exact nextSocket_waiting packet pending
          · rfl
      exact hsend.does _
  | sendAstray hsender hfree => exact absurd hfree (hsound.not_astray hsender)
  | destroy hsender hdestructor => exact h.setDestructor .shutting s.tcpSocket
  | shutdown hdestructor => exact h.shutdown
  | closeSocket hdestructor => exact (h.does _).setDestructor .joining 0
  | join hdestructor hthread => exact (h.does _).setDestructor .waiting s.tcpSocket
  | waits hdestructor hleft => exact h.does _
  | returns hdestructor hempty =>
      exact ((h.does _).does _).setDestructor .returned s.tcpSocket

/-! ## Runs -/

theorem Streams.of_constructed (h : Constructed s) : Streams s := by
  have hpackets : ∀ i, (s.clients i).packets = [] ∧ (s.clients i).written = [] := by
    intro i
    cases h with
    | listen h0 => exact ⟨rfl, rfl⟩
    | @connect socket h0 =>
        by_cases hi : i = 0
        · rw [hi]
          exact ⟨rfl, rfl⟩
        · rw [connect]
          simp [hi, TcpClient.absent]
  have hstart : s.sender = .idle ∧ s.sent = [] ∧ (s.connected = false → ∀ i,
      (s.clients i).phase.onList = false) := by
    cases h with
    | listen h0 => exact ⟨rfl, rfl, fun _ _ => rfl⟩
    | connect h0 => exact ⟨rfl, rfl, fun hfalse => by cases hfalse⟩
  rcases hstart with ⟨hsender, hsent, hconnected⟩
  constructor
  · intro i
    rw [remaining_of_unlocked (by rw [hsender]; rfl)]
    apply TcpClient.Gets.of_whole
    rw [(hpackets i).1, (hpackets i).2]
    rfl
  · intro i _
    exact (hpackets i).1
  · intro i
    rw [(hpackets i).1]
    exact List.nil_infix
  · intro i _
    rw [(hpackets i).1]
    exact List.nil_suffix
  · intro hfalse i hon
    rw [hconnected hfalse i] at hon
    cases hon
  · intro packet hpacket
    rw [hsent, hsender] at hpacket
    cases hpacket

theorem Streams.run (h : Streams s) (hsound : Sound s) {events : List TcpEvent}
    (hrun : tcpSystem.run events s = some s') : Streams s' := by
  have hboth : Streams s' ∧ Sound s' := by
    refine Machine.run_invariant (I := fun t => Streams t ∧ Sound t) (fun e t t' ht hstep => ?_)
      ⟨h, hsound⟩ hrun
    exact ⟨ht.1.step (e := e) ht.2 hstep, ht.2.step (e := e) hstep⟩
  exact hboth.1

/-- The packets of the calls. -/
def calls (events : List TcpEvent) : List (List UInt8) :=
  events.flatMap fun
    | .sendOscPacket packet => [packet]
    | _ => []

theorem sent_step (hstep : TcpSender.step e s = some s') :
    (s'.sent ++ s'.sender.waiting).Sublist (s.sent ++ s.sender.waiting ++ calls [e]) := by
  have hnone : ∀ packets : List (List UInt8), (s.sent ++ []).Sublist (s.sent ++ [] ++ packets) :=
    fun packets => List.sublist_append_left _ _
  cases step_cases hstep with
  | @sendOscPacket packet hsender hdestructor haccepted =>
      have hnone : s.sender.waiting = [] := by rw [hsender]; rfl
      rw [hnone, List.append_nil]
      exact List.Sublist.refl (s.sent ++ [packet])
  | lock hsender =>
      rw [hsender, nextSocket_waiting]
      exact List.Sublist.refl _
  | sendFails hsender hlive hbytes =>
      rw [hsender, nextSocket_waiting]
      exact hnone _
  | @send client bytes packet rest pending hsender hlive hshut hbytes hle =>
      dsimp only
      rw [hsender]
      split_ifs
      · rw [nextSocket_waiting]
        exact hnone _
      · exact hnone _
  | sendAstray hsender hfree =>
      rw [hsender, nextSocket_waiting]
      exact hnone _
  | _ => exact List.sublist_append_left (s.sent ++ s.sender.waiting) _

/-- Packets are sent in the order of the calls. -/
theorem sent_run {events : List TcpEvent} (hrun : tcpSystem.run events s = some s') :
    (s'.sent ++ s'.sender.waiting).Sublist (s.sent ++ s.sender.waiting ++ calls events) := by
  induction events generalizing s with
  | nil =>
      rw [Machine.run_nil, Option.some.injEq] at hrun
      rw [hrun]
      exact List.sublist_append_left _ _
  | cons e events ih =>
      rw [Machine.run_cons, Option.bind_eq_some_iff] at hrun
      rcases hrun with ⟨t, hstep, hrun⟩
      have hfirst := (sent_step (e := e) hstep).append_right (calls events)
      have hcalls : calls (e :: events) = calls [e] ++ calls events := by
        rw [calls, calls, calls, List.flatMap_cons, List.flatMap_singleton]
      rw [hcalls, ← List.append_assoc]
      exact (ih hrun).trans hfirst

/-- What a client reads off its connection: the packets that were sent while it was on the list, in
the order of the calls, none of them twice and none left out in between. A client that was not shut
down has got all of them when no packet is on its way, and one that is on the list misses none of
the last ones. While the sender refuses calls because it is not connected, no client is on the list
but one that the server thread is just about to announce. -/
theorem tcp_streams {s0 : TcpSender} (hstart : Constructed s0) {events : List TcpEvent}
    (hrun : tcpSystem.run events s0 = some s) :
    s.sent.Sublist (calls events) ∧ ∀ i,
      splitRecords 4 (s.clients i).written <+: (s.clients i).packets ∧
      ((s.clients i).shut = false → s.sender.unlocked →
        splitRecords 4 (s.clients i).written = (s.clients i).packets) ∧
      (s.clients i).packets <:+: s.sent ∧
      ((s.clients i).phase.onList → (s.clients i).packets <:+ s.sent) ∧
      (s.connected = false → (s.clients i).phase.onList → s.server = .announce i) := by
  have h := (Streams.of_constructed hstart).run (.of_constructed hstart) hrun
  have hsizes : ∀ i, ∀ packet ∈ (s.clients i).packets, packet.length < 256 ^ 4 := by
    intro i packet hpacket
    have hle := h.sizes packet (List.mem_append_left _ ((h.stretch i).mem hpacket))
    have hmax : maxTcpSize < 256 ^ 4 := by decide
    omega
  refine ⟨?_, fun i => ⟨?_, fun hshut hfree => ?_, h.stretch i, h.current i, fun hfalse =>
    h.unconnected hfalse i⟩⟩
  · have hsent := sent_run hrun
    have hstart' : s0.sent ++ s0.sender.waiting = [] := by cases hstart <;> rfl
    rw [hstart', List.nil_append] at hsent
    exact (List.sublist_append_left _ _).trans hsent
  · exact splitRecords_prefix (hsizes i) (by decide) (h.gets i).written_part
  · have hwhole := (h.gets i).whole hshut
    rw [remaining_of_unlocked hfree, List.append_nil] at hwhole
    rw [hwhole]
    exact splitRecords_records (hsizes i) (by decide)

/-- Two clients; the second takes a part of the second packet, is shut down and leaves. -/
def twoClients : List TcpEvent :=
  [.accept 4, .push, .announce, .spawn, .clientStarts 0, .accept 5, .push, .announce, .spawn,
    .clientStarts 1, .sendOscPacket [1], .lock, .send 0 3, .send 0 2, .send 1 5,
    .sendOscPacket [2, 3], .lock, .send 0 6, .send 1 4, .send 1 (-1), .sendOscPacket [7], .lock,
    .send 0 5, .send 1 (-1), .clientRecv 1 false, .clientLeaves 1, .sendOscPacket [9], .lock,
    .send 0 5]

theorem tcp_streams_twoClients :
    ∃ s, tcpSystem.run twoClients (listen 3) = some s ∧
      s.sent = [[1], [2, 3], [7], [9]] ∧ splitRecords 4 (s.clients 0).written = s.sent ∧
      (s.clients 1).packets = [[1], [2, 3], [7]] ∧ (s.clients 1).packets <:+: s.sent ∧
      splitRecords 4 (s.clients 1).written <+: (s.clients 1).packets := by
  have hrun : ∃ s, tcpSystem.run twoClients (listen 3) = some s ∧
      s.sent = [[1], [2, 3], [7], [9]] ∧ (s.clients 0).packets = s.sent ∧
      (s.clients 1).packets = [[1], [2, 3], [7]] ∧ (s.clients 0).shut = false ∧
      s.sender.unlocked = true := ⟨_, rfl, rfl, rfl, rfl, rfl, rfl⟩
  rcases hrun with ⟨s, hrun, hsent, hfirst, hsecond, hshut, hfree⟩
  rcases tcp_streams (.listen (by decide)) hrun with ⟨-, hclients⟩
  rcases hclients 0 with ⟨-, hwhole, -⟩
  rcases hclients 1 with ⟨hpart, -, hstretch, -⟩
  exact ⟨s, hrun, hsent, (hwhole hshut hfree).trans hfirst, hsecond, hstretch, hpart⟩

end TcpSender

end Sur40
