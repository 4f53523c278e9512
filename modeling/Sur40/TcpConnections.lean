import Sur40.TcpOrder

/-!
# The sockets of the TCP sender

A socket is closed by the thread of its client alone, behind its removal from the list, so that the
sending loop never meets a socket that is closed or that the system has used again. The destructor
waits until the list is empty, so that no thread outlives the memory that it uses.

## Main definitions

* `TcpSender.Owned`: what is open or allocated.
* `TcpSender.Sound`: the invariant.
* `TcpSender.tcp_run`: no thread uses what is closed or freed.
-/

namespace Sur40

open Devlib Ledger

namespace TcpSender

variable {s s' : TcpSender} {e : TcpEvent}

/-! ## The invariant -/

/-- What the threads may use: the sender until it is gone, and the sockets that are open. -/
def Owned (s : TcpSender) : TcpResource → Prop
  | .sender => s.destructor ≠ .returned
  | .socket n => (∃ i, (s.clients i).phase.live = true ∧ (s.clients i).socket = n) ∨
      s.listens = true ∧ s.tcpSocket ≠ 0 ∧ s.tcpSocket = n

/-- The order is kept, and what is held is what may be used. -/
structure Sound (s : TcpSender) : Prop extends Ordered s where
  held : ∃ held, s.held = some held ∧ ∀ r, held r = true ↔ s.Owned r

/-! ## Accesses -/

theorem does_cons (op : Op TcpResource) (ops : List (Op TcpResource)) :
    s.does (op :: ops) = (s.does [op]).does ops := by
  have hrun : run (op :: ops) = fun held => (run [op] held).bind (run ops) :=
    funext fun held => run_append [op] ops held
  rw [does, does, does, hrun, Option.bind_assoc]

/-- What only uses what is held has no effect. -/
theorem Sound.does_eq (h : Sound s) {ops : List (Op TcpResource)}
    (hops : ∀ op ∈ ops, ∃ r, op = .access r ∧ s.Owned r) : s.does ops = s := by
  rcases h.held with ⟨held, hheld, howned⟩
  have huses : Uses held ops := by
    intro op hop
    rcases hops op hop with ⟨r, rfl, hr⟩
    exact ⟨r, rfl, (howned r).mpr hr⟩
  rw [does, hheld, Option.bind_some, huses.run, ← hheld]

theorem Sound.does_sender (h : Sound s) (hsender : s.destructor ≠ .returned) :
    s.does [.access .sender] = s := by
  apply h.does_eq
  intro op hop
  rw [List.mem_singleton.mp hop]
  exact ⟨.sender, rfl, hsender⟩

theorem Sound.does_socket (h : Sound s) {client : ℕ}
    (hlive : (s.clients client).phase.live = true) :
    s.does [.access (.socket (s.clients client).socket)] = s := by
  apply h.does_eq
  intro op hop
  rw [List.mem_singleton.mp hop]
  exact ⟨.socket (s.clients client).socket, rfl, Or.inl ⟨client, hlive, rfl⟩⟩

/-- What does not change what is owned. -/
theorem Sound.of_ordered (h : Sound s) (hordered : Ordered s') (hheld : s'.held = s.held)
    (howned : ∀ r, s'.Owned r ↔ s.Owned r) : Sound s' := by
  rcases h.held with ⟨held, hheld', howned'⟩
  exact ⟨hordered, held, hheld.trans hheld', fun r => (howned' r).trans (howned r).symm⟩

/-- The clients change, but neither their sockets nor whether these are open. -/
theorem owned_clients {clients : ℕ → TcpClient}
    (hlive : ∀ i, (clients i).phase.live = (s.clients i).phase.live)
    (hsocket : ∀ i, (clients i).socket = (s.clients i).socket) (r : TcpResource) :
    Owned { s with clients } r ↔ s.Owned r := by
  cases r with
  | sender => exact Iff.rfl
  | socket n => simp only [Owned, hlive, hsocket]

/-! ## What is open -/

namespace Sound

/-- The phase of a client changes, but not whether its socket is open. -/
theorem owned_setPhase {client : ℕ} {p : TcpClientPhase}
    (hlive : p.live = (s.clients client).phase.live) (r : TcpResource) :
    (s.setPhase client p).Owned r ↔ s.Owned r := by
  exact owned_clients (setPhase_congr _ hlive) (fun i => setPhase_socket client i p) r

/-- Only one client has a socket that is open. -/
theorem owned_socket_of_closes (h : Sound s) {client : ℕ}
    (hphase : (s.clients client).phase = .closing) (n : ℕ) :
    (s.setPhase client .closed).Owned (.socket n) ↔
      n ≠ (s.clients client).socket ∧ s.Owned (.socket n) := by
  have hlive : (s.clients client).phase.live = true := by rw [hphase]; rfl
  have hclosed : ∀ i, ((s.setPhase client .closed).clients i).phase.live = true ↔
      i ≠ client ∧ (s.clients i).phase.live = true := by
    intro i
    by_cases hi : i = client
    · simp [hi, TcpClientPhase.live]
    · simp [hi]
  simp only [Owned, hclosed, setPhase_socket, setPhase_tcpSocket]
  constructor
  · rintro (⟨i, ⟨hi, hon⟩, rfl⟩ | ⟨hlistens, h0, rfl⟩)
    · exact ⟨fun hsocket => hi (h.distinct i client hon hlive hsocket), Or.inl ⟨i, hon, rfl⟩⟩
    · exact ⟨(h.listening hlistens h0 client hlive).symm, Or.inr ⟨hlistens, h0, rfl⟩⟩
  · rintro ⟨hne, ⟨i, hon, rfl⟩ | hserver⟩
    · refine Or.inl ⟨i, ⟨?_, hon⟩, rfl⟩
      rintro rfl
      exact hne rfl
    · exact Or.inr hserver

/-- A socket of the list is open. -/
theorem owned_of_mem (h : Sound s) {n : ℕ} (hn : n ∈ s.tcpClientList) : s.Owned (.socket n) := by
  rcases (h.mem_list n).mp hn with ⟨i, hon, hsocket⟩
  exact Or.inl ⟨i, TcpClientPhase.live_of_onList hon, hsocket⟩

/-- What is held changes at one place. -/
theorem of_update (h : Sound s) (hordered : Ordered s') {r : TcpResource} {b : Bool}
    (hheld : ∀ held, s.held = some held → s'.held = some (Function.update held r b))
    (hr : s'.Owned r ↔ b = true) (hother : ∀ r', r' ≠ r → (s'.Owned r' ↔ s.Owned r')) :
    Sound s' := by
  rcases h.held with ⟨held, hheld', howned⟩
  refine ⟨hordered, _, hheld held hheld', fun r' => ?_⟩
  by_cases hr' : r' = r
  · rw [hr', Function.update_self, hr]
  · rw [Function.update_of_ne hr', howned, hother r' hr']

/-- What is released is owned no more. -/
theorem of_release (h : Sound s) (hordered : Ordered s') {r : TcpResource} (hr : s.Owned r)
    (hheld : s'.held = (s.does [.release r]).held) (hreleased : ¬s'.Owned r)
    (hother : ∀ r', r' ≠ r → (s'.Owned r' ↔ s.Owned r')) : Sound s' := by
  rcases h.held with ⟨held, hheld', howned⟩
  have hopen : held r = true := (howned r).mpr hr
  refine h.of_update (b := false) hordered (fun held' hsome => ?_) (by simpa using hreleased) hother
  rw [hheld', Option.some.injEq] at hsome
  subst hsome
  simp only [hheld, does, hheld', Option.bind_some, run, Ledger.step, hopen, if_true]

theorem acquire (h : Sound s) {socket : ℕ} (hserver : s.server = .accept)
    (hfree : ∀ held ∈ s.held, held (.socket socket) = false) :
    Sound { (s.does [.access .sender, .acquire (.socket socket)]).setClient s.accepted
        { TcpClient.absent with socket, phase := .accepted } with
      accepted := s.accepted + 1
      server := .push s.accepted } := by
  have hreturned := h.not_returned_of_server (by simp [hserver])
  rcases h.held with ⟨held, hheld, howned⟩
  have hclosed : held (.socket socket) = false := hfree held hheld
  have hsender : held .sender = true := (howned .sender).mpr hreturned
  have hnot : ¬s.Owned (.socket socket) := by
    rw [← howned, hclosed]
    exact Bool.false_ne_true
  have habsent := h.fresh s.accepted (Nat.le_refl _)
  have hordered := (h.accept hserver (fun i hi hsocket => hnot (Or.inl ⟨i, hi, hsocket⟩))
      fun hlistens h0 hsocket => hnot (Or.inr ⟨hlistens, h0, hsocket.symm⟩)).setHeld
    ((some held).bind (run [.access .sender, .acquire (.socket socket)]))
  rw [← hheld] at hordered
  refine h.of_update (r := .socket socket) (b := true) hordered ?_ ?_ ?_
  · intro held' hheld'
    rw [hheld, Option.some.injEq] at hheld'
    subst hheld'
    simp only [setClient, does, hheld, Option.bind_some, run, Ledger.step, hsender, hclosed,
      if_true, Bool.false_eq_true, if_false]
  · simp only [iff_true]
    exact Or.inl ⟨s.accepted, by simp [setClient, TcpClientPhase.live], by simp [setClient]⟩
  · intro r hr
    cases r with
    | sender => exact Iff.rfl
    | socket n =>
        have hn : socket ≠ n := fun heq => hr (congrArg _ heq.symm)
        apply or_congr _ Iff.rfl
        apply exists_congr
        intro i
        by_cases hi : i = s.accepted
        · simp [setClient, hi, hn, habsent, TcpClientPhase.live]
        · simp [setClient, hi, does]

theorem clientCloses (h : Sound s) {client : ℕ} (hphase : (s.clients client).phase = .closing) :
    Sound ((s.does [.release (.socket (s.clients client).socket)]).setPhase client .closed) := by
  have howns : s.Owned (.socket (s.clients client).socket) :=
    Or.inl ⟨client, by rw [hphase]; rfl, rfl⟩
  have hordered := (h.toOrdered.clientCloses hphase).setHeld
    (s.held.bind (run [.release (.socket (s.clients client).socket)]))
  refine h.of_release hordered howns rfl ?_ ?_
  · intro hsocket
    exact ((h.owned_socket_of_closes hphase _).mp hsocket).1 rfl
  · intro r hr
    cases r with
    | sender => exact Iff.rfl
    | socket n =>
        have hn : n ≠ (s.clients client).socket := fun heq => hr (congrArg _ heq)
        exact (h.owned_socket_of_closes hphase n).trans (and_iff_right hn)

/-! ### The threads of the clients -/

theorem setRunning (h : Sound s) {client : ℕ} {p : TcpClientPhase}
    (hfrom : (s.clients client).phase.running = true) (hto : p.running = true) :
    Sound (s.setPhase client p) := by
  have hlive := (TcpClientPhase.running_spec hfrom).1
  have hlive' := (TcpClientPhase.running_spec hto).1
  exact h.of_ordered (h.toOrdered.setRunning hfrom hto) rfl
    (owned_setPhase (hlive'.trans hlive.symm))

theorem clientLeaves (h : Sound s) {client : ℕ} (hphase : (s.clients client).phase = .leaving)
    (hfree : s.sender.unlocked = true) (connected : Bool) :
    Sound { s.setPhase client .closing with
      tcpClientList := s.tcpClientList.filter fun other => other ≠ (s.clients client).socket
      tcpSocket := if (s.clients client).socket = s.tcpSocket then 0 else s.tcpSocket
      connected } := by
  have hlive : (s.clients client).phase.live = true := by rw [hphase]; rfl
  apply h.of_ordered (h.toOrdered.clientLeaves hphase hfree connected) rfl
  intro r
  cases r with
  | sender => exact Iff.rfl
  | socket n =>
      have hsame : (s.setPhase client .closing).Owned (.socket n) ↔ s.Owned (.socket n) :=
        owned_setPhase (by rw [hphase]; rfl) (.socket n)
      rw [← hsame]
      apply or_congr Iff.rfl
      dsimp only
      split_ifs with heq
      · constructor
        · intro h0
          exact absurd rfl h0.2.1
        · rintro ⟨hlistens, h0, _⟩
          exact absurd heq (h.listening hlistens h0 client hlive)
      · exact Iff.rfl

/-! ### The thread of the TUIO server -/

theorem setSender (h : Sound s) {sender : TcpSendThread} {sent : List (List UInt8)}
    (hsending : sender.sockets <:+ s.tcpClientList)
    (hquiet : s.destructor ≠ .notCalled → sender = .idle) : Sound { s with sender, sent } := by
  apply h.of_ordered (h.toOrdered.setSender hsending hquiet) rfl
  intro r
  cases r <;> exact Iff.rfl

theorem setClients_of_same (h : Sound s) {clients : ℕ → TcpClient}
    (hphase : ∀ i, (clients i).phase = (s.clients i).phase)
    (hsocket : ∀ i, (clients i).socket = (s.clients i).socket) : Sound { s with clients } :=
  h.of_ordered (h.toOrdered.setClients_of_same hphase hsocket) rfl
    (owned_clients (fun i => congrArg _ (hphase i)) hsocket)

/-- A step of the loop, which writes to a client or shuts it down. -/
theorem send (h : Sound s) {client : ℕ} {c : TcpClient} {sender : TcpSendThread}
    (hphase : c.phase = (s.clients client).phase)
    (hsocket : c.socket = (s.clients client).socket) (hcalled : s.destructor = .notCalled)
    (hsending : sender.sockets <:+ s.tcpClientList) :
    Sound { s.setClient client c with sender } := by
  have hclients : Sound (s.setClient client c) := h.setClients_of_same ?_ ?_
  · exact hclients.setSender hsending fun hne => absurd hcalled hne
  · intro i
    by_cases hi : i = client
    · rw [hi, Function.update_self, hphase]
    · rw [Function.update_of_ne hi]
  · intro i
    by_cases hi : i = client
    · rw [hi, Function.update_self, hsocket]
    · rw [Function.update_of_ne hi]

/-- The loop goes on with the sockets behind the current one. -/
theorem pending_suffix (h : Sound s) {packet rest : List UInt8} {socket : ℕ} {pending : List ℕ}
    (hsender : s.sender = .sending packet socket rest pending) : pending <:+ s.tcpClientList := by
  have hsending := h.sending
  rw [hsender] at hsending
  exact (List.suffix_cons socket pending).trans hsending

theorem lock (h : Sound s) {packet : List UInt8} (hsender : s.sender = .lock packet) :
    Sound { s with
      sender := nextSocket packet s.tcpClientList
      sent := s.sent ++ [packet]
      clients := fun i => (s.clients i).addPacket packet } := by
  have hcalled := h.not_called (by simp [hsender])
  have hclients : Sound { s with clients := fun i => (s.clients i).addPacket packet } :=
    h.setClients_of_same (fun i => TcpClient.addPacket_phase packet _)
      fun i => TcpClient.addPacket_socket packet _
  apply hclients.setSender
  · rw [nextSocket_sockets]
  · intro hne
    exact absurd hcalled hne

/-- The socket that the loop sends to is open. -/
theorem owned_of_sending (h : Sound s) {packet rest : List UInt8} {socket : ℕ} {pending : List ℕ}
    (hsender : s.sender = .sending packet socket rest pending) : s.Owned (.socket socket) := by
  have hsending := h.sending
  rw [hsender] at hsending
  exact h.owned_of_mem (hsending.mem List.mem_cons_self)

/-- The loop only meets sockets of clients on the list, and these are open. -/
theorem not_astray (h : Sound s) {packet rest : List UInt8} {socket : ℕ} {pending : List ℕ}
    (hsender : s.sender = .sending packet socket rest pending) :
    ¬∀ held ∈ s.held, held (.socket socket) = false := by
  intro hfree
  rcases h.held with ⟨held, hheld, howned⟩
  have hopen := (howned _).mpr (h.owned_of_sending hsender)
  rw [hfree held hheld] at hopen
  exact Bool.false_ne_true hopen

theorem does_send (h : Sound s) {packet rest : List UInt8} {socket : ℕ} {pending : List ℕ}
    (hsender : s.sender = .sending packet socket rest pending) :
    s.does [.access .sender, .access (.socket socket)] = s := by
  have hcalled := h.not_called (by simp [hsender])
  apply h.does_eq
  intro op hop
  rcases List.mem_cons.mp hop with rfl | hop
  · exact ⟨.sender, rfl, by simp [Owned, hcalled]⟩
  · rw [List.mem_singleton.mp hop]
    exact ⟨.socket socket, rfl, h.owned_of_sending hsender⟩

/-! ### The destructor -/

/-- All that is shut down is open. -/
theorem does_shutdown (h : Sound s) (hreturned : s.destructor ≠ .returned) :
    s.does (.access .sender :: (s.tcpClientList.map fun socket => .access (.socket socket)) ++
      if decide (s.tcpSocket ≠ 0 ∧ s.tcpSocket ∉ s.tcpClientList) = true then
        [.access (.socket s.tcpSocket)] else []) = s := by
  apply h.does_eq
  intro op hop
  rw [List.cons_append, List.mem_cons, List.mem_append, List.mem_map] at hop
  rcases hop with rfl | ⟨n, hn, rfl⟩ | hop
  · exact ⟨.sender, rfl, hreturned⟩
  · exact ⟨.socket n, rfl, h.owned_of_mem hn⟩
  · split_ifs at hop with hclose
    · rw [decide_eq_true_eq, h.server_not_listed_iff] at hclose
      rw [List.mem_singleton.mp hop]
      exact ⟨.socket s.tcpSocket, rfl, Or.inr ⟨hclose.1, hclose.2, rfl⟩⟩
    · cases hop

theorem shutdown (h : Sound s) (hdestructor : s.destructor = .shutting) : Sound s.shutdownAll := by
  have hordered : Ordered { s with
      destructor := (.closing (decide (s.tcpSocket ≠ 0 ∧ s.tcpSocket ∉ s.tcpClientList))) } := by
    apply h.setDestructor (Or.inl rfl)
    · intro _
      exact h.quiet (by simp [hdestructor])
    · rintro closeSocket ⟨⟩
      rw [decide_eq_true_eq]
      exact h.server_not_listed_iff
    · simp
    · simp
    · exact nofun
  have huse := congrArg TcpSender.held (h.does_shutdown (by simp [hdestructor]))
  have hheld : s.shutdownAll.held = s.held := huse
  have hclients := hordered.setClients_of_same shutdownAll_phase shutdownAll_socket
  apply h.of_ordered (hclients.setHeld s.shutdownAll.held) hheld
  intro r
  cases r with
  | sender => simp [Owned, hdestructor]
  | socket n =>
      exact owned_clients (fun i => congrArg _ (shutdownAll_phase i)) shutdownAll_socket (.socket n)

theorem closeSocket (h : Sound s) {closeSocket : Bool}
    (hdestructor : s.destructor = .closing closeSocket) :
    Sound { s.does (.access .sender ::
        if closeSocket then [.release (.socket s.tcpSocket)] else []) with
      tcpSocket := 0
      destructor := .joining } := by
  have hserver := h.closing closeSocket hdestructor
  have hordered : Ordered { s with tcpSocket := 0, destructor := .joining } := by
    apply h.setDestructor (Or.inr rfl)
    · intro _
      exact h.quiet (by simp [hdestructor])
    · exact nofun
    · simp
    · simp
    · intro _
      exact rfl
  have hreturned : s.destructor ≠ .returned := by simp [hdestructor]
  cases closeSocket with
  | false =>
      have hdoes : s.does [.access .sender] = s := h.does_sender hreturned
      have hnone : ¬(s.listens = true ∧ s.tcpSocket ≠ 0) := fun hlistens =>
        Bool.false_ne_true (hserver.mpr hlistens)
      have hheld : (s.does [.access .sender]).held = s.held := congrArg TcpSender.held hdoes
      apply h.of_ordered (hordered.setHeld (s.does [.access .sender]).held) hheld
      intro r
      cases r with
      | sender => simp [Owned, hdestructor]
      | socket n =>
          apply or_congr Iff.rfl
          constructor
          · intro h0
            exact absurd rfl h0.2.1
          · intro h0
            exact absurd ⟨h0.1, h0.2.1⟩ hnone
  | true =>
      rcases hserver.mp rfl with ⟨hlistens, h0⟩
      have howns : s.Owned (.socket s.tcpSocket) := Or.inr ⟨hlistens, h0, rfl⟩
      rw [if_pos rfl, does_cons, h.does_sender hreturned]
      have hordered' := hordered.setHeld (s.held.bind (run [.release (.socket s.tcpSocket)]))
      refine h.of_release hordered' howns rfl ?_ ?_
      · rintro (⟨i, hi, hsocket⟩ | ⟨_, hne, _⟩)
        · exact h.listening hlistens h0 i hi hsocket
        · exact hne rfl
      · intro r hr
        cases r with
        | sender => simp [Owned, hdestructor]
        | socket n =>
            apply or_congr Iff.rfl
            constructor
            · intro h1
              exact absurd rfl h1.2.1
            · rintro ⟨_, _, rfl⟩
              exact absurd rfl hr

/-- The thread that the destructor joins has stopped. -/
theorem waits (h : Sound s) (hdestructor : s.destructor = .joining)
    (hstopped : s.server = .stopped) :
    Sound { s.does [.access .sender] with destructor := .waiting } := by
  have hreturned : s.destructor ≠ .returned := by simp [hdestructor]
  rw [h.does_sender hreturned]
  have hordered : Ordered { s with destructor := .waiting } := by
    apply h.setDestructor (Or.inl rfl)
    · intro _
      exact h.quiet (by simp [hdestructor])
    · exact nofun
    · intro _
      exact hstopped
    · simp
    · intro _
      exact h.closed (by rw [hdestructor]; rfl)
  apply h.of_ordered hordered rfl
  intro r
  cases r with
  | sender => simp [Owned, hreturned]
  | socket n => exact Iff.rfl

theorem returns (h : Sound s) (hdestructor : s.destructor = .waiting)
    (hempty : s.tcpClientList = []) :
    Sound { (s.does [.access .sender]).does [.release .sender] with destructor := .returned } := by
  have hreturned : s.destructor ≠ .returned := by simp [hdestructor]
  rw [h.does_sender hreturned]
  have hordered : Ordered { s with destructor := .returned } := by
    apply h.setDestructor (Or.inl rfl)
    · intro _
      exact h.quiet (by simp [hdestructor])
    · exact nofun
    · intro _
      exact h.joined (Or.inl hdestructor)
    · intro _
      exact hempty
    · intro _
      exact h.closed (by rw [hdestructor]; rfl)
  refine h.of_release (r := .sender) (hordered.setHeld (s.held.bind (run [.release .sender])))
    hreturned rfl ?_ ?_
  · intro howned
    exact howned rfl
  · intro r hr
    cases r with
    | sender => exact absurd rfl hr
    | socket n => exact Iff.rfl

/-! ### The steps of the threads -/

theorem acceptFails (h : Sound s) (hserver : s.server = .accept) :
    Sound { s.does [.access .sender] with server := .stopped } := by
  rw [h.does_sender (h.not_returned_of_server (by simp [hserver]))]
  have hordered : Ordered { s with server := .stopped } :=
    h.setServer (by simp [hserver]) (by simp [hserver]) fun _ => rfl
  exact h.of_ordered hordered rfl fun r => by cases r <;> exact Iff.rfl

/-- The socket of an accepted client is put on the list. -/
theorem push (h : Sound s) {client : ℕ} (hserver : s.server = .push client)
    (hfree : s.sender.unlocked = true) :
    Sound { (s.does [.access .sender]).setPhase client .listed with
      tcpClientList := s.tcpClientList ++ [(s.clients client).socket]
      server := .announce client } := by
  rw [h.does_sender (h.not_returned_of_server (by simp [hserver]))]
  have hphase := (h.accepted_iff client).mpr hserver
  have hsame : ∀ r, (s.setPhase client .listed).Owned r ↔ s.Owned r :=
    owned_setPhase (by rw [hphase]; rfl)
  apply h.of_ordered (h.toOrdered.push hserver hfree) rfl
  intro r
  cases r with
  | sender => exact Iff.rfl
  | socket n => exact hsame (.socket n)

theorem announce (h : Sound s) {client : ℕ} (hserver : s.server = .announce client) :
    Sound { s.does [.access .sender] with connected := true, server := .spawn client } := by
  rw [h.does_sender (h.not_returned_of_server (by simp [hserver]))]
  have hordered : Ordered { s with server := .spawn client } :=
    h.setServer (by simp [hserver]) (by simp [hserver]) (by simp [hserver])
  apply h.of_ordered (hordered.setConnected true) rfl
  intro r
  cases r <;> exact Iff.rfl

/-- A thread is started for a client that has been announced. -/
theorem spawn (h : Sound s) {client : ℕ} (hserver : s.server = .spawn client) :
    Sound { (s.does [.access .sender]).setPhase client .starting with server := .accept } := by
  rw [h.does_sender (h.not_returned_of_server (by simp [hserver]))]
  have hphase := (h.listed_iff client).mpr (Or.inr hserver)
  have hsame : ∀ r, (s.setPhase client .starting).Owned r ↔ s.Owned r :=
    owned_setPhase (by rw [hphase]; rfl)
  apply h.of_ordered (h.toOrdered.spawn hserver) rfl
  intro r
  cases r with
  | sender => exact Iff.rfl
  | socket n => exact hsame (.socket n)

/-- The thread of a client goes on, and its socket stays on the list. -/
theorem runs (h : Sound s) {client : ℕ} {phase : TcpClientPhase} {ops : List (Op TcpResource)}
    (hdoes : s.does ops = s) (hrunning : (s.clients client).phase.running = true)
    (hphase : phase.running = true) : Sound ((s.does ops).setPhase client phase) := by
  rw [hdoes]
  exact h.setRunning hrunning hphase

theorem sendOscPacket (h : Sound s) (hdestructor : s.destructor = .notCalled)
    (packet : List UInt8) : Sound { s.does [.access .sender] with sender := .lock packet } := by
  rw [h.does_sender (by simp [hdestructor])]
  exact h.setSender List.nil_suffix fun hcalled => absurd hdestructor hcalled

/-- A call fails, and the loop goes on with the next client. -/
theorem sendFails (h : Sound s) {client : ℕ} {packet rest : List UInt8} {pending : List ℕ}
    (hsender : s.sender = .sending packet (s.clients client).socket rest pending) :
    Sound { (s.does [.access .sender, .access (.socket (s.clients client).socket)]).setClient
        client { s.clients client with shut := true } with
      sender := nextSocket packet pending } := by
  rw [h.does_send hsender]
  refine h.send rfl rfl (h.not_called (by simp [hsender])) ?_
  rw [nextSocket_sockets]
  exact h.pending_suffix hsender

/-- A call takes a part of the record. -/
theorem sends (h : Sound s) {client : ℕ} {bytes : ℤ} {packet rest : List UInt8}
    {pending : List ℕ}
    (hsender : s.sender = .sending packet (s.clients client).socket rest pending) :
    Sound { (s.does [.access .sender, .access (.socket (s.clients client).socket)]).setClient
        client
          { s.clients client with written := (s.clients client).written ++ rest.take bytes.toNat }
      with
      sender := if rest.drop bytes.toNat = [] then nextSocket packet pending
        else .sending packet (s.clients client).socket (rest.drop bytes.toNat) pending } := by
  rw [h.does_send hsender]
  refine h.send rfl rfl (h.not_called (by simp [hsender])) ?_
  split_ifs
  · rw [nextSocket_sockets]
    exact h.pending_suffix hsender
  · have hsending := h.sending
    rw [hsender] at hsending
    exact hsending

theorem destroy (h : Sound s) (hsender : s.sender = .idle)
    (hdestructor : s.destructor = .notCalled) : Sound { s with destructor := .shutting } := by
  have hordered : Ordered { s with destructor := .shutting } := by
    apply h.setDestructor (Or.inl rfl)
    · intro _
      exact hsender
    · exact nofun
    · simp
    · simp
    · exact nofun
  apply h.of_ordered hordered rfl
  intro r
  cases r with
  | sender => simp [Owned, hdestructor]
  | socket n => exact Iff.rfl

theorem join (h : Sound s) (hdestructor : s.destructor = .joining)
    (hthread : if s.listens then s.server = .stopped else (s.clients 0).phase = .closed) :
    Sound { s.does [.access .sender] with destructor := .waiting } := by
  have hstopped : s.server = .stopped := by
    split_ifs at hthread with hlistens
    · exact hthread
    · exact (h.connecting (Bool.eq_false_iff.mpr hlistens)).1
  exact h.waits hdestructor hstopped

end Sound

/-! ## Runs -/

/-- A step of any thread. -/
theorem Sound.step (h : Sound s) (hstep : TcpSender.step e s = some s') : Sound s' := by
  cases step_cases hstep with
  | accept hserver hdestructor h0 hfree => exact h.acquire hserver hfree
  | acceptFails hserver => exact h.acceptFails hserver
  | push hserver hfree => exact h.push hserver hfree
  | announce hserver => exact h.announce hserver
  | spawn hserver => exact h.spawn hserver
  | @clientStarts client hphase =>
      have hon : (s.clients client).phase.onList = true := by rw [hphase]; rfl
      exact h.runs (h.does_sender (h.not_returned_of_list hon)) (by rw [hphase]; rfl) rfl
  | @clientRecv client hphase =>
      rw [h.does_socket (by rw [hphase]; rfl)]
      exact h
  | @clientEnds client hphase =>
      exact h.runs (h.does_socket (by rw [hphase]; rfl)) (by rw [hphase]; rfl) rfl
  | @clientLeaves client hphase hfree =>
      have hon : (s.clients client).phase.onList = true := by rw [hphase]; rfl
      rw [h.does_sender (h.not_returned_of_list hon)]
      exact h.clientLeaves hphase hfree _
  | clientCloses hphase => exact h.clientCloses hphase
  | refused hsender hdestructor hrefused =>
      rw [h.does_sender (by simp [hdestructor])]
      exact h
  | sendOscPacket hsender hdestructor haccepted => exact h.sendOscPacket hdestructor _
  | lock hsender =>
      rw [h.does_sender (by simp [h.not_called (by simp [hsender])])]
      exact h.lock hsender
  | sendFails hsender hlive hbytes => exact h.sendFails hsender
  | send hsender hlive hshut hbytes hle => exact h.sends hsender
  | sendAstray hsender hfree => exact absurd hfree (h.not_astray hsender)
  | destroy hsender hdestructor => exact h.destroy hsender hdestructor
  | shutdown hdestructor => exact h.shutdown hdestructor
  | closeSocket hdestructor => exact h.closeSocket hdestructor
  | join hdestructor hthread => exact h.join hdestructor hthread
  | waits hdestructor hleft =>
      rw [h.does_sender (by simp [hdestructor])]
      exact h
  | returns hdestructor hempty => exact h.returns hdestructor hempty

/-- A constructor has returned. -/
inductive Constructed : TcpSender → Prop where
  | listen {socket : ℕ} : socket ≠ 0 → Constructed (listen socket)
  | connect {socket : ℕ} : socket ≠ 0 → Constructed (connect socket)

theorem Ordered.listen (socket : ℕ) : Ordered (listen socket) := by
  constructor <;> simp [TcpSender.listen, TcpClient.absent, TcpClientPhase.live,
    TcpClientPhase.onList, TcpSendThread.sockets, TcpDestructor.closedSocket]

theorem Ordered.connect (socket : ℕ) : Ordered (connect socket) := by
  have hclient : ∀ i, (TcpSender.connect socket).clients i =
      if i = 0 then { TcpClient.absent with socket, phase := .starting } else .absent := by
    intro i
    rw [TcpSender.connect]
    dsimp only
    rw [Function.update_apply]
  have hphase : ∀ i, ((TcpSender.connect socket).clients i).phase =
      if i = 0 then .starting else .absent := by
    intro i
    rw [hclient]
    split_ifs <;> rfl
  have hlive : ∀ i, ((TcpSender.connect socket).clients i).phase.live = true ↔ i = 0 := by
    intro i
    rw [hphase]
    split_ifs with hi <;> simp [hi, TcpClientPhase.live]
  have honList : ∀ i, ((TcpSender.connect socket).clients i).phase.onList = true ↔ i = 0 := by
    intro i
    rw [hphase]
    split_ifs with hi <;> simp [hi, TcpClientPhase.onList]
  have hsocket : ((TcpSender.connect socket).clients 0).socket = socket := by simp [hclient]
  refine ⟨fun i j hi hj _ => ?_, fun i hi => ?_, fun n => ?_, List.nodup_singleton _, fun i => ?_,
    fun i => ?_, fun hlistens => absurd hlistens Bool.false_ne_true,
    fun _ => ⟨rfl, fun _ => ⟨0, (honList 0).mpr rfl, hsocket⟩⟩, List.nil_suffix,
    fun hcalled => absurd rfl hcalled, fun closeSocket hclosing => ?_, fun _ => rfl,
    fun hreturned => ?_, fun hclosed => absurd hclosed Bool.false_ne_true⟩
  · rw [(hlive i).mp hi, (hlive j).mp hj]
  · have hne : i ≠ 0 := Nat.pos_iff_ne_zero.mp hi
    rw [hphase, if_neg hne]
  · simp only [honList]
    simp [TcpSender.connect, eq_comm]
  · rw [hphase]
    split_ifs <;> simp [TcpSender.connect]
  · rw [hphase]
    split_ifs <;> simp [TcpSender.connect]
  · cases hclosing
  · cases hreturned

/-- Behind a constructor. -/
theorem Sound.of_constructed (h : Constructed s) : Sound s := by
  cases h with
  | @listen socket h0 =>
      refine ⟨Ordered.listen socket, _, rfl, fun r => ?_⟩
      cases r with
      | sender => simp [Owned, TcpSender.listen]
      | socket n =>
          simp [Owned, TcpSender.listen, TcpClient.absent, TcpClientPhase.live, h0, eq_comm]
  | @connect socket h0 =>
      refine ⟨Ordered.connect socket, _, rfl, fun r => ?_⟩
      cases r with
      | sender => simp [Owned, TcpSender.connect]
      | socket n =>
          rw [decide_eq_true_eq]
          constructor
          · rintro (hn | hn)
            · cases hn
            · cases hn
              exact Or.inl ⟨0, by simp [TcpSender.connect, TcpClientPhase.live],
                by simp [TcpSender.connect]⟩
          · rintro (⟨i, hi, rfl⟩ | hserver)
            · have hi0 : i = 0 := by
                by_contra hne
                simp [TcpSender.connect, hne, TcpClient.absent, TcpClientPhase.live] at hi
              simp [TcpSender.connect, hi0]
            · cases hserver.1

/-- In a run no step is refused for what it uses, and the loop never meets a socket that is not
that of a client. -/
theorem Sound.run (h : Sound s) {events : List TcpEvent}
    (hrun : tcpSystem.run events s = some s') : Sound s' ∧ .sendAstray ∉ events := by
  induction events generalizing s with
  | nil =>
      rw [Machine.run_nil, Option.some.injEq] at hrun
      exact ⟨hrun ▸ h, List.not_mem_nil⟩
  | cons e events ih =>
      rw [Machine.run_cons, Option.bind_eq_some_iff] at hrun
      rcases hrun with ⟨t, hstep, hrun⟩
      have hrest := ih (h.step hstep) hrun
      refine ⟨hrest.1, ?_⟩
      rw [List.mem_cons, not_or]
      refine ⟨?_, hrest.2⟩
      rintro rfl
      have hcase : StepCase s .sendAstray t := step_cases hstep
      cases hcase with
      | sendAstray hsender hfree => exact h.not_astray hsender hfree

/-- Whatever the threads do, nobody sends to, receives from or shuts down a socket that is closed,
or uses the memory of a sender that is gone, and no socket is closed twice: what is open are the
sockets of the clients that are still there, all of them different, and that of a server. The loop
only sends to sockets of clients on the list. When the destructor has returned the server thread has
stopped, and all that is left of the clients is to close their sockets. -/
theorem tcp_run {s0 : TcpSender} (hstart : Constructed s0) {events : List TcpEvent}
    (hrun : tcpSystem.run events s0 = some s) :
    (∃ held, s.held = some held ∧ (held .sender = true ↔ s.destructor ≠ .returned) ∧
      ∀ n, held (.socket n) = true ↔ (∃! i, (s.clients i).phase.live ∧ (s.clients i).socket = n) ∨
        s.listens ∧ s.tcpSocket ≠ 0 ∧ s.tcpSocket = n) ∧
    .sendAstray ∉ events ∧
    (∀ packet socket rest pending, s.sender = .sending packet socket rest pending →
      ∃ i, (s.clients i).phase.onList ∧ (s.clients i).socket = socket) ∧
    (s.destructor = .returned → s.tcpSocket = 0 ∧ s.server = .stopped ∧
      ∀ i, (s.clients i).phase.live → (s.clients i).phase = .closing) := by
  have hrun' := (Sound.of_constructed hstart).run hrun
  have h := hrun'.1
  refine ⟨?_, hrun'.2, fun packet socket rest pending hsender => ?_, fun hreturned => ?_⟩
  · rcases h.held with ⟨held, hheld, howned⟩
    refine ⟨held, hheld, howned .sender, fun n => (howned (.socket n)).trans ?_⟩
    apply or_congr _ Iff.rfl
    constructor
    · rintro ⟨i, hi⟩
      exact ⟨i, hi, fun j hj => h.distinct j i hj.1 hi.1 (hj.2.trans hi.2.symm)⟩
    · exact ExistsUnique.exists
  · have hsending := h.sending
    rw [hsender] at hsending
    exact (h.mem_list socket).mp (hsending.mem List.mem_cons_self)
  · have hserver := h.joined (Or.inr hreturned)
    refine ⟨h.closed (by rw [hreturned]; rfl), hserver, fun i hi => ?_⟩
    have honList : (s.clients i).phase.onList ≠ true :=
      fun hon => h.not_returned_of_list hon hreturned
    have haccepted : (s.clients i).phase ≠ .accepted := by
      intro hphase
      rw [h.accepted_iff, hserver] at hphase
      cases hphase
    cases hphase : (s.clients i).phase <;>
      simp_all [TcpClientPhase.onList, TcpClientPhase.live]

/-- A client connects, gets a packet and is shut down by the destructor. -/
def tcpRun : List TcpEvent :=
  [.accept 4, .push, .announce, .spawn, .clientStarts 0, .sendOscPacket [1], .lock, .send 0 3,
    .send 0 2, .destroy, .shutdown, .closeSocket, .acceptFails, .join, .clientRecv 0 false,
    .clientLeaves 0, .waitForClients, .clientCloses 0]

theorem tcp_run_tcpRun :
    ∃ s held, tcpSystem.run tcpRun (listen 3) = some s ∧ s.held = some held ∧
      ∀ r, held r = false := by
  have hrun : ∃ s, tcpSystem.run tcpRun (listen 3) = some s ∧ s.destructor = .returned ∧
      s.accepted = 1 ∧ (s.clients 0).phase = .closed := ⟨_, rfl, rfl, rfl, rfl⟩
  rcases hrun with ⟨s, hrun, hreturned, haccepted, hclosed⟩
  have hstart : Constructed (listen 3) := .listen (by decide)
  have h := ((Sound.of_constructed hstart).run hrun).1
  have hgone : ∀ i, (s.clients i).phase.live = false := by
    intro i
    cases i with
    | zero => rw [hclosed]; rfl
    | succ i => rw [h.fresh (i + 1) (by omega)]; rfl
  rcases tcp_run hstart hrun with ⟨⟨held, hheld, hsender, hsocket⟩, -, -, hthreads⟩
  refine ⟨s, held, hrun, hheld, fun r => ?_⟩
  rw [← Bool.not_eq_true]
  cases r with
  | sender => simp [hsender, hreturned]
  | socket n => simp [hsocket, hgone, (hthreads hreturned).1]

end TcpSender

end Sur40
