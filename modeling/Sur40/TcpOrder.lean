import Sur40.TcpSender

/-!
# The order of the steps of the TCP sender

The socket of a client is open from where the server thread accepts it to where the thread of the
client closes it, and the client is on the list in between: the list changes under the mutex, and
the loop that sends goes through it while it holds the mutex.

## Main definitions

* `TcpSender.Ordered`: the clients, their sockets, the list, and where the threads are.
* `TcpSender.Ordered.push`, `TcpSender.Ordered.accept`, ...: what the steps preserve.
-/

namespace Sur40

open Devlib Ledger

/-- The sockets that the loop has not passed yet. -/
def TcpSendThread.sockets : TcpSendThread → List ℕ
  | .idle | .lock _ => []
  | .sending _ socket _ pending => socket :: pending

/-- A thread without the mutex has no sockets in front of it. -/
theorem TcpSendThread.sockets_of_unlocked {t : TcpSendThread} (h : t.unlocked = true) :
    t.sockets = [] := by
  cases t with
  | idle => rfl
  | lock packet => rfl
  | sending packet socket rest pending => cases h

@[simp] theorem nextSocket_sockets (packet : List UInt8) (sockets : List ℕ) :
    (nextSocket packet sockets).sockets = sockets := by
  cases sockets <;> rfl

theorem TcpClient.addPacket_phase (packet : List UInt8) (c : TcpClient) :
    (c.addPacket packet).phase = c.phase := by
  rw [addPacket]
  split_ifs <;> rfl

theorem TcpClient.addPacket_socket (packet : List UInt8) (c : TcpClient) :
    (c.addPacket packet).socket = c.socket := by
  rw [addPacket]
  split_ifs <;> rfl

/-- The socket of a client on the list is open. -/
theorem TcpClientPhase.live_of_onList {p : TcpClientPhase} (h : p.onList = true) :
    p.live = true := by
  cases p <;> first | rfl | cases h

/-- The thread of the client is there, and the client on the list. -/
def TcpClientPhase.running : TcpClientPhase → Bool
  | starting | receiving | leaving => true
  | _ => false

/-- A client whose thread runs is on the list. -/
theorem TcpClientPhase.running_spec {p : TcpClientPhase} (h : p.running = true) :
    p.live = true ∧ p.onList = true ∧ p ≠ absent ∧ p ≠ accepted ∧ p ≠ listed := by
  cases p <;> simp_all [running, live, onList]

/-- The destructor is behind the close of the socket of the server. -/
def TcpDestructor.closedSocket : TcpDestructor → Bool
  | joining | waiting | returned => true
  | _ => false

namespace TcpSender

variable {s : TcpSender}

/-! ## The invariant -/

/-- The order of the steps: the phases of the clients go with the server thread and the list. -/
structure Ordered (s : TcpSender) : Prop where
  distinct : ∀ i j, (s.clients i).phase.live = true → (s.clients j).phase.live = true →
    (s.clients i).socket = (s.clients j).socket → i = j
  fresh : ∀ i, s.accepted ≤ i → (s.clients i).phase = .absent
  mem_list : ∀ n, n ∈ s.tcpClientList ↔
    ∃ i, (s.clients i).phase.onList = true ∧ (s.clients i).socket = n
  nodup : s.tcpClientList.Nodup
  accepted_iff : ∀ i, (s.clients i).phase = .accepted ↔ s.server = .push i
  listed_iff : ∀ i, (s.clients i).phase = .listed ↔ s.server = .announce i ∨ s.server = .spawn i
  listening : s.listens = true → s.tcpSocket ≠ 0 →
    ∀ i, (s.clients i).phase.live = true → (s.clients i).socket ≠ s.tcpSocket
  connecting : s.listens = false → s.server = .stopped ∧ (s.tcpSocket ≠ 0 →
    ∃ i, (s.clients i).phase.onList = true ∧ (s.clients i).socket = s.tcpSocket)
  sending : s.sender.sockets <:+ s.tcpClientList
  quiet : s.destructor ≠ .notCalled → s.sender = .idle
  closing : ∀ closeSocket, s.destructor = .closing closeSocket →
    (closeSocket = true ↔ s.listens = true ∧ s.tcpSocket ≠ 0)
  joined : s.destructor = .waiting ∨ s.destructor = .returned → s.server = .stopped
  returned : s.destructor = .returned → s.tcpClientList = []
  closed : s.destructor.closedSocket = true → s.tcpSocket = 0

/-! ## The order of the steps -/

namespace Ordered

/-- The destructor waits for the server thread. -/
theorem not_returned_of_server (h : Ordered s) (hserver : s.server ≠ .stopped) :
    s.destructor ≠ .returned := fun hreturned => hserver (h.joined (Or.inr hreturned))

/-- The destructor waits until the list is empty. -/
theorem not_returned_of_list (h : Ordered s) {i : ℕ} (hi : (s.clients i).phase.onList = true) :
    s.destructor ≠ .returned := by
  intro hreturned
  have hmem := (h.mem_list _).mpr ⟨i, hi, rfl⟩
  rw [h.returned hreturned] at hmem
  cases hmem

theorem not_accepted (h : Ordered s) (hserver : ∀ i, s.server ≠ .push i) (i : ℕ) :
    (s.clients i).phase ≠ .accepted := by
  intro hphase
  exact hserver i ((h.accepted_iff i).mp hphase)

theorem not_listed (h : Ordered s) (hserver : ∀ i, ¬(s.server = .announce i ∨ s.server = .spawn i))
    (i : ℕ) : (s.clients i).phase ≠ .listed := by
  intro hphase
  exact hserver i ((h.listed_iff i).mp hphase)

/-- The destructor is not called while a packet is on its way. -/
theorem not_called (h : Ordered s) (hsender : s.sender ≠ .idle) : s.destructor = .notCalled := by
  by_contra hne
  exact hsender (h.quiet hne)

/-- The clients change, but not where they stand. -/
theorem setClients (h : Ordered s) {clients : ℕ → TcpClient}
    (hlive : ∀ i, (clients i).phase.live = (s.clients i).phase.live)
    (honList : ∀ i, (clients i).phase.onList = (s.clients i).phase.onList)
    (habsent : ∀ i, (clients i).phase = .absent ↔ (s.clients i).phase = .absent)
    (haccepted : ∀ i, (clients i).phase = .accepted ↔ (s.clients i).phase = .accepted)
    (hlisted : ∀ i, (clients i).phase = .listed ↔ (s.clients i).phase = .listed)
    (hsocket : ∀ i, (clients i).socket = (s.clients i).socket) : Ordered { s with clients } where
  distinct := by
    simp only [hlive, hsocket]
    exact h.distinct
  fresh i hi := (habsent i).mpr (h.fresh i hi)
  mem_list := by
    simp only [honList, hsocket]
    exact h.mem_list
  nodup := h.nodup
  accepted_iff i := (haccepted i).trans (h.accepted_iff i)
  listed_iff i := (hlisted i).trans (h.listed_iff i)
  listening := by
    simp only [hlive, hsocket]
    exact h.listening
  connecting := by
    simp only [honList, hsocket]
    exact h.connecting
  sending := h.sending
  quiet := h.quiet
  closing := h.closing
  joined := h.joined
  returned := h.returned
  closed := h.closed

/-- A client changes in what has nothing to do with its socket and its phase. -/
theorem setClients_of_same (h : Ordered s) {clients : ℕ → TcpClient}
    (hphase : ∀ i, (clients i).phase = (s.clients i).phase)
    (hsocket : ∀ i, (clients i).socket = (s.clients i).socket) : Ordered { s with clients } := by
  apply h.setClients <;> simp [hphase, hsocket]

theorem setSender (h : Ordered s) {sender : TcpSendThread} {sent : List (List UInt8)}
    (hsending : sender.sockets <:+ s.tcpClientList)
    (hquiet : s.destructor ≠ .notCalled → sender = .idle) : Ordered { s with sender, sent } :=
  { h with sending := hsending, quiet := hquiet }

theorem setConnected (h : Ordered s) (connected : Bool) : Ordered { s with connected } :=
  { h with }

theorem setServer (h : Ordered s) {server : TcpServerThread}
    (haccepted : ∀ i, s.server = .push i ↔ server = .push i)
    (hlisted : ∀ i, s.server = .announce i ∨ s.server = .spawn i ↔
      server = .announce i ∨ server = .spawn i)
    (hstopped : s.server = .stopped → server = .stopped) : Ordered { s with server } :=
  { h with
    accepted_iff := fun i => (h.accepted_iff i).trans (haccepted i)
    listed_iff := fun i => (h.listed_iff i).trans (hlisted i)
    connecting := fun hlistens => ⟨hstopped (h.connecting hlistens).1, (h.connecting hlistens).2⟩
    joined := fun hjoined => hstopped (h.joined hjoined) }

end Ordered

theorem setClient_self (client : ℕ) (c : TcpClient) : (s.setClient client c).clients client = c :=
  Function.update_self ..

@[simp] theorem setClient_tcpClientList (client : ℕ) (c : TcpClient) :
    (s.setClient client c).tcpClientList = s.tcpClientList := rfl

theorem setClient_of_ne {client i : ℕ} (hi : i ≠ client) (c : TcpClient) :
    (s.setClient client c).clients i = s.clients i := Function.update_of_ne hi ..

@[simp] theorem setPhase_socket (client i : ℕ) (p : TcpClientPhase) :
    ((s.setPhase client p).clients i).socket = (s.clients i).socket := by
  by_cases hi : i = client
  · simp [setPhase, setClient, hi]
  · simp [setPhase, setClient, hi]

@[simp] theorem setPhase_phase (client i : ℕ) (p : TcpClientPhase) :
    ((s.setPhase client p).clients i).phase = if i = client then p else (s.clients i).phase := by
  by_cases hi : i = client
  · simp [setPhase, setClient, hi]
  · simp [setPhase, setClient, hi]

@[simp] theorem setPhase_server (client : ℕ) (p : TcpClientPhase) :
    (s.setPhase client p).server = s.server := rfl
@[simp] theorem setPhase_tcpClientList (client : ℕ) (p : TcpClientPhase) :
    (s.setPhase client p).tcpClientList = s.tcpClientList := rfl
@[simp] theorem setPhase_tcpSocket (client : ℕ) (p : TcpClientPhase) :
    (s.setPhase client p).tcpSocket = s.tcpSocket := rfl

theorem shutdownAll_phase (i : ℕ) : (s.shutdownAll.clients i).phase = (s.clients i).phase := by
  simp only [shutdownAll]
  split_ifs <;> rfl

theorem shutdownAll_socket (i : ℕ) :
    (s.shutdownAll.clients i).socket = (s.clients i).socket := by
  simp only [shutdownAll]
  split_ifs <;> rfl

/-- What does not tell the new phase of a client from its old one. -/
theorem setPhase_congr (f : TcpClientPhase → Bool) {client : ℕ} {p : TcpClientPhase}
    (hf : f p = f (s.clients client).phase) (i : ℕ) :
    f ((s.setPhase client p).clients i).phase = f (s.clients i).phase := by
  by_cases hi : i = client
  · rw [hi, setPhase_phase, if_pos rfl, hf]
  · rw [setPhase_phase, if_neg hi]

namespace Ordered

/-- The clients that are still to come. -/
theorem setPhase_fresh (h : Ordered s) {client : ℕ} (hclient : (s.clients client).phase ≠ .absent)
    (p : TcpClientPhase) {i : ℕ} (hi : s.accepted ≤ i) :
    ((s.setPhase client p).clients i).phase = .absent := by
  have hne : i ≠ client := by
    rintro rfl
    exact hclient (h.fresh i hi)
  rw [setPhase_phase, if_neg hne]
  exact h.fresh i hi

theorem setRunning (h : Ordered s) {client : ℕ} {p : TcpClientPhase}
    (hfrom : (s.clients client).phase.running = true) (hto : p.running = true) :
    Ordered (s.setPhase client p) := by
  have hfrom' := TcpClientPhase.running_spec hfrom
  have hto' := TcpClientPhase.running_spec hto
  apply h.setClients
  all_goals
    intro i
    by_cases hi : i = client
    · simp [hi, hfrom', hto']
    · simp [hi]

/-- The server thread puts a client on the list. -/
theorem push (h : Ordered s) {client : ℕ} (hserver : s.server = .push client)
    (hfree : s.sender.unlocked = true) :
    Ordered { s.setPhase client .listed with
      tcpClientList := s.tcpClientList ++ [(s.clients client).socket]
      server := .announce client } := by
  have hphase := (h.accepted_iff client).mpr hserver
  have hlive : (s.clients client).phase.live = true := by rw [hphase]; rfl
  have hother : ∀ i, (s.clients i).phase = .accepted → i = client := by
    intro i hi
    have heq := (h.accepted_iff i).mp hi
    rw [hserver] at heq
    cases heq
    rfl
  have hlisted := h.not_listed (by simp [hserver])
  have hnew : (s.clients client).socket ∉ s.tcpClientList := by
    intro hmem
    rcases (h.mem_list _).mp hmem with ⟨i, hi, hsocket⟩
    rw [h.distinct i client (TcpClientPhase.live_of_onList hi) hlive hsocket, hphase] at hi
    cases hi
  have hstopped : s.server ≠ .stopped := by simp [hserver]
  have hlives := setPhase_congr TcpClientPhase.live (p := .listed) hlive.symm
  refine { h with
    distinct := ?distinct
    fresh := fun i hi => h.setPhase_fresh (by simp [hphase]) .listed hi
    mem_list := fun n => ?mem_list
    nodup := ?nodup
    accepted_iff := fun i => ?accepted_iff
    listed_iff := fun i => ?listed_iff
    listening := ?listening
    connecting := fun hconnects => absurd (h.connecting hconnects).1 hstopped
    sending := ?sending
    joined := fun hjoined => absurd (h.joined hjoined) hstopped
    returned := fun hreturned => absurd hreturned (h.not_returned_of_server hstopped) }
  case distinct =>
    simpa only [hlives, setPhase_socket] using h.distinct
  case mem_list =>
    rw [List.mem_append, List.mem_singleton, h.mem_list]
    constructor
    · rintro (⟨i, hi, hsocket⟩ | rfl)
      · refine ⟨i, ?_, by simpa using hsocket⟩
        by_cases hic : i = client
        · simp [hic, TcpClientPhase.onList]
        · simpa [hic] using hi
      · exact ⟨client, by simp [TcpClientPhase.onList], by simp⟩
    · rintro ⟨i, hi, hsocket⟩
      by_cases hic : i = client
      · refine Or.inr ?_
        rw [← hsocket, hic, setPhase_socket]
      · exact Or.inl ⟨i, by simpa [hic] using hi, by simpa using hsocket⟩
  case nodup =>
    apply List.nodup_append.mpr
    refine ⟨h.nodup, List.nodup_singleton _, ?_⟩
    rintro a ha b hb rfl
    exact hnew (List.mem_singleton.mp hb ▸ ha)
  case accepted_iff =>
    by_cases hic : i = client
    · simp [hic]
    · simpa [hic] using fun hi => hic (hother i hi)
  case listed_iff =>
    by_cases hic : i = client
    · simp [hic]
    · simp [hic, hlisted i, Ne.symm hic]
  case listening =>
    intro hlistens hsocket i hi
    rw [setPhase_socket]
    exact h.listening hlistens hsocket i ((hlives i).symm.trans hi)
  case sending =>
    have hsockets : s.sender.sockets = [] := TcpSendThread.sockets_of_unlocked hfree
    exact hsockets ▸ List.nil_suffix

/-- The server thread has created the thread of a client. -/
theorem spawn (h : Ordered s) {client : ℕ} (hserver : s.server = .spawn client) :
    Ordered { s.setPhase client .starting with server := .accept } := by
  have hphase := (h.listed_iff client).mpr (Or.inr hserver)
  have hother : ∀ i, (s.clients i).phase = .listed → i = client := by
    intro i hi
    have heq := (h.listed_iff i).mp hi
    rw [hserver] at heq
    simpa [eq_comm] using heq
  have haccepted := h.not_accepted (by simp [hserver])
  have hlives := setPhase_congr TcpClientPhase.live (s := s) (p := .starting)
    (show _ = (s.clients client).phase.live by rw [hphase]; rfl)
  have honList := setPhase_congr TcpClientPhase.onList (s := s) (p := .starting)
    (show _ = (s.clients client).phase.onList by rw [hphase]; rfl)
  have hstopped : s.server ≠ .stopped := by simp [hserver]
  refine { h with
    distinct := ?distinct
    fresh := fun i hi => h.setPhase_fresh (by simp [hphase]) .starting hi
    mem_list := fun n => ?mem_list
    accepted_iff := fun i => ?accepted_iff
    listed_iff := fun i => ?listed_iff
    listening := ?listening
    connecting := fun hconnects => absurd (h.connecting hconnects).1 hstopped
    joined := fun hjoined => absurd (h.joined hjoined) hstopped }
  case distinct =>
    simpa only [hlives, setPhase_socket] using h.distinct
  case mem_list =>
    simpa only [honList, setPhase_socket, setPhase_tcpClientList] using h.mem_list n
  case accepted_iff =>
    by_cases hic : i = client
    · simp [hic]
    · simp [hic, haccepted i]
  case listed_iff =>
    by_cases hic : i = client
    · simp [hic]
    · simpa [hic] using fun hi => hic (hother i hi)
  case listening =>
    intro hlistens hsocket i hi
    rw [setPhase_socket]
    exact h.listening hlistens hsocket i ((hlives i).symm.trans hi)

/-- A new client has a socket that no other client has. -/
theorem accept (h : Ordered s) {socket : ℕ} (hserver : s.server = .accept)
    (hnew : ∀ i, (s.clients i).phase.live = true → (s.clients i).socket ≠ socket)
    (hother : s.listens = true → s.tcpSocket ≠ 0 → socket ≠ s.tcpSocket) :
    Ordered { s.setClient s.accepted { TcpClient.absent with socket, phase := .accepted } with
      accepted := s.accepted + 1
      server := .push s.accepted } := by
  have hclient : ∀ i, (s.setClient s.accepted
      { TcpClient.absent with socket, phase := .accepted }).clients i =
        if i = s.accepted then { TcpClient.absent with socket, phase := .accepted }
        else s.clients i := fun i => Function.update_apply ..
  have habsent := h.fresh s.accepted (Nat.le_refl _)
  have haccepted := h.not_accepted (by simp [hserver])
  have hlisted := h.not_listed (by simp [hserver])
  have hstopped : s.server ≠ .stopped := by simp [hserver]
  refine { h with
    distinct := fun i j => ?distinct
    fresh := fun i hi => ?fresh
    mem_list := fun n => ?mem_list
    accepted_iff := fun i => ?accepted_iff
    listed_iff := fun i => ?listed_iff
    listening := fun hlistens hsocket i => ?listening
    connecting := fun hconnects => absurd (h.connecting hconnects).1 hstopped
    joined := fun hjoined => absurd (h.joined hjoined) hstopped }
  case distinct =>
    dsimp only
    rw [hclient, hclient]
    split_ifs with hi hj hj
    · intro _ _ _
      rw [hi, hj]
    · intro _ hlive hsocket
      exact absurd hsocket.symm (hnew j hlive)
    · intro hlive _ hsocket
      exact absurd hsocket (hnew i hlive)
    · exact h.distinct i j
  case fresh =>
    dsimp only
    have hi' : s.accepted + 1 ≤ i := hi
    rw [hclient, if_neg (by omega)]
    exact h.fresh i (by omega)
  case mem_list =>
    dsimp only
    simp only [hclient]
    rw [setClient_tcpClientList, h.mem_list]
    apply exists_congr
    intro i
    split_ifs with hi
    · simp [hi, habsent, TcpClientPhase.onList]
    · exact Iff.rfl
  case accepted_iff =>
    dsimp only
    rw [hclient]
    split_ifs with hi
    · simp [hi]
    · simp [haccepted i, Ne.symm hi]
  case listed_iff =>
    dsimp only
    rw [hclient]
    split_ifs with hi
    · simp
    · simp [hlisted i]
  case listening =>
    dsimp only
    rw [hclient]
    split_ifs with hi
    · intro _
      exact hother hlistens hsocket
    · exact h.listening hlistens hsocket i

/-- The thread of a client takes it off the list. -/
theorem clientLeaves (h : Ordered s) {client : ℕ} (hphase : (s.clients client).phase = .leaving)
    (hfree : s.sender.unlocked = true) (connected : Bool) :
    Ordered { s.setPhase client .closing with
      tcpClientList := s.tcpClientList.filter fun other => other ≠ (s.clients client).socket
      tcpSocket := if (s.clients client).socket = s.tcpSocket then 0 else s.tcpSocket
      connected } := by
  have hlive : (s.clients client).phase.live = true := by rw [hphase]; rfl
  have hlives := setPhase_congr TcpClientPhase.live (p := .closing) hlive.symm
  have honList : ∀ i, ((s.setPhase client .closing).clients i).phase.onList = true ↔
      (s.clients i).phase.onList = true ∧ (s.clients i).socket ≠ (s.clients client).socket := by
    intro i
    by_cases hi : i = client
    · simp [hi, TcpClientPhase.onList]
    · rw [setPhase_phase, if_neg hi, iff_self_and]
      intro hon hsocket
      exact hi (h.distinct i client (TcpClientPhase.live_of_onList hon) hlive hsocket)
  have hkeep : s.listens = true → s.tcpSocket ≠ 0 → (s.clients client).socket ≠ s.tcpSocket :=
    fun hlistens hsocket => h.listening hlistens hsocket client hlive
  refine { h with
    distinct := ?distinct
    fresh := fun i hi => h.setPhase_fresh (by simp [hphase]) .closing hi
    mem_list := fun n => ?mem_list
    nodup := h.nodup.filter _
    accepted_iff := fun i => ?accepted_iff
    listed_iff := fun i => ?listed_iff
    listening := fun hlistens hsocket i hi => ?listening
    connecting := fun hconnects => ⟨(h.connecting hconnects).1, ?connecting⟩
    sending := ?sending
    closing := fun closeSocket hclosing => ?closing
    returned := fun hreturned => ?returned
    closed := fun hclosed => ?closed }
  case distinct =>
    simpa only [hlives, setPhase_socket] using h.distinct
  case mem_list =>
    rw [List.mem_filter, h.mem_list, decide_eq_true_eq]
    simp only [honList, setPhase_socket]
    constructor
    · rintro ⟨⟨i, hon, rfl⟩, hne⟩
      exact ⟨i, ⟨hon, hne⟩, rfl⟩
    · rintro ⟨i, ⟨hon, hne⟩, rfl⟩
      exact ⟨⟨i, hon, rfl⟩, hne⟩
  case accepted_iff =>
    by_cases hic : i = client
    · have hserver := h.accepted_iff client
      rw [hphase] at hserver
      simpa [hic] using hserver
    · simpa [hic] using h.accepted_iff i
  case listed_iff =>
    by_cases hic : i = client
    · have hserver := h.listed_iff client
      rw [hphase] at hserver
      simpa [hic] using hserver
    · simpa [hic] using h.listed_iff i
  case listening =>
    dsimp only at hsocket hi ⊢
    split_ifs at hsocket ⊢ with heq
    · exact absurd rfl hsocket
    · rw [setPhase_socket]
      exact h.listening hlistens hsocket i ((hlives i).symm.trans hi)
  case connecting =>
    dsimp only
    split_ifs with heq
    · intro h0
      exact absurd rfl h0
    · intro h0
      rcases (h.connecting hconnects).2 h0 with ⟨i, hon, hsocket⟩
      refine ⟨i, (honList i).mpr ⟨hon, fun hsame => heq ?_⟩, (setPhase_socket ..).trans hsocket⟩
      rw [← hsame, hsocket]
  case sending =>
    have hsockets : s.sender.sockets = [] := TcpSendThread.sockets_of_unlocked hfree
    exact hsockets ▸ List.nil_suffix
  case closing =>
    rw [h.closing closeSocket hclosing]
    dsimp only
    split_ifs with heq
    · constructor
      · rintro ⟨hlistens, h0⟩
        exact absurd heq (hkeep hlistens h0)
      · rintro ⟨_, h0⟩
        exact absurd rfl h0
    · exact Iff.rfl
  case returned =>
    have hempty := h.returned hreturned
    dsimp only
    rw [hempty]
    rfl
  case closed =>
    have h0 := h.closed hclosed
    dsimp only
    split_ifs
    · rfl
    · exact h0

/-- The thread of a client is through. -/
theorem clientCloses (h : Ordered s) {client : ℕ} (hphase : (s.clients client).phase = .closing) :
    Ordered (s.setPhase client .closed) := by
  have hlive : ∀ i, ((s.setPhase client .closed).clients i).phase.live = true →
      i ≠ client ∧ (s.clients i).phase.live = true := by
    intro i hi
    by_cases hic : i = client
    · rw [hic, setPhase_phase, if_pos rfl] at hi
      cases hi
    · simpa [hic] using hi
  have honList := setPhase_congr TcpClientPhase.onList (s := s) (p := .closed)
    (show _ = (s.clients client).phase.onList by rw [hphase]; rfl)
  have hsame : ∀ i p, p ≠ .closed → p ≠ .closing →
      (((s.setPhase client .closed).clients i).phase = p ↔ (s.clients i).phase = p) := by
    intro i p hclosed hclosing
    by_cases hi : i = client
    · rw [hi, setPhase_phase, if_pos rfl, hphase]
      simp [hclosed.symm, hclosing.symm]
    · simp [hi]
  refine { h with
    distinct := fun i j hi hj hsocket => ?distinct
    fresh := fun i hi => h.setPhase_fresh (by simp [hphase]) .closed hi
    mem_list := fun n => ?mem_list
    accepted_iff := fun i => ?accepted_iff
    listed_iff := fun i => ?listed_iff
    listening := fun hlistens h0 i hi => ?listening
    connecting := fun hconnects => ⟨(h.connecting hconnects).1, ?connecting⟩ }
  case distinct =>
    rw [setPhase_socket, setPhase_socket] at hsocket
    exact h.distinct i j (hlive i hi).2 (hlive j hj).2 hsocket
  case mem_list =>
    simpa only [honList, setPhase_socket, setPhase_tcpClientList] using h.mem_list n
  case accepted_iff =>
    exact (hsame i .accepted (by simp) (by simp)).trans (h.accepted_iff i)
  case listed_iff =>
    exact (hsame i .listed (by simp) (by simp)).trans (h.listed_iff i)
  case listening =>
    rw [setPhase_socket]
    exact h.listening hlistens h0 i (hlive i hi).2
  case connecting =>
    simpa only [honList, setPhase_socket, setPhase_tcpSocket] using (h.connecting hconnects).2

/-- The sockets that the destructor shuts down besides those of the list: that of the server. -/
theorem server_not_listed_iff (h : Ordered s) :
    s.tcpSocket ≠ 0 ∧ s.tcpSocket ∉ s.tcpClientList ↔ s.listens = true ∧ s.tcpSocket ≠ 0 := by
  constructor
  · rintro ⟨h0, hmem⟩
    refine ⟨?_, h0⟩
    by_contra hconnects
    rcases (h.connecting (Bool.eq_false_iff.mpr hconnects)).2 h0 with ⟨i, hon, hsocket⟩
    exact hmem ((h.mem_list _).mpr ⟨i, hon, hsocket⟩)
  · rintro ⟨hlistens, h0⟩
    refine ⟨h0, fun hmem => ?_⟩
    rcases (h.mem_list _).mp hmem with ⟨i, hon, hsocket⟩
    exact h.listening hlistens h0 i (TcpClientPhase.live_of_onList hon) hsocket

/-- The destructor goes on. -/
theorem setDestructor (h : Ordered s) {destructor : TcpDestructor} {tcpSocket : ℕ}
    (hsocket : tcpSocket = s.tcpSocket ∨ tcpSocket = 0)
    (hquiet : destructor ≠ .notCalled → s.sender = .idle)
    (hclosing : ∀ closeSocket, destructor = .closing closeSocket →
      (closeSocket = true ↔ s.listens = true ∧ tcpSocket ≠ 0))
    (hjoined : destructor = .waiting ∨ destructor = .returned → s.server = .stopped)
    (hreturned : destructor = .returned → s.tcpClientList = [])
    (hclosed : destructor.closedSocket = true → tcpSocket = 0) :
    Ordered { s with destructor, tcpSocket } := by
  refine { h with
    listening := fun hlistens h0 => ?_
    connecting := fun hconnects => ⟨(h.connecting hconnects).1, fun h0 => ?_⟩
    quiet := hquiet
    closing := hclosing
    joined := hjoined
    returned := hreturned
    closed := hclosed }
  · dsimp only at h0 ⊢
    rcases hsocket with rfl | rfl
    · exact h.listening hlistens h0
    · exact absurd rfl h0
  · dsimp only at h0 ⊢
    rcases hsocket with rfl | rfl
    · exact (h.connecting hconnects).2 h0
    · exact absurd rfl h0

end Ordered

theorem Ordered.setHeld (h : Ordered s) (held : Option (TcpResource → Bool)) :
    Ordered { s with held } :=
  { h with }

end TcpSender

end Sur40
