import Sur40.Lib.Ledger
import Sur40.Lib.LengthPrefix
import Sur40.Lib.Machine
import Sur40.WebSocket

/-!
# The TCP sender and its threads

A server thread accepts clients, and a thread for each of them waits for the end of the
connection, takes the client off the list under the mutex, and closes the socket. The thread of
the TUIO server sends its packets to the clients on the list under the mutex, and in the end runs
the destructor. Sockets are numbers, which the system uses again once they are closed.

What `accept` does with the socket of the server is not among the accesses: the destructor may shut
that socket down and close it at the same time, and then `accept` fails.

## Main definitions

* `TcpClient`, `TcpSender`: the state of a client, and of the sender.
* `TcpEvent`, `TcpSender.step`: the steps of the threads.
* `TcpSender.StepCase`: the steps, each with what enables it and what it leaves.
* `tcpSystem`: the steps in any order.
-/

namespace Sur40

open Devlib Ledger

/-! ## Clients -/

/-- Where the thread of a client is; before it is created, where the server thread is with the
client. -/
inductive TcpClientPhase where
  | absent
  | accepted
  | listed
  /-- The thread has not read `tuio_type` yet. -/
  | starting
  | receiving
  | leaving
  | closing
  | closed
  deriving DecidableEq

/-- The socket is open. -/
def TcpClientPhase.live : TcpClientPhase → Bool
  | absent | closed => false
  | _ => true

/-- The socket of the client is on the list. -/
def TcpClientPhase.onList : TcpClientPhase → Bool
  | listed | starting | receiving | leaving => true
  | _ => false

structure TcpClient where
  socket : ℕ
  phase : TcpClientPhase
  /-- The socket has been shut down. -/
  shut : Bool
  /-- What was written to the socket. -/
  written : List UInt8
  /-- History: the packets that were sent while the client was on the list. -/
  packets : List (List UInt8)

def TcpClient.absent : TcpClient :=
  { socket := 0, phase := .absent, shut := false, written := [], packets := [] }

/-- A packet is sent to the clients on the list. -/
def TcpClient.addPacket (packet : List UInt8) (c : TcpClient) : TcpClient :=
  if c.phase.onList then { c with packets := c.packets ++ [packet] } else c

/-! ## Threads -/

/-- Where the server thread is. -/
inductive TcpServerThread where
  | accept
  | push (client : ℕ)
  | announce (client : ℕ)
  | spawn (client : ℕ)
  | stopped
  deriving DecidableEq

/-- Where `sendOscPacket` is. Behind `lock` it holds the mutex; `pending` are the sockets behind the
current one. -/
inductive TcpSendThread where
  | idle
  | lock (packet : List UInt8)
  | sending (packet : List UInt8) (socket : ℕ) (rest : List UInt8) (pending : List ℕ)
  deriving DecidableEq

/-- The mutex is free. -/
def TcpSendThread.unlocked : TcpSendThread → Bool
  | idle | lock _ => true
  | sending .. => false

/-- Where the destructor is. -/
inductive TcpDestructor where
  | notCalled
  | shutting
  | closing (closeSocket : Bool)
  | joining
  | waiting
  | returned
  deriving DecidableEq

inductive TcpResource where
  /-- The memory of the sender, with the mutex and the list. -/
  | sender
  | socket (number : ℕ)
  deriving DecidableEq

/-- A packet behind its size. -/
def tcpRecord (packet : List UInt8) : List UInt8 := record 4 packet

/-- The sender with its threads. A client is named by the number of clients accepted before it. -/
structure TcpSender where
  /-- The constructor with a port, which listens, and not the one with a host, which connects. -/
  listens : Bool
  /-- 0 is none. -/
  tcpSocket : ℕ
  clients : ℕ → TcpClient
  /-- The number of clients so far. -/
  accepted : ℕ
  tcpClientList : List ℕ
  connected : Bool
  server : TcpServerThread
  sender : TcpSendThread
  /-- History: the packets that were sent. -/
  sent : List (List UInt8)
  destructor : TcpDestructor
  /-- What is open or allocated; `none` after an access to what was not. -/
  held : Option (TcpResource → Bool)

/-- A step of a thread, with the result of the library call it makes. -/
inductive TcpEvent where
  /-- The system answers with a number that is free. -/
  | accept (socket : ℕ)
  | acceptFails
  | push
  | announce
  | spawn
  | clientStarts (client : ℕ)
  | clientRecv (client : ℕ) (more : Bool)
  | clientLeaves (client : ℕ)
  | clientCloses (client : ℕ)
  | sendOscPacket (packet : List UInt8)
  | lock
  /-- The number of the socket is that of a client. -/
  | send (client : ℕ) (bytes : ℤ)
  /-- The number of the socket is that of no client. -/
  | sendAstray
  | destroy
  | shutdown
  | closeSocket
  | join
  | waitForClients
  deriving DecidableEq

/-- The loop goes on with the next client, or ends and releases the mutex. -/
def nextSocket (packet : List UInt8) : List ℕ → TcpSendThread
  | [] => .idle
  | socket :: pending => .sending packet socket (tcpRecord packet) pending

namespace TcpSender

/-- The constructor with a port. -/
def listen (socket : ℕ) : TcpSender where
  listens := true
  tcpSocket := socket
  clients := fun _ => .absent
  accepted := 0
  tcpClientList := []
  connected := false
  server := .accept
  sender := .idle
  sent := []
  destructor := .notCalled
  held := some fun r => decide (r = .sender ∨ r = .socket socket)

/-- The constructor with a host and a port. -/
def connect (socket : ℕ) : TcpSender where
  listens := false
  tcpSocket := socket
  clients :=
    Function.update (fun _ => .absent) 0 { TcpClient.absent with socket, phase := .starting }
  accepted := 1
  tcpClientList := [socket]
  connected := true
  server := .stopped
  sender := .idle
  sent := []
  destructor := .notCalled
  held := some fun r => decide (r = .sender ∨ r = .socket socket)

def does (s : TcpSender) (ops : List (Op TcpResource)) : TcpSender :=
  { s with held := s.held.bind (run ops) }

def setClient (s : TcpSender) (client : ℕ) (c : TcpClient) : TcpSender :=
  { s with clients := Function.update s.clients client c }

def setPhase (s : TcpSender) (client : ℕ) (phase : TcpClientPhase) : TcpSender :=
  s.setClient client { s.clients client with phase }

/-- `~TcpSender` shuts the clients on the list down, and the server socket if it is none of them. -/
def shutdownAll (s : TcpSender) : TcpSender :=
  let closeSocket := decide (s.tcpSocket ≠ 0 ∧ s.tcpSocket ∉ s.tcpClientList)
  { s.does (.access .sender :: (s.tcpClientList.map fun socket => .access (.socket socket)) ++
      if closeSocket then [.access (.socket s.tcpSocket)] else []) with
    clients := fun i =>
      let c := s.clients i
      if c.phase.live ∧ c.socket ∈ s.tcpClientList then { c with shut := true } else c
    destructor := .closing closeSocket }

/-- One step of a thread; `none` where the step is not possible. -/
def step (e : TcpEvent) (s : TcpSender) : Option TcpSender :=
  match e with
  | .accept socket =>
      -- the destructor has not shut the server socket down
      if s.server = .accept ∧ (s.destructor = .notCalled ∨ s.destructor = .shutting) ∧
          socket ≠ 0 ∧ ∀ held ∈ s.held, held (.socket socket) = false then
        some { (s.does [.access .sender, .acquire (.socket socket)]).setClient s.accepted
            { TcpClient.absent with socket, phase := .accepted } with
          accepted := s.accepted + 1
          server := .push s.accepted }
      else none
  | .acceptFails =>
      if s.server = .accept then some { s.does [.access .sender] with server := .stopped } else none
  | .push =>
      match s.server with
      | .push client =>
          if s.sender.unlocked then
            some { (s.does [.access .sender]).setPhase client .listed with
              tcpClientList := s.tcpClientList ++ [(s.clients client).socket]
              server := .announce client }
          else none
      | _ => none
  | .announce =>
      match s.server with
      | .announce client =>
          -- `newClient` of this class does nothing
          some { s.does [.access .sender] with connected := true, server := .spawn client }
      | _ => none
  | .spawn =>
      match s.server with
      | .spawn client =>
          some { (s.does [.access .sender]).setPhase client .starting with server := .accept }
      | _ => none
  | .clientStarts client =>
      if (s.clients client).phase = .starting then
        some ((s.does [.access .sender]).setPhase client .receiving)
      else none
  | .clientRecv client more =>
      if (s.clients client).phase = .receiving then
        let s := s.does [.access (.socket (s.clients client).socket)]
        some (if more then s else s.setPhase client .leaving)
      else none
  | .clientLeaves client =>
      if (s.clients client).phase = .leaving ∧ s.sender.unlocked then
        let socket := (s.clients client).socket
        let rest := s.tcpClientList.filter fun other => other ≠ socket
        some { (s.does [.access .sender]).setPhase client .closing with
          tcpClientList := rest
          tcpSocket := if socket = s.tcpSocket then 0 else s.tcpSocket
          connected := if rest.length = 0 then false else s.connected }
      else none
  | .clientCloses client =>
      if (s.clients client).phase = .closing then
        some ((s.does [.release (.socket (s.clients client).socket)]).setPhase client .closed)
      else none
  | .sendOscPacket packet =>
      if s.sender = .idle ∧ s.destructor = .notCalled then
        let s := s.does [.access .sender]
        if s.connected = false ∨ packet.length > maxTcpSize ∨ packet.length = 0 then some s
        else some { s with sender := .lock packet }
      else none
  | .lock =>
      match s.sender with
      | .lock packet =>
          some { s.does [.access .sender] with
            sender := nextSocket packet s.tcpClientList
            sent := s.sent ++ [packet]
            clients := fun i => (s.clients i).addPacket packet }
      | _ => none
  | .send client bytes =>
      match s.sender with
      | .sending packet socket rest pending =>
          let c := s.clients client
          if c.phase.live ∧ c.socket = socket ∧ bytes ≤ rest.length ∧ (c.shut → bytes ≤ 0) then
            let s := s.does [.access .sender, .access (.socket socket)]
            if bytes ≤ 0 then
              some { s.setClient client { c with shut := true } with
                sender := nextSocket packet pending }
            else
              some { s.setClient client
                  { c with written := c.written ++ rest.take bytes.toNat } with
                sender := if rest.drop bytes.toNat = [] then nextSocket packet pending
                  else .sending packet socket (rest.drop bytes.toNat) pending }
          else none
      | _ => none
  | .sendAstray =>
      match s.sender with
      | .sending packet socket _ pending =>
          if ∀ held ∈ s.held, held (.socket socket) = false then
            some { s.does [.access .sender, .access (.socket socket)] with
              sender := nextSocket packet pending }
          else none
      | _ => none
  | .destroy =>
      if s.sender = .idle ∧ s.destructor = .notCalled then some { s with destructor := .shutting }
      else none
  | .shutdown => if s.destructor = .shutting then some s.shutdownAll else none
  | .closeSocket =>
      match s.destructor with
      | .closing closeSocket =>
          some { s.does (.access .sender ::
              if closeSocket then [.release (.socket s.tcpSocket)] else []) with
            tcpSocket := 0
            destructor := .joining }
      | _ => none
  | .join =>
      -- the thread is that of the only client if the constructor has connected
      if s.destructor = .joining ∧
          (if s.listens then s.server = .stopped else (s.clients 0).phase = .closed) then
        some { s.does [.access .sender] with destructor := .waiting }
      else none
  | .waitForClients =>
      if s.destructor = .waiting then
        let s := s.does [.access .sender]
        some (if s.tcpClientList = [] then
            { s.does [.release .sender] with destructor := .returned }
          else s)
      else none

/-! ## The steps, case by case -/

/-- The steps, each with what enables it and what it leaves. -/
inductive StepCase (s : TcpSender) : TcpEvent → TcpSender → Prop where
  | accept {socket : ℕ} (hserver : s.server = .accept)
      (hdestructor : s.destructor = .notCalled ∨ s.destructor = .shutting) (h0 : socket ≠ 0)
      (hfree : ∀ held ∈ s.held, held (.socket socket) = false) : StepCase s (.accept socket)
        { (s.does [.access .sender, .acquire (.socket socket)]).setClient s.accepted
            { TcpClient.absent with socket, phase := .accepted } with
          accepted := s.accepted + 1
          server := .push s.accepted }
  | acceptFails (hserver : s.server = .accept) : StepCase s .acceptFails
      { s.does [.access .sender] with server := .stopped }
  | push {client : ℕ} (hserver : s.server = .push client) (hfree : s.sender.unlocked = true) :
      StepCase s .push
        { (s.does [.access .sender]).setPhase client .listed with
          tcpClientList := s.tcpClientList ++ [(s.clients client).socket]
          server := .announce client }
  | announce {client : ℕ} (hserver : s.server = .announce client) : StepCase s .announce
      { s.does [.access .sender] with connected := true, server := .spawn client }
  | spawn {client : ℕ} (hserver : s.server = .spawn client) : StepCase s .spawn
      { (s.does [.access .sender]).setPhase client .starting with server := .accept }
  | clientStarts {client : ℕ} (hphase : (s.clients client).phase = .starting) :
      StepCase s (.clientStarts client) ((s.does [.access .sender]).setPhase client .receiving)
  | clientRecv {client : ℕ} (hphase : (s.clients client).phase = .receiving) :
      StepCase s (.clientRecv client true)
        (s.does [.access (.socket (s.clients client).socket)])
  | clientEnds {client : ℕ} (hphase : (s.clients client).phase = .receiving) :
      StepCase s (.clientRecv client false)
        ((s.does [.access (.socket (s.clients client).socket)]).setPhase client .leaving)
  | clientLeaves {client : ℕ} (hphase : (s.clients client).phase = .leaving)
      (hfree : s.sender.unlocked = true) : StepCase s (.clientLeaves client)
        { (s.does [.access .sender]).setPhase client .closing with
          tcpClientList := s.tcpClientList.filter fun other => other ≠ (s.clients client).socket
          tcpSocket := if (s.clients client).socket = s.tcpSocket then 0 else s.tcpSocket
          connected :=
            if (s.tcpClientList.filter fun other => other ≠ (s.clients client).socket).length = 0
            then false else s.connected }
  | clientCloses {client : ℕ} (hphase : (s.clients client).phase = .closing) :
      StepCase s (.clientCloses client)
        ((s.does [.release (.socket (s.clients client).socket)]).setPhase client .closed)
  | refused {packet : List UInt8} (hsender : s.sender = .idle)
      (hdestructor : s.destructor = .notCalled)
      (hrefused : s.connected = false ∨ packet.length > maxTcpSize ∨ packet.length = 0) :
      StepCase s (.sendOscPacket packet) (s.does [.access .sender])
  | sendOscPacket {packet : List UInt8} (hsender : s.sender = .idle)
      (hdestructor : s.destructor = .notCalled)
      (haccepted : ¬(s.connected = false ∨ packet.length > maxTcpSize ∨ packet.length = 0)) :
      StepCase s (.sendOscPacket packet) { s.does [.access .sender] with sender := .lock packet }
  | lock {packet : List UInt8} (hsender : s.sender = .lock packet) : StepCase s .lock
      { s.does [.access .sender] with
        sender := nextSocket packet s.tcpClientList
        sent := s.sent ++ [packet]
        clients := fun i => (s.clients i).addPacket packet }
  | sendFails {client : ℕ} {bytes : ℤ} {packet rest : List UInt8} {pending : List ℕ}
      (hsender : s.sender = .sending packet (s.clients client).socket rest pending)
      (hlive : (s.clients client).phase.live = true) (hbytes : bytes ≤ 0) :
      StepCase s (.send client bytes)
        { (s.does [.access .sender, .access (.socket (s.clients client).socket)]).setClient client
            { s.clients client with shut := true } with
          sender := nextSocket packet pending }
  | send {client : ℕ} {bytes : ℤ} {packet rest : List UInt8} {pending : List ℕ}
      (hsender : s.sender = .sending packet (s.clients client).socket rest pending)
      (hlive : (s.clients client).phase.live = true) (hshut : (s.clients client).shut = false)
      (hbytes : 0 < bytes) (hle : bytes ≤ rest.length) : StepCase s (.send client bytes)
        { (s.does [.access .sender, .access (.socket (s.clients client).socket)]).setClient client
            { s.clients client with written := (s.clients client).written ++ rest.take bytes.toNat }
          with
          sender := if rest.drop bytes.toNat = [] then nextSocket packet pending
            else .sending packet (s.clients client).socket (rest.drop bytes.toNat) pending }
  | sendAstray {packet rest : List UInt8} {socket : ℕ} {pending : List ℕ}
      (hsender : s.sender = .sending packet socket rest pending)
      (hfree : ∀ held ∈ s.held, held (.socket socket) = false) : StepCase s .sendAstray
        { s.does [.access .sender, .access (.socket socket)] with
          sender := nextSocket packet pending }
  | destroy (hsender : s.sender = .idle) (hdestructor : s.destructor = .notCalled) :
      StepCase s .destroy { s with destructor := .shutting }
  | shutdown (hdestructor : s.destructor = .shutting) : StepCase s .shutdown s.shutdownAll
  | closeSocket {closeSocket : Bool} (hdestructor : s.destructor = .closing closeSocket) :
      StepCase s .closeSocket
        { s.does (.access .sender ::
            if closeSocket then [.release (.socket s.tcpSocket)] else []) with
          tcpSocket := 0
          destructor := .joining }
  | join (hdestructor : s.destructor = .joining)
      (hthread : if s.listens then s.server = .stopped else (s.clients 0).phase = .closed) :
      StepCase s .join { s.does [.access .sender] with destructor := .waiting }
  | waits (hdestructor : s.destructor = .waiting) (hleft : s.tcpClientList ≠ []) :
      StepCase s .waitForClients (s.does [.access .sender])
  | returns (hdestructor : s.destructor = .waiting) (hempty : s.tcpClientList = []) :
      StepCase s .waitForClients
        { (s.does [.access .sender]).does [.release .sender] with destructor := .returned }

section

variable {s s' : TcpSender}

theorem push_cases (h : step .push s = some s') : StepCase s .push s' := by
  unfold step at h
  dsimp only at h
  split at h
  · next client hserver =>
      rw [Option.ite_none_right_eq_some, Option.some.injEq] at h
      rcases h with ⟨hfree, rfl⟩
      exact .push hserver hfree
  · cases h

theorem announce_cases (h : step .announce s = some s') : StepCase s .announce s' := by
  unfold step at h
  dsimp only at h
  split at h
  · next client hserver =>
      cases h
      exact .announce hserver
  · cases h

theorem spawn_cases (h : step .spawn s = some s') : StepCase s .spawn s' := by
  unfold step at h
  dsimp only at h
  split at h
  · next client hserver =>
      cases h
      exact .spawn hserver
  · cases h

theorem clientRecv_cases {client : ℕ} {more : Bool}
    (h : step (.clientRecv client more) s = some s') :
    StepCase s (.clientRecv client more) s' := by
  unfold step at h
  simp only [Option.ite_none_right_eq_some, Option.some.injEq] at h
  rcases h with ⟨hphase, rfl⟩
  cases more with
  | true => exact .clientRecv hphase
  | false => exact .clientEnds hphase

theorem sendOscPacket_cases {packet : List UInt8} (h : step (.sendOscPacket packet) s = some s') :
    StepCase s (.sendOscPacket packet) s' := by
  unfold step at h
  simp only [Option.ite_none_right_eq_some] at h
  rcases h with ⟨⟨hsender, hdestructor⟩, h⟩
  split_ifs at h with hrefused
  · cases h
    exact .refused hsender hdestructor hrefused
  · cases h
    exact .sendOscPacket hsender hdestructor hrefused

theorem lock_cases (h : step .lock s = some s') : StepCase s .lock s' := by
  unfold step at h
  dsimp only at h
  split at h
  · next packet hsender =>
      cases h
      exact .lock hsender
  · cases h

/-- A `send` that fails, or that takes a part of the record. -/
theorem send_cases {client : ℕ} {bytes : ℤ} (h : step (.send client bytes) s = some s') :
    StepCase s (.send client bytes) s' := by
  unfold step at h
  dsimp only at h
  split at h
  · next packet socket rest pending hsender =>
      rw [Option.ite_none_right_eq_some] at h
      rcases h with ⟨⟨hlive, rfl, hle, hshut⟩, h⟩
      split_ifs at h with hbytes hwhole
      · cases h
        exact .sendFails hsender hlive hbytes
      all_goals
        have hopen : (s.clients client).shut = false :=
          Bool.eq_false_iff.mpr fun htrue => hbytes (hshut htrue)
        cases h
      · have hsend := StepCase.send hsender hlive hopen (not_le.mp hbytes) hle
        rw [if_pos hwhole] at hsend
        exact hsend
      · have hsend := StepCase.send hsender hlive hopen (not_le.mp hbytes) hle
        rw [if_neg hwhole] at hsend
        exact hsend
  · cases h

theorem sendAstray_cases (h : step .sendAstray s = some s') : StepCase s .sendAstray s' := by
  unfold step at h
  dsimp only at h
  split at h
  · next packet socket rest pending hsender =>
      rw [Option.ite_none_right_eq_some, Option.some.injEq] at h
      rcases h with ⟨hfree, rfl⟩
      exact .sendAstray hsender hfree
  · cases h

theorem closeSocket_cases (h : step .closeSocket s = some s') : StepCase s .closeSocket s' := by
  unfold step at h
  dsimp only at h
  split at h
  · next closeSocket hdestructor =>
      cases h
      exact .closeSocket hdestructor
  · cases h

theorem waitForClients_cases (h : step .waitForClients s = some s') :
    StepCase s .waitForClients s' := by
  unfold step at h
  simp only [Option.ite_none_right_eq_some, Option.some.injEq] at h
  rcases h with ⟨hdestructor, rfl⟩
  split_ifs with hempty
  · exact .returns hdestructor hempty
  · exact .waits hdestructor hempty

end

/-- A step is one of the cases. -/
theorem step_cases {e : TcpEvent} {s s' : TcpSender} (h : step e s = some s') :
    StepCase s e s' := by
  cases e with
  | accept socket =>
      simp only [step, Option.ite_none_right_eq_some, Option.some.injEq] at h
      rcases h with ⟨⟨hserver, hdestructor, h0, hfree⟩, rfl⟩
      exact .accept hserver hdestructor h0 hfree
  | acceptFails =>
      simp only [step, Option.ite_none_right_eq_some, Option.some.injEq] at h
      rcases h with ⟨hserver, rfl⟩
      exact .acceptFails hserver
  | push => exact push_cases h
  | announce => exact announce_cases h
  | spawn => exact spawn_cases h
  | clientStarts client =>
      simp only [step, Option.ite_none_right_eq_some, Option.some.injEq] at h
      rcases h with ⟨hphase, rfl⟩
      exact .clientStarts hphase
  | clientRecv client more => exact clientRecv_cases h
  | clientLeaves client =>
      simp only [step, Option.ite_none_right_eq_some, Option.some.injEq] at h
      rcases h with ⟨⟨hphase, hfree⟩, rfl⟩
      exact .clientLeaves hphase hfree
  | clientCloses client =>
      simp only [step, Option.ite_none_right_eq_some, Option.some.injEq] at h
      rcases h with ⟨hphase, rfl⟩
      exact .clientCloses hphase
  | sendOscPacket packet => exact sendOscPacket_cases h
  | lock => exact lock_cases h
  | send client bytes => exact send_cases h
  | sendAstray => exact sendAstray_cases h
  | destroy =>
      simp only [step, Option.ite_none_right_eq_some, Option.some.injEq] at h
      rcases h with ⟨⟨hsender, hdestructor⟩, rfl⟩
      exact .destroy hsender hdestructor
  | shutdown =>
      simp only [step, Option.ite_none_right_eq_some, Option.some.injEq] at h
      rcases h with ⟨hdestructor, rfl⟩
      exact .shutdown hdestructor
  | closeSocket => exact closeSocket_cases h
  | join =>
      simp only [step, Option.ite_none_right_eq_some, Option.some.injEq] at h
      rcases h with ⟨⟨hdestructor, hthread⟩, rfl⟩
      exact .join hdestructor hthread
  | waitForClients => exact waitForClients_cases h

end TcpSender

def tcpSystem : Machine TcpSender TcpEvent := ⟨TcpSender.step⟩

end Sur40
