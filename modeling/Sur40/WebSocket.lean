import Sur40.Handshake
import Sur40.Lib.KeyedList
import Sur40.Lib.Machine
import Mathlib.Data.List.Basic

/-!
# The WebSocket sender and its threads

The server thread accepts a client, puts it on the list under the mutex, and only then
reads its request and writes the reply; a client thread waits for the end of the
connection; the thread of the TUIO server sends its packets to the clients on the list
under the mutex. The sending loop does not ask whether a client has its reply, so that
a frame can overtake the handshake.

## Main definitions

* `WebSockClient`, `WebSockSender`: the state of a client, and of the sender.
* `WebSockSender.step`: the steps of the threads.
* `WebSockSender.StepCase`: the steps, each with what enables it and what it leaves.
* `WebSockClient.Step`, `WebSockSender.step_clients`: what a step does to a client.
-/

namespace Sur40

open Devlib

/-! ## Clients -/

/-- Who wrote a byte to a client. -/
inductive Origin where
  | reply | frame
  deriving DecidableEq

/-- How far `newClient` is with a client. -/
inductive Handshake where
  /-- Not called yet, or inside the loop that reads the request. -/
  | reading
  /-- Inside `sendAll`, with the rest of the reply. -/
  | replying (rest : List UInt8)
  | replied
  /-- Returned because `recv` failed. -/
  | recvFailed
  /-- Returned because the request got too long. -/
  | tooLong
  /-- Returned because the request is not one for a WebSocket. -/
  | rejected
  /-- Returned with a rest of the reply that could not be sent. -/
  | replyFailed (rest : List UInt8)
  deriving DecidableEq

/-- The handshake is over without a reply. -/
def Handshake.Failed : Handshake → Prop
  | recvFailed | tooLong | rejected | replyFailed _ => True
  | _ => False

/-- The thread of a client. -/
inductive ClientThread where
  | none | receiving | leaving | closed
  deriving DecidableEq

structure WebSockClient where
  /-- What `newClient` has received. -/
  request : List UInt8
  handshake : Handshake
  /-- The socket has been shut down. -/
  shut : Bool
  /-- What was written to the socket. -/
  written : List (Origin × UInt8)
  thread : ClientThread
  deriving DecidableEq

namespace WebSockClient

/-- A client that has just been accepted. -/
def accepted : WebSockClient :=
  { request := [], handshake := .reading, shut := false, written := [], thread := .none }

/-- `send` with its result, the number of bytes it has taken. -/
def write (c : WebSockClient) (origin : Origin) (bytes : List UInt8) : WebSockClient :=
  { c with written := c.written ++ bytes.map fun b => (origin, b) }

/-- One byte for `newClient`, and the statements behind the loop once it ends. -/
def receive (c : WebSockClient) (b : UInt8) : WebSockClient :=
  let request := c.request ++ [b]
  if request.length > 4096 then { c with request := request, handshake := .tooLong }
  else if requestEnds request then
    match handshakeReply request with
    | none => { c with request := request, handshake := .rejected, shut := true }
    | some reply => { c with request := request, handshake := .replying reply }
  else { c with request := request }

/-- One `send` of the reply. -/
def reply (c : WebSockClient) (rest : List UInt8) (bytes : ℤ) : WebSockClient :=
  if bytes ≤ 0 then { c with handshake := .replyFailed rest }
  else
    let c := c.write .reply (rest.take bytes.toNat)
    if rest.drop bytes.toNat = [] then { c with handshake := .replied }
    else { c with handshake := .replying (rest.drop bytes.toNat) }

@[simp] theorem receive_written (c : WebSockClient) (b : UInt8) :
    (c.receive b).written = c.written := by
  simp only [receive]
  split
  · rfl
  · split
    · split <;> rfl
    · rfl

theorem reply_written (c : WebSockClient) (rest : List UInt8) (bytes : ℤ) :
    ∃ sent : List UInt8, (c.reply rest bytes).written =
      c.written ++ sent.map fun b => (Origin.reply, b) := by
  simp only [reply]
  split
  · exact ⟨[], by simp⟩
  · refine ⟨rest.take bytes.toNat, ?_⟩
    split <;> rfl

/-- A socket takes at most what it is given, and nothing once it has been shut down. -/
def CanSend (c : WebSockClient) (rest : List UInt8) (bytes : ℤ) : Prop :=
  bytes ≤ rest.length ∧ (c.shut = true → bytes ≤ 0)

instance (c : WebSockClient) (rest : List UInt8) (bytes : ℤ) : Decidable (c.CanSend rest bytes) :=
  inferInstanceAs (Decidable (_ ∧ _))

theorem CanSend.shut_eq_false {c : WebSockClient} {rest : List UInt8} {bytes : ℤ}
    (h : c.CanSend rest bytes) (hbytes : ¬ bytes ≤ 0) : c.shut = false := by
  rw [Bool.eq_false_iff]
  exact fun hshut => hbytes (h.2 hshut)

end WebSockClient

/-! ## Threads -/

/-- Where the server thread is; it is inside `newClient` while the handshake goes on. -/
inductive ServerThread where
  | accept
  | push (client : ℕ)
  | announce (client : ℕ)
  | newClient (client : ℕ)
  | spawn (client : ℕ)
  | stopped
  deriving DecidableEq

/-- Where `sendOscPacket` is. Behind `lock` it holds the mutex; `pending` are the clients
behind the current one. -/
inductive SendThread where
  | idle
  | lock (packet : List UInt8)
  | header (packet : List UInt8) (client : ℕ) (rest : List UInt8) (pending : List ℕ)
  | payload (packet : List UInt8) (client : ℕ) (rest : List UInt8) (pending : List ℕ)
  deriving DecidableEq

/-- The mutex is free. -/
def SendThread.unlocked : SendThread → Bool
  | idle | lock _ => true
  | header .. | payload .. => false

/-- The WebSocket header of a packet. -/
def webSocketHeader (len : ℕ) : List UInt8 :=
  if len ≤ 125 then [0x82, UInt8.ofNat len]
  else if len ≤ 65535 then [0x82, 126, UInt8.ofNat (len >>> 8), UInt8.ofNat len]
  else
    [0x82, 127, 0, 0, 0, 0, UInt8.ofNat (len >>> 24), UInt8.ofNat (len >>> 16),
      UInt8.ofNat (len >>> 8), UInt8.ofNat len]

/-- The loop goes on with the next client, or ends and releases the mutex. -/
def nextClient (packet : List UInt8) : List ℕ → SendThread
  | [] => .idle
  | client :: pending => .header packet client (webSocketHeader packet.length) pending

/-- `MAX_TCP_SIZE` -/
def maxTcpSize : ℕ := 65536

/-- The sender. A client is named by the number of clients accepted before it. -/
structure WebSockSender where
  clients : List WebSockClient
  tcpClientList : List ℕ
  connected : Bool
  server : ServerThread
  sender : SendThread
  deriving DecidableEq

/-- A step of a thread, with the result of the library call it makes. -/
inductive WebSockEvent where
  | accept
  | acceptFails
  | push
  | announce
  | recv (b : UInt8)
  | recvFails
  | sendReply (bytes : ℤ)
  | spawn
  | sendOscPacket (packet : List UInt8)
  | lock
  | sendFrame (bytes : ℤ)
  | clientRecv (client : ℕ) (more : Bool)
  | clientLeaves (client : ℕ)
  deriving DecidableEq

namespace WebSockSender

/-- The constructor. -/
def new : WebSockSender :=
  { clients := [], tcpClientList := [], connected := false, server := .accept, sender := .idle }

def modifyClient (s : WebSockSender) (client : ℕ) (f : WebSockClient → WebSockClient) :
    WebSockSender :=
  { s with clients := s.clients.modify client f }

/-- The server thread behind a step of `newClient`. -/
def returnFrom (client : ℕ) : Handshake → ServerThread
  | .reading | .replying _ => .newClient client
  | _ => .spawn client

/-- One `send` of the loop; `done` is the state behind the rest. -/
def sendPart (s : WebSockSender) (packet : List UInt8) (client : ℕ) (rest : List UInt8)
    (pending : List ℕ) (goOn : List UInt8 → SendThread) (done : SendThread) (bytes : ℤ) :
    Option WebSockSender :=
  match s.clients[client]? with
  | none => none
  | some c =>
      if ¬ c.CanSend rest bytes then none
      else if bytes ≤ 0 then
        some { s.modifyClient client (fun c => { c with shut := true }) with
          sender := nextClient packet pending }
      else
        some { s.modifyClient client (fun c => c.write .frame (rest.take bytes.toNat)) with
          sender := if rest.drop bytes.toNat = [] then done else goOn (rest.drop bytes.toNat) }

def step (e : WebSockEvent) (s : WebSockSender) : Option WebSockSender :=
  match e with
  | .accept =>
      if s.server = .accept then
        some { s with
          clients := s.clients ++ [.accepted]
          server := .push s.clients.length }
      else none
  | .acceptFails => if s.server = .accept then some { s with server := .stopped } else none
  | .push =>
      match s.server with
      | .push client =>
          if s.sender.unlocked then
            some { s with
              tcpClientList := s.tcpClientList ++ [client]
              server := .announce client }
          else none
      | _ => none
  | .announce =>
      match s.server with
      | .announce client =>
          some { s with
            connected := true
            server := .newClient client }
      | _ => none
  | .recv b =>
      match s.server with
      | .newClient client =>
          match s.clients[client]? with
          | some c =>
              if c.handshake = .reading then
                some { s.modifyClient client (fun c => c.receive b) with
                  server := returnFrom client (c.receive b).handshake }
              else none
          | none => none
      | _ => none
  | .recvFails =>
      match s.server with
      | .newClient client =>
          match s.clients[client]? with
          | some c =>
              if c.handshake = .reading then
                some { s.modifyClient client (fun c => { c with handshake := .recvFailed }) with
                  server := .spawn client }
              else none
          | none => none
      | _ => none
  | .sendReply bytes =>
      match s.server with
      | .newClient client =>
          match s.clients[client]? with
          | some c =>
              match c.handshake with
              | .replying rest =>
                  if c.CanSend rest bytes then
                    some { s.modifyClient client (fun c => c.reply rest bytes) with
                      server := returnFrom client (c.reply rest bytes).handshake }
                  else none
              | _ => none
          | none => none
      | _ => none
  | .spawn =>
      match s.server with
      | .spawn client =>
          some { s.modifyClient client (fun c => { c with thread := .receiving }) with
            server := .accept }
      | _ => none
  | .sendOscPacket packet =>
      if s.sender = .idle then
        if s.connected = false ∨ packet.length = 0 ∨ packet.length > maxTcpSize then some s
        else some { s with sender := .lock packet }
      else none
  | .lock =>
      match s.sender with
      | .lock packet => some { s with sender := nextClient packet s.tcpClientList }
      | _ => none
  | .sendFrame bytes =>
      match s.sender with
      | .header packet client rest pending =>
          s.sendPart packet client rest pending (fun rest => .header packet client rest pending)
            (.payload packet client packet pending) bytes
      | .payload packet client rest pending =>
          s.sendPart packet client rest pending (fun rest => .payload packet client rest pending)
            (nextClient packet pending) bytes
      | _ => none
  | .clientRecv client more =>
      match s.clients[client]? with
      | some c =>
          if c.thread = .receiving then
            some (if more then s
              else s.modifyClient client fun c => { c with thread := .leaving })
          else none
      | none => none
  | .clientLeaves client =>
      match s.clients[client]? with
      | some c =>
          if c.thread = .leaving ∧ s.sender.unlocked then
            let rest := s.tcpClientList.filter fun other => other ≠ client
            some { s.modifyClient client (fun c => { c with thread := .closed }) with
              tcpClientList := rest
              connected := if rest.length = 0 then false else s.connected }
          else none
      | none => none

/-- The client to which a step writes bytes of a frame, and the bytes. -/
def sentFrame (e : WebSockEvent) (s : WebSockSender) : Option (ℕ × List UInt8) :=
  match e, s.sender with
  | .sendFrame bytes, .header _ client rest _ | .sendFrame bytes, .payload _ client rest _ =>
      if bytes ≤ 0 then none else some (client, rest.take bytes.toNat)
  | _, _ => none

end WebSockSender

/-! ## What a step does to a client -/

namespace WebSockClient

/-- What the threads do to a client. -/
inductive Step (frame : List UInt8 → Prop) : WebSockClient → WebSockClient → Prop where
  | receive {c} (h : c.handshake = .reading) (b : UInt8) : Step frame c (c.receive b)
  | recvFails {c} (h : c.handshake = .reading) : Step frame c { c with handshake := .recvFailed }
  | reply {c rest} (h : c.handshake = .replying rest) (bytes : ℤ) :
      Step frame c (c.reply rest bytes)
  | thread (c) (t : ClientThread) : Step frame c { c with thread := t }
  | shut (c) : Step frame c { c with shut := true }
  | frame {c bytes} (h : c.shut = false) (hbytes : frame bytes) :
      Step frame c (c.write .frame bytes)

end WebSockClient

namespace WebSockClient

/-- What each of the steps of `newClient` does to its client. -/
inductive NewClientStep (c : WebSockClient) : WebSockEvent → WebSockClient → Prop where
  | recv (h : c.handshake = .reading) (b : UInt8) : NewClientStep c (.recv b) (c.receive b)
  | recvFails (h : c.handshake = .reading) :
      NewClientStep c .recvFails { c with handshake := .recvFailed }
  | sendReply {rest : List UInt8} {bytes : ℤ} (h : c.handshake = .replying rest)
      (hsend : c.CanSend rest bytes) : NewClientStep c (.sendReply bytes) (c.reply rest bytes)

variable {c c' : WebSockClient} {e : WebSockEvent}

theorem NewClientStep.step (h : c.NewClientStep e c') (frame : List UInt8 → Prop) :
    Step frame c c' := by
  cases h with
  | recv hreading b => exact .receive hreading b
  | recvFails hreading => exact .recvFails hreading
  | sendReply hreplying hsend => exact .reply hreplying _

end WebSockClient

namespace WebSockSender

/-- The steps, each with what enables it and what it leaves. -/
inductive StepCase (s : WebSockSender) : WebSockEvent → WebSockSender → Prop where
  | accept (h : s.server = .accept) : StepCase s .accept
      { s with clients := s.clients ++ [.accepted], server := .push s.clients.length }
  | acceptFails (h : s.server = .accept) : StepCase s .acceptFails { s with server := .stopped }
  | push {client : ℕ} (h : s.server = .push client) (hfree : s.sender.unlocked = true) :
      StepCase s .push
        { s with tcpClientList := s.tcpClientList ++ [client], server := .announce client }
  | announce {client : ℕ} (h : s.server = .announce client) : StepCase s .announce
      { s with connected := true, server := .newClient client }
  | newClient {e : WebSockEvent} {client : ℕ} {c c' : WebSockClient}
      (h : s.server = .newClient client) (hc : s.clients[client]? = some c)
      (hstep : c.NewClientStep e c') : StepCase s e
        { s with
          clients := s.clients.set client c'
          server := returnFrom client c'.handshake }
  | spawn {client : ℕ} (h : s.server = .spawn client) : StepCase s .spawn
      { s.modifyClient client (fun c => { c with thread := .receiving }) with server := .accept }
  | refused {packet : List UInt8} (h : s.sender = .idle)
      (hrefused : s.connected = false ∨ packet.length = 0 ∨ packet.length > maxTcpSize) :
      StepCase s (.sendOscPacket packet) s
  | sendOscPacket {packet : List UInt8} (h : s.sender = .idle)
      (haccepted : ¬(s.connected = false ∨ packet.length = 0 ∨ packet.length > maxTcpSize)) :
      StepCase s (.sendOscPacket packet) { s with sender := .lock packet }
  | lock {packet : List UInt8} (h : s.sender = .lock packet) : StepCase s .lock
      { s with sender := nextClient packet s.tcpClientList }
  | sendFails {bytes : ℤ} {packet rest : List UInt8} {client : ℕ} {pending : List ℕ}
      {c : WebSockClient} (h : s.sender = .header packet client rest pending ∨
        s.sender = .payload packet client rest pending)
      (hc : s.clients[client]? = some c) (hbytes : bytes ≤ 0) : StepCase s (.sendFrame bytes)
        { s with
          clients := s.clients.set client { c with shut := true }
          sender := nextClient packet pending }
  | header {bytes : ℤ} {packet rest : List UInt8} {client : ℕ} {pending : List ℕ}
      {c : WebSockClient} (h : s.sender = .header packet client rest pending)
      (hc : s.clients[client]? = some c) (hsend : c.CanSend rest bytes) (hbytes : 0 < bytes) :
      StepCase s (.sendFrame bytes)
        { s with
          clients := s.clients.set client (c.write .frame (rest.take bytes.toNat))
          sender := if rest.drop bytes.toNat = [] then .payload packet client packet pending
            else .header packet client (rest.drop bytes.toNat) pending }
  | payload {bytes : ℤ} {packet rest : List UInt8} {client : ℕ} {pending : List ℕ}
      {c : WebSockClient} (h : s.sender = .payload packet client rest pending)
      (hc : s.clients[client]? = some c) (hsend : c.CanSend rest bytes) (hbytes : 0 < bytes) :
      StepCase s (.sendFrame bytes)
        { s with
          clients := s.clients.set client (c.write .frame (rest.take bytes.toNat))
          sender := if rest.drop bytes.toNat = [] then nextClient packet pending
            else .payload packet client (rest.drop bytes.toNat) pending }
  | clientRecv (client : ℕ) : StepCase s (.clientRecv client true) s
  | clientEnds {client : ℕ} {c : WebSockClient} (hc : s.clients[client]? = some c) :
      StepCase s (.clientRecv client false)
        { s with clients := s.clients.set client { c with thread := .leaving } }
  | clientLeaves {client : ℕ} {c : WebSockClient} (hc : s.clients[client]? = some c)
      (hthread : c.thread = .leaving) (hfree : s.sender.unlocked = true) :
      StepCase s (.clientLeaves client)
        { s with
          clients := s.clients.set client { c with thread := .closed }
          tcpClientList := s.tcpClientList.filter fun other => other ≠ client
          connected := if (s.tcpClientList.filter fun other => other ≠ client).length = 0 then
            false else s.connected }

section

variable {e : WebSockEvent} {s s' : WebSockSender}

theorem modifyClient_eq {client : ℕ} {c : WebSockClient} (hc : s.clients[client]? = some c)
    (f : WebSockClient → WebSockClient) :
    s.modifyClient client f = { s with clients := s.clients.set client (f c) } := by
  rw [modifyClient, KeyedList.modify_eq_set hc]

/-- One `send` of the loop: it fails, or it takes bytes. -/
theorem sendPart_cases {packet rest : List UInt8} {client : ℕ} {pending : List ℕ}
    {goOn : List UInt8 → SendThread} {done : SendThread} {bytes : ℤ}
    (h : s.sendPart packet client rest pending goOn done bytes = some s') :
    ∃ c, s.clients[client]? = some c ∧
      (bytes ≤ 0 ∧ s' = { s with
          clients := s.clients.set client { c with shut := true }
          sender := nextClient packet pending } ∨
        0 < bytes ∧ c.CanSend rest bytes ∧ s' = { s with
          clients := s.clients.set client (c.write .frame (rest.take bytes.toNat))
          sender := if rest.drop bytes.toNat = [] then done
            else goOn (rest.drop bytes.toNat) }) := by
  cases hc : s.clients[client]? with
  | none => simp [sendPart, hc] at h
  | some c =>
      refine ⟨c, rfl, ?_⟩
      by_cases hsend : c.CanSend rest bytes
      · by_cases hbytes : bytes ≤ 0
        · simp only [sendPart, hc, hsend, hbytes, not_true_eq_false, if_false, if_true,
            Option.some.injEq] at h
          rw [← h, modifyClient_eq hc]
          exact .inl ⟨hbytes, rfl⟩
        · simp only [sendPart, hc, hsend, hbytes, not_true_eq_false, if_false,
            Option.some.injEq] at h
          rw [← h, modifyClient_eq hc]
          exact .inr ⟨Int.not_le.mp hbytes, hsend, rfl⟩
      · simp [sendPart, hc, hsend] at h

/-! ### The steps, thread by thread -/

theorem accept_cases (h : step .accept s = some s') : StepCase s .accept s' := by
  simp only [step] at h
  split at h
  · next hserver =>
      cases h
      exact .accept hserver
  · cases h

theorem acceptFails_cases (h : step .acceptFails s = some s') : StepCase s .acceptFails s' := by
  simp only [step] at h
  split at h
  · next hserver =>
      cases h
      exact .acceptFails hserver
  · cases h

theorem push_cases (h : step .push s = some s') : StepCase s .push s' := by
  simp only [step] at h
  split at h
  · next client hserver =>
      split at h
      · next hfree =>
          cases h
          exact .push hserver hfree
      · cases h
  · cases h

theorem announce_cases (h : step .announce s = some s') : StepCase s .announce s' := by
  simp only [step] at h
  split at h
  · next client hserver =>
      cases h
      exact .announce hserver
  · cases h

theorem recv_cases {b : UInt8} (h : step (.recv b) s = some s') : StepCase s (.recv b) s' := by
  simp only [step] at h
  split at h
  · next client hserver =>
      split at h
      · next c hc =>
          split at h
          · next hreading =>
              cases h
              rw [modifyClient_eq hc]
              exact .newClient hserver hc (.recv hreading b)
          · cases h
      · cases h
  · cases h

theorem recvFails_cases (h : step .recvFails s = some s') : StepCase s .recvFails s' := by
  simp only [step] at h
  split at h
  · next client hserver =>
      split at h
      · next c hc =>
          split at h
          · next hreading =>
              cases h
              rw [modifyClient_eq hc]
              exact .newClient hserver hc (.recvFails hreading)
          · cases h
      · cases h
  · cases h

theorem sendReply_cases {bytes : ℤ} (h : step (.sendReply bytes) s = some s') :
    StepCase s (.sendReply bytes) s' := by
  simp only [step] at h
  split at h
  · next client hserver =>
      split at h
      · next c hc =>
          split at h
          · next rest hreplying =>
              split at h
              · next hsend =>
                  cases h
                  rw [modifyClient_eq hc]
                  exact .newClient hserver hc (.sendReply hreplying hsend)
              · cases h
          · cases h
      · cases h
  · cases h

theorem spawn_cases (h : step .spawn s = some s') : StepCase s .spawn s' := by
  simp only [step] at h
  split at h
  · next client hserver =>
      cases h
      exact .spawn hserver
  · cases h

theorem sendOscPacket_cases {packet : List UInt8}
    (h : step (.sendOscPacket packet) s = some s') : StepCase s (.sendOscPacket packet) s' := by
  simp only [step] at h
  split at h
  · next hidle =>
      split at h
      · next hrefused =>
          cases h
          exact .refused hidle hrefused
      · next haccepted =>
          cases h
          exact .sendOscPacket hidle haccepted
  · cases h

theorem lock_cases (h : step .lock s = some s') : StepCase s .lock s' := by
  simp only [step] at h
  split at h
  · next packet hsender =>
      cases h
      exact .lock hsender
  · cases h

theorem sendFrame_cases {bytes : ℤ} (h : step (.sendFrame bytes) s = some s') :
    StepCase s (.sendFrame bytes) s' := by
  simp only [step] at h
  split at h
  · next packet client rest pending hsender =>
      obtain ⟨c, hc, ⟨hbytes, rfl⟩ | ⟨hbytes, hsend, rfl⟩⟩ := sendPart_cases h
      · exact .sendFails (.inl hsender) hc hbytes
      · exact .header hsender hc hsend hbytes
  · next packet client rest pending hsender =>
      obtain ⟨c, hc, ⟨hbytes, rfl⟩ | ⟨hbytes, hsend, rfl⟩⟩ := sendPart_cases h
      · exact .sendFails (.inr hsender) hc hbytes
      · exact .payload hsender hc hsend hbytes
  · cases h

theorem clientRecv_cases {client : ℕ} {more : Bool}
    (h : step (.clientRecv client more) s = some s') :
    StepCase s (.clientRecv client more) s' := by
  simp only [step] at h
  split at h
  · next c hc =>
      split at h
      · cases h
        cases more with
        | true => exact .clientRecv client
        | false =>
            simp only [Bool.false_eq_true, if_false]
            rw [modifyClient_eq hc]
            exact .clientEnds hc
      · cases h
  · cases h

theorem clientLeaves_cases {client : ℕ} (h : step (.clientLeaves client) s = some s') :
    StepCase s (.clientLeaves client) s' := by
  simp only [step] at h
  split at h
  · next c hc =>
      split at h
      · next hleaves =>
          cases h
          rw [modifyClient_eq hc]
          exact .clientLeaves hc hleaves.1 hleaves.2
      · cases h
  · cases h

theorem step_cases (h : step e s = some s') : StepCase s e s' := by
  cases e with
  | accept => exact accept_cases h
  | acceptFails => exact acceptFails_cases h
  | push => exact push_cases h
  | announce => exact announce_cases h
  | recv b => exact recv_cases h
  | recvFails => exact recvFails_cases h
  | sendReply bytes => exact sendReply_cases h
  | spawn => exact spawn_cases h
  | sendOscPacket packet => exact sendOscPacket_cases h
  | lock => exact lock_cases h
  | sendFrame bytes => exact sendFrame_cases h
  | clientRecv client more => exact clientRecv_cases h
  | clientLeaves client => exact clientLeaves_cases h

/-! ### What a step does to a client -/

/-- A step accepts a client, or does something to one. -/
theorem step_clients (h : step e s = some s') :
    s'.clients = s.clients ∨ s'.clients = s.clients ++ [.accepted] ∨
      ∃ i c c', s.clients[i]? = some c ∧ s'.clients = s.clients.set i c' ∧
        WebSockClient.Step (fun bytes => sentFrame e s = some (i, bytes)) c c' := by
  cases step_cases h with
  | accept hserver => exact .inr (.inl rfl)
  | acceptFails hserver => exact .inl rfl
  | push hserver hfree => exact .inl rfl
  | announce hserver => exact .inl rfl
  | newClient hserver hc hstep => exact .inr (.inr ⟨_, _, _, hc, rfl, hstep.step _⟩)
  | @spawn client hserver =>
      cases hc : s.clients[client]? with
      | none => exact .inl (List.modify_eq_self (by simpa using hc))
      | some c => exact .inr (.inr ⟨client, c, _, hc, KeyedList.modify_eq_set hc _, .thread c _⟩)
  | refused hidle hrefused => exact .inl rfl
  | sendOscPacket hidle haccepted => exact .inl rfl
  | lock hsender => exact .inl rfl
  | sendFails hsender hc hbytes => exact .inr (.inr ⟨_, _, _, hc, rfl, .shut _⟩)
  | header hsender hc hsend hbytes =>
      refine .inr (.inr ⟨_, _, _, hc, rfl, .frame (hsend.shut_eq_false (by omega)) ?_⟩)
      simpa [sentFrame, hsender] using hbytes
  | payload hsender hc hsend hbytes =>
      refine .inr (.inr ⟨_, _, _, hc, rfl, .frame (hsend.shut_eq_false (by omega)) ?_⟩)
      simpa [sentFrame, hsender] using hbytes
  | clientRecv client => exact .inl rfl
  | clientEnds hc => exact .inr (.inr ⟨_, _, _, hc, rfl, .thread _ _⟩)
  | clientLeaves hc hthread hfree => exact .inr (.inr ⟨_, _, _, hc, rfl, .thread _ _⟩)

/-- A socket that takes bytes takes at least one. -/
theorem take_ne_nil {c : WebSockClient} {rest : List UInt8} {bytes : ℤ}
    (hsend : c.CanSend rest bytes) (hbytes : 0 < bytes) : rest.take bytes.toNat ≠ [] := by
  have hle := hsend.1
  rw [ne_eq, List.take_eq_nil_iff, ← List.length_eq_zero_iff]
  omega

/-- What a step does that writes bytes of a frame. -/
theorem sentFrame_spec {i : ℕ} {sent : List UInt8} (hsent : sentFrame e s = some (i, sent))
    (h : step e s = some s') :
    sent ≠ [] ∧ ∃ c, s.clients[i]? = some c ∧ c.shut = false ∧
      s'.clients = s.clients.set i (c.write .frame sent) := by
  cases step_cases h with
  | newClient hserver hc hstep => cases hstep <;> cases hsent
  | sendFails hsender hc hbytes =>
      rcases hsender with hsender | hsender
      · simp [sentFrame, hsender, hbytes] at hsent
      · simp [sentFrame, hsender, hbytes] at hsent
  | header hsender hc hsend hbytes =>
      simp only [sentFrame, hsender, if_neg (Int.not_le.mpr hbytes)] at hsent
      cases hsent
      exact ⟨take_ne_nil hsend hbytes, _, hc, hsend.shut_eq_false (by omega), rfl⟩
  | payload hsender hc hsend hbytes =>
      simp only [sentFrame, hsender, if_neg (Int.not_le.mpr hbytes)] at hsent
      cases hsent
      exact ⟨take_ne_nil hsend hbytes, _, hc, hsend.shut_eq_false (by omega), rfl⟩
  | _ => cases hsent

end

end WebSockSender

end Sur40
