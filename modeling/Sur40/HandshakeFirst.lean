import Sur40.WebSocket

/-!
# The handshake comes first

A client has its whole reply when its request was one for a WebSocket and the network has
taken as many bytes of the reply as there are. Both can be read off the steps of the
threads. So the frames of a run are behind the replies if and only if every client to
which the sending loop writes has sent such a request and has been answered by then.

## Main definitions

* `HandshakeFirst`: every frame is behind the reply.
* `exchanges`: what the steps of a run say of the handshakes.
* `SendsToAnswered`: the condition on a step.
* `handshakeFirst_iff`: the runs in which the handshake comes first.
-/

namespace Sur40

open Devlib

/-- The bytes of the reply among those written to a client. -/
def replyBytes (written : List (Origin × UInt8)) : List UInt8 :=
  (written.filter fun p => p.1 = .reply).map Prod.snd

@[simp] theorem replyBytes_append (v w : List (Origin × UInt8)) :
    replyBytes (v ++ w) = replyBytes v ++ replyBytes w := by
  simp [replyBytes]

@[simp] theorem replyBytes_reply (bytes : List UInt8) :
    replyBytes (bytes.map fun b => (Origin.reply, b)) = bytes := by
  simp [replyBytes, List.filter_map, Function.comp_def]

@[simp] theorem replyBytes_frame (bytes : List UInt8) :
    replyBytes (bytes.map fun b => (Origin.frame, b)) = [] := by
  simp [replyBytes, List.filter_map, Function.comp_def]

theorem replyBytes_write_reply (c : WebSockClient) (bytes : List UInt8) :
    replyBytes (c.write .reply bytes).written = replyBytes c.written ++ bytes := by
  simp [WebSockClient.write]

theorem replyBytes_write_frame (c : WebSockClient) (bytes : List UInt8) :
    replyBytes (c.write .frame bytes).written = replyBytes c.written := by
  simp [WebSockClient.write]

namespace WebSockClient

/-- The bytes hold the whole reply to the client's request. -/
def ResponseComplete (c : WebSockClient) (written : List (Origin × UInt8)) : Prop :=
  handshakeReply c.request = some (replyBytes written)

/-- No byte of a frame was written before the whole reply, and none at all if the
handshake failed. -/
structure HandshakeFirst (c : WebSockClient) : Prop where
  behind : ∀ pre b post, c.written = pre ++ (.frame, b) :: post → c.ResponseComplete pre
  failed : c.handshake.Failed → ∀ p ∈ c.written, p.1 ≠ .frame

/-- How the bytes of the reply and the progress of `newClient` belong together. -/
def Inv (c : WebSockClient) : Prop :=
  match c.handshake with
  | .reading | .recvFailed | .tooLong => replyBytes c.written = []
  | .rejected => replyBytes c.written = [] ∧ c.shut = true
  | .replying rest | .replyFailed rest =>
      rest ≠ [] ∧ handshakeReply c.request = some (replyBytes c.written ++ rest)
  | .replied => handshakeReply c.request = some (replyBytes c.written)

theorem inv_accepted : accepted.Inv := rfl

theorem Inv.receive {c : WebSockClient} (hc : c.Inv) (h : c.handshake = .reading) (b : UInt8) :
    (c.receive b).Inv := by
  have hnone : replyBytes c.written = [] := by simpa [Inv, h] using hc
  unfold WebSockClient.receive
  dsimp only
  split
  · exact hnone
  · split
    · split
      · exact ⟨hnone, rfl⟩
      · rename_i reply hreply
        exact ⟨handshakeReply_ne_nil hreply, by simpa [hnone] using hreply⟩
    · simpa [Inv, h] using hnone

theorem Inv.reply {c : WebSockClient} (hc : c.Inv) {rest : List UInt8}
    (h : c.handshake = .replying rest) (bytes : ℤ) : (c.reply rest bytes).Inv := by
  obtain ⟨hrest, hreply⟩ : rest ≠ [] ∧
      handshakeReply c.request = some (replyBytes c.written ++ rest) := by
    simpa [Inv, h] using hc
  rw [WebSockClient.reply]
  split
  · exact ⟨hrest, hreply⟩
  · have hsplit : replyBytes c.written ++ rest =
        replyBytes c.written ++ rest.take bytes.toNat ++ rest.drop bytes.toNat := by
      simp
    dsimp only
    split
    · rename_i hdone
      rw [hsplit, hdone, List.append_nil, ← replyBytes_write_reply] at hreply
      exact hreply
    · rename_i hmore
      rw [hsplit, ← replyBytes_write_reply] at hreply
      exact ⟨hmore, hreply⟩

/-- What a step may change besides the handshake leaves the invariant alone. -/
theorem Inv.congr {c c' : WebSockClient} (hc : c.Inv) (hrequest : c'.request = c.request)
    (hhandshake : c'.handshake = c.handshake)
    (hwritten : replyBytes c'.written = replyBytes c.written)
    (hshut : c.shut = true → c'.shut = true) : c'.Inv := by
  rw [Inv] at *
  rw [hhandshake]
  split <;> simp_all

theorem Inv.step {c c' : WebSockClient} {frame : List UInt8 → Prop} (hc : c.Inv)
    (h : Step frame c c') : c'.Inv := by
  cases h with
  | receive h b => exact hc.receive h b
  | recvFails h =>
      have hnone : replyBytes c.written = [] := by simpa [Inv, h] using hc
      exact hnone
  | reply h bytes => exact hc.reply h bytes
  | thread t => exact hc.congr rfl rfl rfl id
  | shut => exact hc.congr rfl rfl rfl fun _ => rfl
  | frame h hbytes => exact hc.congr rfl rfl (replyBytes_write_frame c _) id

/-- No exit of `newClient` but the last one leaves the reply whole. -/
theorem Inv.replied_of_whole {c : WebSockClient} (hc : c.Inv) (hne : replyBytes c.written ≠ [])
    (hwhole : ∀ rest, handshakeReply c.request = some (replyBytes c.written ++ rest) → rest = []) :
    c.handshake = .replied := by
  rw [Inv] at hc
  cases hhandshake : c.handshake with
  | reading => exact absurd (by simpa [hhandshake] using hc) hne
  | replying rest =>
      rw [hhandshake] at hc
      exact absurd (hwhole rest hc.2) hc.1
  | replied => rfl
  | recvFailed => exact absurd (by simpa [hhandshake] using hc) hne
  | tooLong => exact absurd (by simpa [hhandshake] using hc) hne
  | rejected =>
      rw [hhandshake] at hc
      exact absurd hc.1 hne
  | replyFailed rest =>
      rw [hhandshake] at hc
      exact absurd (hwhole rest hc.2) hc.1

/-- The reply is complete exactly when `newClient` has returned behind its last statement. -/
theorem Inv.responseComplete_iff {c : WebSockClient} (hc : c.Inv) :
    c.ResponseComplete c.written ↔ c.handshake = .replied := by
  constructor
  · intro hcomplete
    rw [ResponseComplete] at hcomplete
    apply hc.replied_of_whole (handshakeReply_ne_nil hcomplete)
    intro rest hrest
    rw [hcomplete, Option.some.injEq] at hrest
    exact List.self_eq_append_right.mp hrest
  · intro hreplied
    simpa [Inv, ResponseComplete, hreplied] using hc

/-! ## The handshake, seen from outside -/

end WebSockClient

/-- What `recv` has delivered from a client, and how many bytes the sends of the reply have
taken. -/
structure Exchange where
  request : List UInt8
  taken : ℕ

/-- The server thread is occupied with the client that it has accepted last. -/
def Exchange.step (xs : List Exchange) : WebSockEvent → List Exchange
  | .accept => xs ++ [{ request := [], taken := 0 }]
  | .recv b => xs.modify (xs.length - 1) fun x => { x with request := x.request ++ [b] }
  | .sendReply bytes =>
      xs.modify (xs.length - 1) fun x => { x with taken := x.taken + bytes.toNat }
  | _ => xs

/-- The handshakes of all clients, as the steps of a run show them. -/
def exchanges (es : List WebSockEvent) : List Exchange := es.foldl Exchange.step []

/-- The request is one for a WebSocket, and all bytes of the reply to it have been taken. -/
def Exchange.Answered (x : Exchange) : Prop :=
  ∃ reply, handshakeReply x.request = some reply ∧ x.taken = reply.length

namespace WebSockClient

def exchange (c : WebSockClient) : Exchange :=
  { request := c.request, taken := (replyBytes c.written).length }

theorem receive_exchange (c : WebSockClient) (b : UInt8) :
    (c.receive b).exchange = { c.exchange with request := c.request ++ [b] } := by
  have hrequest : (c.receive b).request = c.request ++ [b] := by
    simp only [receive]
    split
    · rfl
    · split
      · split <;> rfl
      · rfl
  rw [exchange, exchange, hrequest, receive_written]

theorem reply_exchange {c : WebSockClient} {rest : List UInt8} {bytes : ℤ}
    (hsend : c.CanSend rest bytes) :
    (c.reply rest bytes).exchange = { c.exchange with
      taken := (replyBytes c.written).length + bytes.toNat } := by
  simp only [reply]
  split
  · next hbytes => simp [exchange, Int.toNat_of_nonpos hbytes]
  · have htaken : (rest.take bytes.toNat).length = bytes.toNat := by
      have hle := hsend.1
      rw [List.length_take]
      omega
    split
    · simp only [exchange, replyBytes_write_reply, List.length_append, htaken]
      rfl
    · simp only [exchange, replyBytes_write_reply, List.length_append, htaken]
      rfl

/-- An answered client is one for which `newClient` has returned behind its last statement. -/
theorem Inv.answered_iff {c : WebSockClient} (hc : c.Inv) :
    c.exchange.Answered ↔ c.handshake = .replied := by
  constructor
  · rintro ⟨reply, hreply, htaken⟩
    have hpos : 0 < reply.length := List.length_pos_of_ne_nil (handshakeReply_ne_nil hreply)
    simp only [exchange] at hreply htaken
    apply hc.replied_of_whole
    · apply List.ne_nil_of_length_pos
      rw [htaken]
      exact hpos
    · intro rest hrest
      rw [hreply, Option.some.injEq] at hrest
      have hlength := congrArg List.length hrest
      rw [List.length_append, htaken] at hlength
      apply List.eq_nil_of_length_eq_zero
      omega
  · intro hreplied
    have hreply : handshakeReply c.request = some (replyBytes c.written) := by
      simpa [Inv, hreplied] using hc
    exact ⟨replyBytes c.written, hreply, rfl⟩

/-! ## Frames behind the reply -/

/-- A client whose frames were all sent behind its reply. -/
structure Clean (c : WebSockClient) : Prop where
  inv : c.Inv
  first : c.HandshakeFirst
  replied : ∀ p ∈ c.written, p.1 = .frame → c.handshake = .replied

theorem clean_of_no_frames {c : WebSockClient} (hc : c.Inv)
    (h : ∀ p ∈ c.written, p.1 ≠ .frame) : c.Clean where
  inv := hc
  first := by
    refine ⟨fun pre b post hwritten => ?_, fun _ => h⟩
    exact absurd rfl (h (.frame, b) (by simp [hwritten]))
  replied := fun p hp hframe => absurd hframe (h p hp)

theorem Clean.no_frames {c : WebSockClient} (hc : c.Clean) (h : c.handshake ≠ .replied) :
    ∀ p ∈ c.written, p.1 ≠ .frame :=
  fun p hp hframe => h (hc.replied p hp hframe)

/-- A frame for a client that has its reply. -/
theorem Clean.write_frame {c : WebSockClient} (hc : c.Clean) (h : c.handshake = .replied)
    (bytes : List UInt8) : (c.write .frame bytes).HandshakeFirst := by
  have hcomplete : c.ResponseComplete c.written := hc.inv.responseComplete_iff.mpr h
  refine ⟨fun pre b post hwritten => ?_, fun hfailed => ?_⟩
  · rcases List.append_eq_append_iff.mp hwritten with ⟨bs, hpre, hsent⟩ | ⟨as, hold, hnew⟩
    · -- the byte is one of the new ones
      have hnone : replyBytes bs = [] := by
        have hframes := replyBytes_frame bytes
        rw [hsent, replyBytes_append] at hframes
        exact (List.append_eq_nil_iff.mp hframes).1
      rw [hpre]
      simpa [ResponseComplete, write, hnone] using hcomplete
    · cases as with
      | nil =>
          rw [List.append_nil] at hold
          exact hold ▸ hcomplete
      | cons p as =>
          obtain ⟨rfl, -⟩ := List.cons.inj hnew
          exact hc.first.behind pre b as hold
  · rw [show (c.write .frame bytes).handshake = c.handshake from rfl, h] at hfailed
    exact hfailed.elim

theorem Clean.step {c c' : WebSockClient} {frame : List UInt8 → Prop} (hc : c.Clean)
    (h : Step frame c c') (hframe : ∀ bytes, frame bytes → c.handshake = .replied) :
    c'.Clean := by
  have hinv := hc.inv.step h
  cases h with
  | receive h b =>
      have hnone := hc.no_frames (by simp [h])
      exact clean_of_no_frames hinv (by simpa using hnone)
  | recvFails h => exact clean_of_no_frames hinv (hc.no_frames (by simp [h]))
  | @reply rest h bytes =>
      have hnone := hc.no_frames (by simp [h])
      obtain ⟨sent, hwritten⟩ := c.reply_written rest bytes
      refine clean_of_no_frames hinv fun p hp => ?_
      rw [hwritten, List.mem_append, List.mem_map] at hp
      rcases hp with hp | ⟨b, -, rfl⟩
      · exact hnone p hp
      · simp
  | thread t => exact ⟨hinv, ⟨hc.first.behind, hc.first.failed⟩, hc.replied⟩
  | shut => exact ⟨hinv, ⟨hc.first.behind, hc.first.failed⟩, hc.replied⟩
  | frame h hbytes =>
      have hreplied := hframe _ hbytes
      exact ⟨hinv, hc.write_frame hreplied _, fun _ _ _ => hreplied⟩

end WebSockClient

/-! ## Runs -/

/-- The client with which the server thread is occupied. -/
def ServerThread.client : ServerThread → Option ℕ
  | .accept | .stopped => none
  | .push client | .announce client | .newClient client | .spawn client => some client

namespace WebSockSender

/-- The threads as one system; any of them may take the next step. -/
def threads : Machine WebSockSender WebSockEvent := ⟨step⟩

/-- Every client has its whole reply in front of its frames. -/
def HandshakeFirst (s : WebSockSender) : Prop := ∀ c ∈ s.clients, c.HandshakeFirst

/-- If the step behind `es` writes bytes of a frame to a client, the client has been answered
by then. -/
def SendsToAnswered (es : List WebSockEvent) (e : WebSockEvent) (s : WebSockSender) : Prop :=
  ∀ i bytes, sentFrame e s = some (i, bytes) →
    ∃ x, (exchanges es)[i]? = some x ∧ x.Answered

variable {e : WebSockEvent} {s s' : WebSockSender} {es : List WebSockEvent}

theorem returnFrom_client {client : ℕ} {handshake : Handshake} :
    (returnFrom client handshake).client = some client := by
  cases handshake <;> rfl

/-- What the steps of a run show of the handshakes is what the clients have got. -/
structure Recorded (es : List WebSockEvent) (s : WebSockSender) : Prop where
  exchanges_eq : exchanges es = s.clients.map WebSockClient.exchange
  last : ∀ i ∈ s.server.client, i + 1 = s.clients.length

theorem recorded_new : Recorded [] new := ⟨rfl, nofun⟩

/-- A step that is not part of a handshake. -/
theorem Recorded.of_same (h : Recorded es s) (he : ∀ xs, Exchange.step xs e = xs)
    (hsame : s'.clients.map WebSockClient.exchange = s.clients.map WebSockClient.exchange)
    (hlast : ∀ i ∈ s'.server.client, i ∈ s.server.client) : Recorded (es ++ [e]) s' := by
  constructor
  · rw [exchanges, List.foldl_append, List.foldl_cons, List.foldl_nil, he, hsame]
    exact h.exchanges_eq
  · intro i hi
    have hlength := congrArg List.length hsame
    rw [List.length_map, List.length_map] at hlength
    rw [hlength]
    exact h.last i (hlast i hi)

/-- A step of `newClient`. -/
theorem Recorded.newClient (h : Recorded es s) {client : ℕ} {c c' : WebSockClient}
    (hserver : s.server = .newClient client) (hc : s.clients[client]? = some c)
    (hstep : c.NewClientStep e c') :
    Recorded (es ++ [e]) { s with
      clients := s.clients.set client c'
      server := returnFrom client c'.handshake } := by
  have hlast : client + 1 = s.clients.length := h.last client (by rw [hserver]; rfl)
  have hmodify (f : Exchange → Exchange) (hf : f c.exchange = c'.exchange) :
      (s.clients.map WebSockClient.exchange).modify
          ((s.clients.map WebSockClient.exchange).length - 1) f =
        (s.clients.set client c').map WebSockClient.exchange := by
    have hclient : s.clients.length - 1 = client := by omega
    have hget : (s.clients.map WebSockClient.exchange)[client]? = some c.exchange := by
      rw [List.getElem?_map, hc]
      rfl
    rw [List.length_map, hclient, KeyedList.modify_eq_set hget, hf, List.map_set]
  constructor
  · rw [exchanges, List.foldl_append, List.foldl_cons, List.foldl_nil, ← exchanges,
      h.exchanges_eq]
    cases hstep with
    | recv hreading b => exact hmodify _ (c.receive_exchange b).symm
    | recvFails hreading =>
        have hfailed := hmodify id rfl
        rwa [List.modify_id] at hfailed
    | sendReply hreplying hsend => exact hmodify _ (WebSockClient.reply_exchange hsend).symm
  · intro i hi
    rw [returnFrom_client, Option.mem_some_iff] at hi
    rw [List.length_set, ← hi]
    exact hlast

theorem map_exchange_set {clients : List WebSockClient} {i : ℕ} {c c' : WebSockClient}
    (hc : clients[i]? = some c) (hsame : c'.exchange = c.exchange) :
    (clients.set i c').map WebSockClient.exchange = clients.map WebSockClient.exchange := by
  obtain ⟨hi, rfl⟩ := List.getElem?_eq_some_iff.mp hc
  have hi' : i < (clients.map WebSockClient.exchange).length := by rwa [List.length_map]
  rw [List.map_set, hsame, ← List.getElem_map WebSockClient.exchange (h := hi'),
    List.set_getElem_self]

theorem write_frame_exchange (c : WebSockClient) (bytes : List UInt8) :
    (c.write .frame bytes).exchange = c.exchange := by
  rw [WebSockClient.exchange, replyBytes_write_frame]
  rfl

theorem Recorded.step (h : Recorded es s) (hstep : step e s = some s') :
    Recorded (es ++ [e]) s' := by
  cases step_cases hstep with
  | accept hserver =>
      constructor
      · rw [exchanges, List.foldl_append, List.foldl_cons, List.foldl_nil, ← exchanges,
          h.exchanges_eq, List.map_append]
        rfl
      · rintro i ⟨⟩
        simp
  | acceptFails hserver => exact h.of_same (fun _ => rfl) rfl nofun
  | push hserver hfree =>
      refine h.of_same (fun _ => rfl) rfl fun i hi => ?_
      rw [hserver]
      exact hi
  | announce hserver =>
      refine h.of_same (fun _ => rfl) rfl fun i hi => ?_
      rw [hserver]
      exact hi
  | newClient hserver hc hnew => exact h.newClient hserver hc hnew
  | @spawn client hserver =>
      refine h.of_same (fun _ => rfl) ?_ nofun
      cases hc : s.clients[client]? with
      | none =>
          rw [modifyClient, List.modify_eq_self (by simpa using hc)]
      | some c =>
          rw [modifyClient_eq hc]
          exact map_exchange_set hc rfl
  | refused hidle hrefused => exact h.of_same (fun _ => rfl) rfl fun i hi => hi
  | sendOscPacket hidle haccepted => exact h.of_same (fun _ => rfl) rfl fun i hi => hi
  | lock hsender => exact h.of_same (fun _ => rfl) rfl fun i hi => hi
  | sendFails hsender hc hbytes =>
      exact h.of_same (fun _ => rfl) (map_exchange_set hc rfl) fun i hi => hi
  | header hsender hc hsend hbytes =>
      exact h.of_same (fun _ => rfl) (map_exchange_set hc (write_frame_exchange _ _))
        fun i hi => hi
  | payload hsender hc hsend hbytes =>
      exact h.of_same (fun _ => rfl) (map_exchange_set hc (write_frame_exchange _ _))
        fun i hi => hi
  | clientRecv client => exact h.of_same (fun _ => rfl) rfl fun i hi => hi
  | clientEnds hc => exact h.of_same (fun _ => rfl) (map_exchange_set hc rfl) fun i hi => hi
  | clientLeaves hc hthread hfree =>
      exact h.of_same (fun _ => rfl) (map_exchange_set hc rfl) fun i hi => hi

theorem recorded_of_run (h : threads.run es new = some s) : Recorded es s := by
  induction es using List.reverseRecOn generalizing s with
  | nil =>
      obtain rfl : new = s := by simpa using h
      exact recorded_new
  | append_singleton es e ih =>
      obtain ⟨t, hrun, hstep⟩ := Machine.run_concat_eq_some.mp h
      exact (ih hrun).step hstep

/-- What a step keeps of every client, for whatever holds of a client when it is accepted. -/
theorem clients_of_step {P : WebSockClient → Prop} (hs : ∀ c ∈ s.clients, P c)
    (haccepted : P .accepted)
    (hstep : ∀ i c c', s.clients[i]? = some c → P c →
      WebSockClient.Step (fun bytes => sentFrame e s = some (i, bytes)) c c' → P c')
    (h : step e s = some s') : ∀ c ∈ s'.clients, P c := by
  intro c' hc'
  rcases step_clients h with hsame | hnew | ⟨i, c, d, hc, hset, hd⟩
  · exact hs c' (hsame ▸ hc')
  · rw [hnew, List.mem_append, List.mem_singleton] at hc'
    rcases hc' with hc' | rfl
    · exact hs c' hc'
    · exact haccepted
  · rw [hset] at hc'
    rcases List.mem_or_eq_of_mem_set hc' with hc' | rfl
    · exact hs c' hc'
    · exact hstep i c _ hc (hs c (List.mem_of_getElem? hc)) hd

theorem inv_step (hs : ∀ c ∈ s.clients, c.Inv) (h : step e s = some s') :
    ∀ c ∈ s'.clients, c.Inv :=
  clients_of_step hs WebSockClient.inv_accepted (fun _ _ _ _ hc hd => hc.step hd) h

theorem clean_step (hs : ∀ c ∈ s.clients, c.Clean)
    (hsends : ∀ i bytes, sentFrame e s = some (i, bytes) →
      ∀ c, s.clients[i]? = some c → c.handshake = .replied)
    (h : step e s = some s') : ∀ c ∈ s'.clients, c.Clean :=
  clients_of_step hs
    (WebSockClient.clean_of_no_frames WebSockClient.inv_accepted (by simp [WebSockClient.accepted]))
    (fun i c _ hc hclean hd => hclean.step hd fun bytes hbytes => hsends i bytes hbytes c hc) h

theorem inv_of_run (h : threads.run es new = some s) : ∀ c ∈ s.clients, c.Inv :=
  Machine.run_invariant (I := fun s : WebSockSender => ∀ c ∈ s.clients, c.Inv)
    (fun _ _ _ hs hstep => inv_step hs hstep) (by simp [new]) h

/-- The answered clients, by the steps of a run and by the state behind it. -/
theorem replied_iff_answered (h : threads.run es new = some s) {i : ℕ} {c : WebSockClient}
    (hc : s.clients[i]? = some c) :
    c.handshake = .replied ↔ ∃ x, (exchanges es)[i]? = some x ∧ x.Answered := by
  have hget : (exchanges es)[i]? = some c.exchange := by
    rw [(recorded_of_run h).exchanges_eq, List.getElem?_map, hc]
    rfl
  rw [hget, ← (inv_of_run h c (List.mem_of_getElem? hc)).answered_iff]
  simp

/-- **The handshake comes first** exactly in the runs whose steps write a frame only to a
client that has sent a proper request by then, and to which all bytes of the reply have
gone. -/
theorem handshakeFirst_iff (es : List WebSockEvent) :
    (∀ pre s, pre <+: es → threads.run pre new = some s → s.HandshakeFirst) ↔
      ∀ pre e s s', pre ++ [e] <+: es → threads.run pre new = some s →
        threads.step e s = some s' → SendsToAnswered pre e s := by
  constructor
  · intro h pre e s s' hpre hrun hstep i bytes hsent
    have hfirst := h (pre ++ [e]) s' hpre (Machine.run_concat_eq_some.mpr ⟨s, hrun, hstep⟩)
    obtain ⟨hbytes, c, hc, -, hclients⟩ := sentFrame_spec hsent hstep
    obtain ⟨b, bs, rfl⟩ := List.exists_cons_of_ne_nil hbytes
    have hmem : c.write .frame (b :: bs) ∈ s'.clients := by
      rw [hclients]
      exact List.mem_set (List.getElem?_eq_some_iff.mp hc).1 _
    -- the reply was complete in front of the first of the new bytes
    have hcomplete : c.ResponseComplete c.written :=
      (hfirst _ hmem).behind c.written b (bs.map fun b => (.frame, b)) rfl
    rw [← replied_iff_answered hrun hc]
    exact (inv_of_run hrun c (List.mem_of_getElem? hc)).responseComplete_iff.mp hcomplete
  · intro h
    have hclean : ∀ pre s, pre <+: es → threads.run pre new = some s →
        ∀ c ∈ s.clients, c.Clean := by
      intro pre
      induction pre using List.reverseRecOn with
      | nil =>
          intro s _ hrun c hc
          obtain rfl : new = s := by simpa using hrun
          simp [new] at hc
      | append_singleton pre e ih =>
          intro s hpre hrun
          obtain ⟨t, hrun', hstep⟩ := Machine.run_concat_eq_some.mp hrun
          have ht := ih t ((List.prefix_append pre [e]).trans hpre) hrun'
          apply clean_step ht _ hstep
          intro i bytes hsent c hc
          rw [replied_iff_answered hrun' hc]
          exact h pre e t s hpre hrun' hstep i bytes hsent
    exact fun pre s hpre hrun c hc => (hclean pre s hpre hrun c hc).first

/-- Of the exits of `newClient` without a reply, one shuts the socket down: a client that
was rejected gets no frame any more, in any run. -/
theorem rejected_gets_no_frame (hrun : threads.run es new = some s)
    (hstep : threads.step e s = some s') {i : ℕ} {c : WebSockClient}
    (hc : s.clients[i]? = some c) (hrejected : c.handshake = .rejected) (sent : List UInt8) :
    sentFrame e s ≠ some (i, sent) := by
  intro hsent
  obtain ⟨-, c', hc', hopen, -⟩ := sentFrame_spec hsent hstep
  obtain rfl : c = c' := Option.some.inj (hc.symm.trans hc')
  have hinv := inv_of_run hrun c (List.mem_of_getElem? hc)
  simp [WebSockClient.Inv, hrejected, hopen] at hinv

/-- A packet is sent while the request of the client is awaited. -/
def earlyFrame : List WebSockEvent :=
  [.accept, .push, .announce, .sendOscPacket [0], .lock, .sendFrame 2]

theorem not_handshakeFirst_earlyFrame :
    ∃ s, threads.run earlyFrame new = some s ∧ ¬ s.HandshakeFirst := by
  refine ⟨_, rfl, fun h => ?_⟩
  have hreply := (h _ List.mem_cons_self).behind [] 0x82 [(.frame, 1)] rfl
  exact absurd hreply (show handshakeReply [] ≠ some [] by decide +kernel)

end WebSockSender

end Sur40
