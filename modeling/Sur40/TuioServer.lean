import Sur40.Lib.Packing
import Sur40.OscElements
import Sur40.Tracking
import Sur40.WebSocket

/-!
# The TUIO server

The server sends the contacts of its manager as OSC bundles: the name of the source, the session
ids of all contacts, a message for each contact that was touched in the frame, and the number of
the frame. A bundle that would exceed the packet is sent, and the rest of the contacts goes into
the next one. The blob profile is off in this server, so that of the blobs there is only the
empty bundle.

## Main definitions

* `OscSender.sendOscPacket`: a packet for a transport.
* `TuioBundle.start`, `TuioBundle.add`, `TuioBundle.send`: the parts of a bundle.
* `TuioBundle.sendAll`: the bundles for a list of contacts.
* `TuioServer.commitFrame`: what the server sends.
-/

namespace Sur40

open Devlib

/-- An `int`. -/
def intArgument (x : ℤ) : Argument := .int32 (UInt32.ofInt x)

/-- A string literal. -/
def textArgument (s : String) : Argument := .string (.ofString s)

def cursorAddress : CString := .ofString "/tuio/2Dcur"

def objectAddress : CString := .ofString "/tuio/2Dobj"

def blobAddress : CString := .ofString "/tuio/2Dblb"

/-! ## Packets and transports -/

structure OscSender where
  bufferSize : ℕ
  /-- The packets that the transport was given. -/
  sent : List (List UInt8)

/-- `sendOscPacket`, up to the transport itself. -/
def OscSender.sendOscPacket (sender : OscSender) (bundle : OutboundPacketStream) : OscSender :=
  if sender.bufferSize < bundle.size then sender
  else if bundle.size = 0 then sender
  else { sender with sent := sender.sent ++ [bundle.data] }

/-- A packet that is being written, and those it is for. -/
structure TuioOutput where
  packet : OutboundPacketStream
  senderList : List OscSender

namespace TuioOutput
variable (o : TuioOutput)

def write (ops : List StreamOp) : Except OscException TuioOutput :=
  (o.packet.runAll ops).map fun packet => { o with packet }

def clear : TuioOutput := { o with packet := o.packet.clear }

def deliverOscPacket : TuioOutput :=
  { o with senderList := o.senderList.map (·.sendOscPacket o.packet) }

end TuioOutput

/-! ## Bundles -/

/-- What goes into the bundles of a profile. -/
structure TuioBundle (α : Type*) where
  address : CString
  sourceName : CString
  /-- The contacts that are alive. -/
  ids : List ℤ
  /-- A set message and an fseq message. -/
  messageSize : ℕ
  arguments : α → List Argument
  fseq : ℤ

namespace TuioBundle
variable {α : Type*} (b : TuioBundle α)

/-- The arguments of the messages that are in every bundle, in front of the contacts. -/
def headArguments : List (List Argument) :=
  (if b.sourceName.chars.isEmpty then [] else [[textArgument "source", .string b.sourceName]]) ++
    [textArgument "alive" :: b.ids.map intArgument]

def setArguments (contact : α) : List Argument := textArgument "set" :: b.arguments contact

def fseqArguments : List Argument := [textArgument "fseq", intArgument b.fseq]

/-- A new bundle, with its first messages. -/
def start (o : TuioOutput) : Except OscException TuioOutput :=
  o.clear.write (.beginBundle 1 :: b.headArguments.flatMap (messageOps b.address))

/-- The message of a contact. -/
def add (o : TuioOutput) (contact : α) : Except OscException TuioOutput :=
  o.write (messageOps b.address (b.setArguments contact))

/-- The end of a bundle. -/
def send (o : TuioOutput) : Except OscException TuioOutput :=
  (o.write (messageOps b.address b.fseqArguments ++ [.endBundle])).map (·.deliverOscPacket)

/-- The capacity of the packet would be exceeded. -/
def exceeds (o : TuioOutput) : Bool := decide (o.packet.capacity - o.packet.size < b.messageSize)

/-- The bundles for the contacts that are chosen. -/
def sendAll (chosen : α → Bool) (contacts : List α) (o : TuioOutput) :
    Except OscException TuioOutput :=
  (b.start o).bind fun o =>
    (Packing.loop b.exceeds (fun o => (b.send o).bind b.start) b.add chosen o contacts).bind b.send

end TuioBundle

/-! ## The server -/

structure TuioServer (K : Type*) extends TuioManager K where
  senderList : List OscSender
  oscPacket : OutboundPacketStream
  fullPacket : OutboundPacketStream
  updateInterval : ℤ
  fullUpdate : Bool
  periodicUpdate : Bool
  objectUpdateTime : TuioTime
  cursorUpdateTime : TuioTime
  objectProfileEnabled : Bool
  cursorProfileEnabled : Bool
  blobProfileEnabled : Bool
  sourceName : CString
  invertX : Bool
  invertY : Bool
  invertA : Bool

namespace TuioServer
variable {K : Type*} [Field K] [LinearOrder K] (A : Arithmetic K) (bits : K → UInt32)
  (server : TuioServer K)

/-- What a server does with its packet. -/
def onPacket (f : TuioOutput → Except OscException TuioOutput) :
    Except OscException (TuioServer K) :=
  (f ⟨server.oscPacket, server.senderList⟩).map fun o =>
    { server with oscPacket := o.packet, senderList := o.senderList }

/-! ### The messages of contacts -/

/-- `xpos` or `ypos` of a message. -/
def position (invert : Bool) (pos : K) : Argument := .float (bits (if invert then 1 - pos else pos))

/-- `xvel`, `yvel` or `rvel` of a message. -/
def velocity (invert : Bool) (vel : K) : Argument :=
  .float (bits (if invert then -1 * vel else vel))

/-- `addCursorMessage` -/
def cursorArguments (tcur : TuioCursor K) : List Argument :=
  [intArgument tcur.sessionId, position bits server.invertX tcur.xpos,
    position bits server.invertY tcur.ypos, velocity bits server.invertX tcur.xSpeed,
    velocity bits server.invertY tcur.ySpeed, .float (bits tcur.motionAccel)]

/-- `addObjectMessage` -/
def objectArguments (tobj : TuioObject K) : List Argument :=
  [intArgument tobj.sessionId, intArgument tobj.symbolId, position bits server.invertX tobj.xpos,
    position bits server.invertY tobj.ypos,
    .float (bits (if server.invertA then A.invert tobj.angle else tobj.angle)),
    velocity bits server.invertX tobj.xSpeed, velocity bits server.invertY tobj.ySpeed,
    velocity bits server.invertA tobj.rotationSpeed, .float (bits tobj.motionAccel),
    .float (bits tobj.rotationAccel)]

/-- The bundles of the cursor profile. -/
def cursorBundle (fseq : ℤ) : TuioBundle (TuioCursor K) where
  address := cursorAddress
  sourceName := server.sourceName
  ids := server.cursorIds
  messageSize := 88 -- `CUR_MESSAGE_SIZE`
  arguments := server.cursorArguments bits
  fseq := fseq

/-- The bundles of the object profile. -/
def objectBundle (fseq : ℤ) : TuioBundle (TuioObject K) where
  address := objectAddress
  sourceName := server.sourceName
  ids := server.objectIds
  messageSize := 108 -- `OBJ_MESSAGE_SIZE`
  arguments := server.objectArguments A bits
  fseq := fseq

/-- A bundle without contacts. -/
def emptyBundle (address : CString) : TuioBundle Empty where
  address := address
  sourceName := server.sourceName
  ids := []
  messageSize := 0
  arguments := Empty.elim
  fseq := -1

def sendEmptyBundle (address : CString) : Except OscException (TuioServer K) :=
  server.onPacket fun o =>
    ((server.emptyBundle address).start o).bind (server.emptyBundle address).send

def sendEmptyCursorBundle := server.sendEmptyBundle cursorAddress

def sendEmptyObjectBundle := server.sendEmptyBundle objectAddress

def sendEmptyBlobBundle := server.sendEmptyBundle blobAddress

/-! ### Frames -/

/-- The contacts of a profile, and when the server sends them. -/
structure TuioPart (α : Type*) extends TuioBundle α where
  contacts : List α
  currentTime : α → TuioTime
  /-- `updateObject` or `updateCursor` -/
  update : Bool
  profileEnabled : Bool
  updateTime : TuioTime

/-- The part of `commitFrame` for one profile, with the new update time. -/
def commitPart {α : Type*} (part : TuioPart α) : Except OscException (TuioServer K × TuioTime) :=
  if part.update then
    let touched (contact : α) : Bool := decide (part.currentTime contact = server.currentFrameTime)
    (server.onPacket (part.sendAll (fun contact => server.fullUpdate || touched contact)
      part.contacts)).map fun server => (server, server.currentFrameTime)
  else if part.profileEnabled && server.periodicUpdate then
    let timeCheck := server.currentFrameTime - part.updateTime
    if server.updateInterval ≤ timeCheck.seconds then
      (server.onPacket (part.sendAll (fun _ => true)
        (if server.fullUpdate then part.contacts else []))).map
          fun server => (server, server.currentFrameTime)
    else .ok (server, part.updateTime)
  else .ok (server, part.updateTime)

def objectPart : TuioPart (TuioObject K) where
  toTuioBundle := server.objectBundle A bits server.currentFrame
  contacts := server.objectList
  currentTime := fun tobj => tobj.currentTime
  update := server.updateObject
  profileEnabled := server.objectProfileEnabled
  updateTime := server.objectUpdateTime

def cursorPart : TuioPart (TuioCursor K) where
  toTuioBundle := server.cursorBundle bits server.currentFrame
  contacts := server.cursorList
  currentTime := fun tcur => tcur.currentTime
  update := server.updateCursor
  profileEnabled := server.cursorProfileEnabled
  updateTime := server.cursorUpdateTime

def commitObjects : Except OscException (TuioServer K) :=
  (server.commitPart (server.objectPart A bits)).map fun (server, updateTime) =>
    { server with objectUpdateTime := updateTime, updateObject := false }

def commitCursors : Except OscException (TuioServer K) :=
  (server.commitPart (server.cursorPart bits)).map fun (server, updateTime) =>
    { server with cursorUpdateTime := updateTime, updateCursor := false }

def commitFrame : Except OscException (TuioServer K) :=
  (server.commitObjects A bits).bind fun server => server.commitCursors bits

/-! ### The start and the end -/

/-- The constructors of `UdpSender` take packets of another size to a host on the network. -/
def isLocal (host : Option CString) : Bool :=
  match host with
  | none => true
  | some host => decide (host = .ofString "127.0.0.1" ∨ host = .ofString "localhost")

/-- `buffer_size` of the `UdpSender`. -/
def udpBufferSize (host : Option CString) : ℕ :=
  if isLocal host then 4096 -- `MAX_UDP_SIZE`
  else 1500 -- `IP_MTU_SIZE`

/-- The fields of a new server, with the buffers as they are allocated. -/
def allocate (currentFrameTime : TuioTime) (oscBuffer fullBuffer : Memory) (oscsend : OscSender) :
    TuioServer K :=
  { toTuioManager := .new currentFrameTime, senderList := [oscsend],
    oscPacket := .new oscBuffer oscsend.bufferSize,
    fullPacket := .new fullBuffer oscsend.bufferSize, updateInterval := 1, fullUpdate := false,
    periodicUpdate := false, objectUpdateTime := currentFrameTime,
    cursorUpdateTime := currentFrameTime, objectProfileEnabled := true,
    cursorProfileEnabled := true, blobProfileEnabled := true, sourceName := .ofString "",
    invertX := false, invertY := false, invertA := false }

/-- `TuioServer::initialize` of a new server. -/
def init (currentFrameTime : TuioTime) (oscBuffer fullBuffer : Memory) (oscsend : OscSender) :
    Except OscException (TuioServer K) :=
  (allocate currentFrameTime oscBuffer fullBuffer oscsend).sendEmptyCursorBundle.bind
    fun server => server.sendEmptyObjectBundle.bind fun server => server.sendEmptyBlobBundle

/-- A smaller transport makes the packets smaller. -/
def addOscSender (sender : OscSender) : TuioServer K :=
  let server :=
    if sender.bufferSize < server.oscPacket.capacity then
      { server with oscPacket := .new server.oscPacket.mem sender.bufferSize,
                    fullPacket := .new server.fullPacket.mem sender.bufferSize }
    else server
  { server with senderList := server.senderList ++ [sender] }

/-- `setSourceName`, with the address that the host has. -/
def setSourceName (src sourceAddr : CString) : TuioServer K :=
  { server with sourceName :=
    ⟨src.chars ++ '@'.toUInt8 :: sourceAddr.chars, by
      intro c hc
      rcases List.mem_append.mp hc with hc | hc
      · exact src.noNul c hc
      · rcases List.mem_cons.mp hc with rfl | hc
        · exact ne_of_beq_false rfl
        · exact sourceAddr.noNul c hc⟩ }

/-- The other transports of the program, and the constructor of `Sur40_TUIO`. -/
def equip (sourceAddr : CString) : TuioServer K :=
  let server := server.addOscSender ⟨maxTcpSize, []⟩ -- `TcpSender`
  let server := server.addOscSender ⟨maxTcpSize, []⟩ -- `WebSockSender`
  { server.setSourceName (.ofString "sur40") sourceAddr with
    objectProfileEnabled := true, cursorProfileEnabled := true, blobProfileEnabled := false }

/-- `main` up to the loop. -/
def launch (currentFrameTime : TuioTime) (oscBuffer fullBuffer : Memory) (host : Option CString)
    (sourceAddr : CString) : Except OscException (TuioServer K) :=
  (init currentFrameTime oscBuffer fullBuffer ⟨udpBufferSize host, []⟩).map fun server =>
    server.equip sourceAddr

end TuioServer

/-! ## The loop of the program -/

namespace TuioManager
variable {K : Type*} [Field K] [LinearOrder K] (A : Arithmetic K) (m : TuioManager K)

/-- A frame up to `commitFrame`. -/
def touchFrame (frameTime : TuioTime) (blobs : List SurfaceBlob) : TuioManager K :=
  let m := blobs.foldl (processBlob A) (m.initFrame frameTime)
  let m := (m.stopUntouchedMovingCursors A).removeUntouchedStoppedCursors
  (m.stopUntouchedMovingObjects A).removeUntouchedStoppedObjects

theorem processFrame_eq (frameTime : TuioTime) (blobs : List SurfaceBlob) :
    m.processFrame A frameTime blobs = (m.touchFrame A frameTime blobs).commitFrame := rfl

end TuioManager

namespace TuioServer
variable {K : Type*} [Field K] [LinearOrder K] (A : Arithmetic K) (bits : K → UInt32)
  (server : TuioServer K)

/-- A frame behind the test at its start. -/
def processFrame (frameTime : TuioTime) (blobs : List SurfaceBlob) :
    Except OscException (TuioServer K) :=
  { server with toTuioManager := server.touchFrame A frameTime blobs }.commitFrame A bits

/-- One turn of the loop. -/
def turn (t : BlobRead × TuioTime) : Except OscException (TuioServer K) :=
  if server.skips t.1 then .ok server else server.processFrame A bits t.2 t.1.entries

/-- The loop, which ends with the first exception. -/
def run (ts : List (BlobRead × TuioTime)) : Except OscException (TuioServer K) :=
  Throwing.runAll (fun server t => server.turn A bits t) server ts

/-- The destructor. -/
def destroy (sessionTime sessionTime' : TuioTime) : Except OscException (TuioServer K) :=
  let m := server.initFrame sessionTime
  let m := (m.stopUntouchedMovingCursors A).stopUntouchedMovingObjects A
  let m := m.initFrame sessionTime'
  let m := m.removeUntouchedStoppedCursors.removeUntouchedStoppedObjects
  let server := { server with toTuioManager := m }
  (if server.cursorProfileEnabled then server.sendEmptyCursorBundle else .ok server).bind
    fun server =>
      (if server.objectProfileEnabled then server.sendEmptyObjectBundle else .ok server).bind
        fun server =>
          if server.blobProfileEnabled then server.sendEmptyBlobBundle else .ok server

end TuioServer

end Sur40
