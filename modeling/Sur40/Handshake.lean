import Mathlib.Data.List.Infix
import Mathlib.Data.Nat.Notation

/-!
# The WebSocket handshake

What `WebSockSender::newClient` makes of a request: it looks for the upgrade and for
the client's key, and answers with the digest of the key.

## Main definitions

* `findFrom`: `std::string::find`.
* `sha1`, `base64`: the library's own copies.
* `handshakeReply`: the reply to a request, if there is one.
-/

namespace Sur40

/-- The bytes of a text. -/
def ascii (s : String) : List UInt8 := s.toList.map fun c => UInt8.ofNat c.toNat

/-- `s.find(pat, pos)` -/
def findFrom (pat s : List UInt8) (pos : ℕ) : Option ℕ :=
  (List.range (s.length + 1 - pat.length)).find? fun i =>
    decide (pos ≤ i) && pat.isPrefixOf (s.drop i)

/-! ## SHA1 -/

/-- `ROL` -/
def rol (a : UInt32) (b : UInt32) : UInt32 := (a <<< b) ||| (a >>> (32 - b))

/-- `ROR` -/
def ror (a : UInt32) (b : UInt32) : UInt32 := rol a (32 - b)

/-- A word, most significant byte first. -/
def swapBytes (x : UInt32) : List UInt8 :=
  [(x >>> 24).toUInt8, (x >>> 16).toUInt8, (x >>> 8).toUInt8, x.toUInt8]

/-- The words of a buffer, most significant bytes first. -/
def swapWords : List UInt8 → List UInt32
  | p :: q :: r :: s :: rest =>
      ((p.toUInt32 <<< 24) ||| (q.toUInt32 <<< 16) ||| (r.toUInt32 <<< 8) ||| s.toUInt32) ::
        swapWords rest
  | _ => []

structure Sha1Words where
  a : UInt32
  b : UInt32
  c : UInt32
  d : UInt32
  e : UInt32

/-- `h0` to `h4` at the start. -/
def sha1Init : Sha1Words := ⟨0x67452301, 0xefcdab89, 0x98badcfe, 0x10325476, 0xc3d2e1f0⟩

/-- The padded block at offset `i`. -/
def sha1Block (inbuf : List UInt8) (i : ℕ) : List UInt8 :=
  let length := inbuf.length
  let buf :=
    if i + 64 ≤ length then (inbuf.drop i).take 64
    else if i ≤ length then
      inbuf.drop i ++ [0x80] ++ List.replicate (63 - (length - i)) 0
    else List.replicate 64 0
  if length < i + 56 then buf.take 60 ++ swapBytes (UInt32.ofNat (length * 8)) else buf

/-- The words 16 to 79; the list holds the words in reverse. -/
def sha1Schedule : ℕ → List UInt32 → List UInt32
  | 0, w => w
  | n + 1, w =>
      sha1Schedule n
        (rol (w.getD 2 0 ^^^ w.getD 7 0 ^^^ w.getD 13 0 ^^^ w.getD 15 0) 1 :: w)

/-- One round. -/
def sha1Round (h : Sha1Words) (j : ℕ) (w : UInt32) : Sha1Words :=
  let temp :=
    if j < 20 then ((h.b &&& h.c) ||| (~~~h.b &&& h.d)) + 0x5a827999
    else if j < 40 then (h.b ^^^ h.c ^^^ h.d) + 0x6ed9eba1
    else if j < 60 then ((h.b &&& h.c) ||| (h.b &&& h.d) ||| (h.c &&& h.d)) + 0x8f1bbcdc
    else (h.b ^^^ h.c ^^^ h.d) + 0xca62c1d6
  { a := temp + (rol h.a 5 + h.e + w), b := h.a, c := ror h.b 2, d := h.c, e := h.d }

/-- A block goes into the hash. -/
def sha1Compress (h : Sha1Words) (block : List UInt8) : Sha1Words :=
  let w := (sha1Schedule 64 (swapWords block).reverse).reverse
  let r := w.zipIdx.foldl (fun r p => sha1Round r p.2 p.1) h
  ⟨h.a + r.a, h.b + r.b, h.c + r.c, h.d + r.d, h.e + r.e⟩

def sha1 (inbuf : List UInt8) : List UInt8 :=
  let blocks := (inbuf.length + 9 + 63) / 64
  let h := (List.range blocks).foldl (fun h k => sha1Compress h (sha1Block inbuf (64 * k))) sha1Init
  swapBytes h.a ++ swapBytes h.b ++ swapBytes h.c ++ swapBytes h.d ++ swapBytes h.e

/-! ## Base64 -/

def encodeLookup : List UInt8 :=
  ascii "ABCDEFGHIJKLMNOPQRSTUVWXYZabcdefghijklmnopqrstuvwxyz0123456789+/"

/-- The character of the six bits of `temp` from `shift` on. -/
def encodeSix (temp : UInt32) (shift : UInt32) : UInt8 :=
  encodeLookup.getD ((temp >>> shift) &&& 0x3f).toNat 0

def base64 : List UInt8 → List UInt8
  | x :: y :: z :: rest =>
      let temp := (x.toUInt32 <<< 16) + (y.toUInt32 <<< 8) + z.toUInt32
      [encodeSix temp 18, encodeSix temp 12, encodeSix temp 6, encodeSix temp 0] ++ base64 rest
  | [x, y] =>
      let temp := (x.toUInt32 <<< 16) + (y.toUInt32 <<< 8)
      [encodeSix temp 18, encodeSix temp 12, encodeSix temp 6] ++ ascii "="
  | [x] =>
      let temp := x.toUInt32 <<< 16
      [encodeSix temp 18, encodeSix temp 12] ++ ascii "=="
  | [] => []

/-! ## The reply -/

/-- The request has been read up to the empty line. -/
def requestEnds (request : List UInt8) : Bool := (findFrom (ascii "\r\n\r\n") request 0).isSome

/-- `KEY_HDR` -/
def keyHdr : List UInt8 := ascii "Sec-WebSocket-Key: "

/-- The value of the key header, if the request asks for a WebSocket. -/
def requestKey (request : List UInt8) : Option (List UInt8) := do
  let kpos ← findFrom keyHdr request 0
  let kend ← findFrom (ascii "\r\n") request (kpos + keyHdr.length)
  let _ ← findFrom (ascii "Upgrade: websocket") request 0
  pure ((request.drop (kpos + keyHdr.length)).take (kend - kpos - keyHdr.length))

/-- The answer to a key. -/
def acceptKey (key : List UInt8) : List UInt8 :=
  base64 (sha1 (key ++ ascii "258EAFA5-E914-47DA-95CA-C5AB0DC85B11"))

/-- The reply to a request; a request without the two headers has none. -/
def handshakeReply (request : List UInt8) : Option (List UInt8) :=
  (requestKey request).map fun key =>
    ascii "HTTP/1.1 101 Switching Protocols\r\n" ++
    ascii "Upgrade: websocket\r\n" ++
    ascii "Connection: Upgrade\r\n" ++
    ascii "Access-Control-Allow-Origin: *\r\n" ++
    ascii "Sec-WebSocket-Accept: " ++ acceptKey key ++ ascii "\r\n\r\n"

/-! ## The length of the reply -/

@[simp] theorem length_ascii (s : String) : (ascii s).length = s.toList.length := by
  simp [ascii]

theorem length_base64 (bytes : List UInt8) :
    (base64 bytes).length = (bytes.length + 2) / 3 * 4 := by
  induction bytes using base64.induct with
  | case1 x y z rest ih =>
      simp only [base64, List.length_append, ih, List.length_cons, List.length_nil]
      omega
  | case2 x y => simp [base64]
  | case3 x => simp [base64]
  | case4 => rfl

theorem length_acceptKey (key : List UInt8) : (acceptKey key).length = 28 := by
  simp [acceptKey, length_base64, sha1, swapBytes]

/-- Every reply fits into `buf`, which has 1024 bytes. -/
theorem length_handshakeReply {request reply : List UInt8}
    (h : handshakeReply request = some reply) : reply.length = 161 := by
  obtain ⟨key, -, rfl⟩ := Option.map_eq_some_iff.mp h
  simp only [List.length_append, length_acceptKey, length_ascii]
  decide

theorem handshakeReply_ne_nil {request reply : List UInt8}
    (h : handshakeReply request = some reply) : reply ≠ [] := by
  rintro rfl
  simpa using length_handshakeReply h

/-- The answer to the key of a request. -/
example : acceptKey (ascii "dGhlIHNhbXBsZSBub25jZQ==") = ascii "s3pPLMBiTxaQ9kYGzzhZRbK+xOo=" := by
  decide +kernel

end Sur40
