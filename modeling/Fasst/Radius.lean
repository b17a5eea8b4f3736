import Fasst.Go.Bytes

/-!
# Fasst.Radius — the RADIUS scanner (`modules/radius/scanner.go`)

`buildAccessRequest` lays out an Access-Request from a header (`RADIUSHeader.Encode`) and three
attributes (`RADIUSAttribute.Encode`): User-Name `test`, NAS-IP-Address and NAS-Port, then writes
the packet's length into the header.  `SendAccessRequest` sends it over UDP and reads the reply's
header out of one datagram, and `Scan` accepts the reply when `ValidateResponse` does.  The
identifier and the authenticator come from the clock; here they are arguments.  A packet is
read back as RFC 2865 (section 3) lays it out, by `parsePacket`, which is this module's own
statement of the format.

* `buildAccessRequest_parses`: for every identifier, authenticator, port and address with an IPv4
  form, the request is a well-formed Access-Request of 38 bytes carrying exactly the three
  attributes, the address's four bytes and the port as a 32-bit number;
* `scan_accepts_reply`: a server that answers with an encoded header and any attributes is read
  back exactly; `Scan` accepts it when the code is Access-Accept, Access-Reject or Access-Challenge,
  whatever its identifier, length and authenticator, and fails with `ValidateResponse`'s error
  otherwise.
-/

namespace Fasst.Radius

open Fasst.Go (ascii putUint16 be16 be16_putUint16 toNat_toUInt8)

/-! ## Packets -/

def accessRequest : UInt8 := 1
def accessAccept : UInt8 := 2
def accessReject : UInt8 := 3
def accessChallenge : UInt8 := 11
def radiusPort : UInt16 := 1812

structure Authenticator where
  bytes : List UInt8
  length_eq : bytes.length = 16
  deriving DecidableEq

structure RADIUSHeader where
  code : UInt8
  identifier : UInt8
  length : UInt16
  authenticator : Authenticator
  deriving DecidableEq

/-- `RADIUSHeader.Encode`: 20 bytes, the length big-endian. -/
def RADIUSHeader.encode (hdr : RADIUSHeader) : List UInt8 :=
  hdr.code :: hdr.identifier :: putUint16 hdr.length.toNat ++ hdr.authenticator.bytes

structure RADIUSAttribute where
  type : UInt8
  length : UInt8
  value : List UInt8

/-- `RADIUSAttribute.Encode`: the type, the `Length` field as set, then the value. -/
def RADIUSAttribute.encode (attr : RADIUSAttribute) : List UInt8 :=
  attr.type :: attr.length :: attr.value

/-- `net.IP.To4()`: a 4-byte address as it is, a 16-byte IPv4-mapped address as its last four
bytes, anything else `nil`. -/
def to4 (ip : List UInt8) : Option (List UInt8) :=
  if ip.length = 4 then some ip
  else if ip.length = 16 ∧ ip.take 10 = List.replicate 10 0 ∧ ip.getD 10 0 = 0xff ∧
      ip.getD 11 0 = 0xff then some (ip.drop 12)
  else none

/-- Modelled from the spec: `net.ParseIP("192.168.0.1")`, the 16-byte IPv4-mapped form. -/
def placeholderIP : List UInt8 := [0, 0, 0, 0, 0, 0, 0, 0, 0, 0, 0xff, 0xff, 192, 168, 0, 1]

/-- `binary.BigEndian.PutUint16(packet[2:4], n)` on a packet of at least four bytes. -/
def putLength (packet : List UInt8) (n : Nat) : List UInt8 :=
  packet.take 2 ++ putUint16 n ++ packet.drop 4

/-- `buildAccessRequest(identifier, ipAddr, port)` with the authenticator the clock gave. -/
def buildAccessRequest (identifier : UInt8) (ipAddr : List UInt8) (port : UInt16)
    (authenticator : Authenticator) : List UInt8 :=
  let header : RADIUSHeader := ⟨accessRequest, identifier, 0, authenticator⟩
  let userNameAttr : RADIUSAttribute := ⟨1, (2 + (ascii "test").length).toUInt8, ascii "test"⟩
  let nasIPAttr : RADIUSAttribute := ⟨4, 6, (to4 ipAddr).getD []⟩
  let nasPortAttr : RADIUSAttribute :=
    ⟨5, 6, [0, 0, (port >>> 8).toUInt8, (port &&& 0xff).toUInt8]⟩
  let packet :=
    header.encode ++ userNameAttr.encode ++ nasIPAttr.encode ++ nasPortAttr.encode
  putLength packet packet.length

/-! ## The format, read back -/

/-- The attributes of a packet: a type, a length of at least 2 counting these two bytes, and the
value; `fuel` bounds the number of attributes. -/
def parseAttributes : Nat → List UInt8 → Option (List (UInt8 × List UInt8))
  | _, [] => some []
  | 0, _ :: _ => none
  | _ + 1, [_] => none
  | fuel + 1, t :: l :: rest =>
    if 2 ≤ l.toNat ∧ l.toNat - 2 ≤ rest.length then
      (parseAttributes fuel (rest.drop (l.toNat - 2))).map ((t, rest.take (l.toNat - 2)) :: ·)
    else none

/-- A RADIUS packet: code, identifier, the length field, the authenticator and the attributes. -/
structure RadiusPacket where
  code : UInt8
  identifier : UInt8
  length : Nat
  authenticator : List UInt8
  attributes : List (UInt8 × List UInt8)
  deriving DecidableEq, Repr

/-- A packet as RFC 2865 lays it out: the length field, between 20 and 4096, covers the header
and the attributes, and bytes past it are padding. -/
def parsePacket (p : List UInt8) : Option RadiusPacket :=
  match p with
  | code :: identifier :: hi :: lo :: rest =>
    let length := be16 [hi, lo]
    if 20 ≤ length ∧ length ≤ 4096 ∧ length ≤ p.length then
      (parseAttributes length ((rest.take (length - 4)).drop 16)).map
        fun attrs => ⟨code, identifier, length, rest.take 16, attrs⟩
    else none
  | _ => none

/-- Attributes laid out as RFC 2865 writes them: the type, a length counting the type and length
bytes, the value. -/
def encodeAttributes : List (UInt8 × List UInt8) → List UInt8
  | [] => []
  | (t, v) :: attrs => t :: (v.length + 2).toUInt8 :: v ++ encodeAttributes attrs

def beNat (bs : List UInt8) : Nat := bs.foldl (fun acc b => acc * 256 + b.toNat) 0

section Build

variable {identifier : UInt8} {ipAddr ip4 : List UInt8} {port : UInt16}
  {authenticator : Authenticator}

theorem to4_length (h : to4 ipAddr = some ip4) : ip4.length = 4 := by
  unfold to4 at h
  split at h
  · cases h; assumption
  · split at h
    · next hc => cases h; simp [hc.1]
    · cases h

theorem parseAttributes_encodeAttributes (attrs : List (UInt8 × List UInt8))
    (hv : ∀ a ∈ attrs, a.2.length + 2 < 256) (fuel : Nat) (hf : attrs.length ≤ fuel) :
    parseAttributes fuel (encodeAttributes attrs) = some attrs := by
  induction attrs generalizing fuel with
  | nil => cases fuel <;> rfl
  | cons a attrs ih =>
    obtain ⟨t, v⟩ := a
    obtain ⟨fuel, rfl⟩ : ∃ f, fuel = f + 1 := ⟨fuel - 1, by simp at hf; omega⟩
    have hv0 : v.length + 2 < 256 := hv (t, v) (List.mem_cons_self _ _)
    have hl : ((v.length + 2).toUInt8).toNat = v.length + 2 := by rw [toNat_toUInt8]; omega
    simp only [encodeAttributes, parseAttributes, hl, List.append_eq, List.length_append,
      Nat.add_sub_cancel, List.take_left, List.drop_left]
    rw [if_pos ⟨by omega, by omega⟩,
      ih (fun a ha => hv a (List.mem_cons_of_mem _ ha)) fuel (by simpa using hf)]
    rfl

theorem parsePacket_layout {code id : UInt8} {auth attrs : List UInt8} (ha : auth.length = 16)
    (hl : 20 + attrs.length ≤ 4096) :
    parsePacket (code :: id :: putUint16 (20 + attrs.length) ++ auth ++ attrs) =
      (parseAttributes (20 + attrs.length) attrs).map
        fun as => ⟨code, id, 20 + attrs.length, auth, as⟩ := by
  obtain ⟨hi, lo, hp⟩ : ∃ hi lo, putUint16 (20 + attrs.length) = [hi, lo] := ⟨_, _, rfl⟩
  have hn : be16 [hi, lo] = 20 + attrs.length := by
    rw [← hp, be16_putUint16, Nat.mod_eq_of_lt (by omega)]
  have ht : (auth ++ attrs).take (20 + attrs.length - 4) = auth ++ attrs :=
    List.take_of_length_le (by simp [ha]; omega)
  rw [hp]
  simp only [List.cons_append, List.nil_append, List.append_assoc, parsePacket, hn,
    List.length_cons, List.length_append, ha, ht, List.drop_left' ha, List.take_left' ha]
  split_ifs with hc
  · rfl
  · exfalso; omega

theorem uint16_shiftRight_toNat (p : UInt16) : (p >>> 8).toNat = p.toNat / 256 := by
  show (p.toBitVec >>> (8 : Nat)).toNat = _
  rw [BitVec.toNat_ushiftRight, Nat.shiftRight_eq_div_pow]
  rfl

theorem beNat_port (port : UInt16) :
    beNat [0, 0, (port >>> 8).toUInt8, (port &&& 0xff).toUInt8] = port.toNat := by
  have hp : port.toNat < 65536 := port.val.isLt
  have hhi : (port >>> 8).toUInt8.toNat = port.toNat / 256 := by
    simp only [UInt16.toUInt8, toNat_toUInt8, uint16_shiftRight_toNat]
    omega
  have hlo : (port &&& 0xff).toUInt8.toNat = port.toNat % 256 := by
    show (port.toBitVec &&& (0xff : UInt16).toBitVec).toNat % 256 = _
    rw [BitVec.toNat_and]
    show (port.toNat &&& (2 ^ 8 - 1)) % 256 = _
    rw [Nat.and_pow_two_sub_one_eq_mod, Nat.mod_mod]
  simp only [beNat, List.foldl, hhi, hlo, show (0 : UInt8).toNat = 0 from rfl]
  omega

theorem buildAccessRequest_eq (h : to4 ipAddr = some ip4) :
    buildAccessRequest identifier ipAddr port authenticator =
      accessRequest :: identifier :: putUint16 38 ++ authenticator.bytes ++
        encodeAttributes [(1, ascii "test"), (4, ip4),
          (5, [0, 0, (port >>> 8).toUInt8, (port &&& 0xff).toUInt8])] := by
  have hl := to4_length h
  have hb := authenticator.length_eq
  simp [buildAccessRequest, RADIUSHeader.encode, RADIUSAttribute.encode, encodeAttributes, h,
    putLength, hl, hb, ascii, putUint16, show (6 : Nat).toUInt8 = 6 from rfl]

/-- **The Access-Request is well formed.** For every identifier, authenticator and port, and
every address with an IPv4 form (four bytes, or sixteen in the IPv4-mapped form), the request is
38 bytes long, its length field says so, and read as RFC 2865 lays it out it is an
Access-Request with that identifier and authenticator and exactly three attributes: User-Name
`test`, NAS-IP-Address with the address's four bytes, and NAS-Port with four bytes that read as
the port. -/
theorem buildAccessRequest_parses (h : to4 ipAddr = some ip4) :
    (buildAccessRequest identifier ipAddr port authenticator).length = 38 ∧
      ∃ v, parsePacket (buildAccessRequest identifier ipAddr port authenticator) =
          some ⟨accessRequest, identifier, 38, authenticator.bytes,
            [(1, ascii "test"), (4, ip4), (5, v)]⟩ ∧
        v.length = 4 ∧ beNat v = port.toNat := by
  have hl := to4_length h
  have hb := authenticator.length_eq
  have hL : (encodeAttributes [(1, ascii "test"), (4, ip4),
      (5, [0, 0, (port >>> 8).toUInt8, (port &&& 0xff).toUInt8])]).length = 18 := by
    simp [encodeAttributes, hl, ascii]
  have hp : buildAccessRequest identifier ipAddr port authenticator = _ := buildAccessRequest_eq h
  rw [show (38 : Nat) = 20 + 18 from rfl, ← hL] at hp
  rw [hp, hL]
  refine ⟨by simp [hb, hL, Go.putUint16_length], [0, 0, (port >>> 8).toUInt8, (port &&& 0xff).toUInt8], ?_, rfl,
    beNat_port port⟩
  rw [← hL, parsePacket_layout hb (by omega), parseAttributes_encodeAttributes _
    (by simp [hl, ascii]) _ (by simp [hL]), Option.map_some', hL]

theorem buildAccessRequest_parses_placeholder :
    to4 placeholderIP = some [192, 168, 0, 1] ∧
      (buildAccessRequest 7 placeholderIP radiusPort ⟨List.replicate 16 0, rfl⟩).length = 38 ∧
      ∃ v, parsePacket (buildAccessRequest 7 placeholderIP radiusPort ⟨List.replicate 16 0, rfl⟩) =
          some ⟨accessRequest, 7, 38, List.replicate 16 0,
            [(1, ascii "test"), (4, [192, 168, 0, 1]), (5, v)]⟩ ∧
        v.length = 4 ∧ beNat v = radiusPort.toNat :=
  ⟨rfl, buildAccessRequest_parses rfl⟩

end Build

/-! ## The reply -/

/-- The header `SendAccessRequest` reads from the first 20 bytes of the datagram. -/
def readHeader (buf : List UInt8) : Except String RADIUSHeader :=
  if h : buf.length < 20 then .error "response is too short"
  else .ok ⟨buf.getD 0 0, buf.getD 1 0, UInt16.ofNat (be16 [buf.getD 2 0, buf.getD 3 0]),
    ⟨(buf.drop 4).take 16, by simp; omega⟩⟩

def validateResponse (header : RADIUSHeader) : Option String :=
  if header.code = accessAccept ∨ header.code = accessReject ∨ header.code = accessChallenge then
    none
  else some ("invalid RADIUS code: received code " ++ toString header.code.toNat)

/-- `SendAccessRequest`: the request built from the clock's identifier and authenticator goes to
the server, whose answer is the datagram `Read` returns into a 512-byte buffer (or the write's or
the read's error). -/
def sendAccessRequest (identifier : UInt8) (authenticator : Authenticator)
    (server : List UInt8 → Except String (List UInt8)) : Except String RADIUSHeader := do
  let packet := buildAccessRequest identifier placeholderIP radiusPort authenticator
  let reply ← server packet
  readHeader (reply.take 512)

/-- What `Scan` returns: `SCAN_SUCCESS` with the reply's header, `SCAN_PROTOCOL_ERROR` with
`ValidateResponse`'s error, or the status `TryGetScanStatus` gives an I/O or short-reply error. -/
inductive ScanResult
  | success (header : RADIUSHeader)
  | protocolError (e : String)
  | failed (e : String)
  deriving DecidableEq

def scan (identifier : UInt8) (authenticator : Authenticator)
    (server : List UInt8 → Except String (List UInt8)) : ScanResult :=
  match sendAccessRequest identifier authenticator server with
  | .error e => .failed e
  | .ok respHeader =>
    match validateResponse respHeader with
    | some e => .protocolError e
    | none => .success respHeader

section Reply

variable {identifier : UInt8} {authenticator : Authenticator} {hdr : RADIUSHeader}
  {rest : List UInt8}

theorem ofNat_toNat_uint16 (n : UInt16) : UInt16.ofNat n.toNat = n := by
  cases n; simp [UInt16.ofNat, UInt16.toNat]

theorem RADIUSHeader.encode_length (hdr : RADIUSHeader) : hdr.encode.length = 20 := by
  simp [RADIUSHeader.encode, putUint16, hdr.authenticator.length_eq]

theorem readHeader_encode (rest : List UInt8) : readHeader (hdr.encode ++ rest) = .ok hdr := by
  obtain ⟨code, id, len, ⟨bs, hbs⟩⟩ := hdr
  have hl : (⟨code, id, len, ⟨bs, hbs⟩⟩ : RADIUSHeader).encode.length = 20 :=
    RADIUSHeader.encode_length _
  have h16 : be16 [(len >>> 8).toUInt8, len.toUInt8] = len.toNat := by
    have h := be16_putUint16 len.toNat
    simp only [putUint16, ofNat_toNat_uint16] at h
    rw [h]; exact Nat.mod_eq_of_lt len.val.isLt
  rw [readHeader, dif_neg (by simp [hl])]
  simp only [RADIUSHeader.encode, putUint16, ofNat_toNat_uint16]
  simp only [List.cons_append, List.getD_cons_succ, List.getD_cons_zero, h16, List.drop_succ_cons,
    List.drop_zero, List.nil_append, List.take_left' hbs, ofNat_toNat_uint16]

/-- **The client reads any reply back.** For every identifier and authenticator of the request,
a server that answers it with an encoded header and any attributes after it (up to the buffer's
512 bytes) has that header read back exactly; `Scan` accepts it when its code is Access-Accept,
Access-Reject or Access-Challenge — whatever its identifier, length field and authenticator, none
of which is compared with the request — and otherwise fails with `ValidateResponse`'s error. -/
theorem scan_accepts_reply {server : List UInt8 → Except String (List UInt8)}
    (hs : server (buildAccessRequest identifier placeholderIP radiusPort authenticator) =
      .ok (hdr.encode ++ rest)) :
    scan identifier authenticator server =
      if hdr.code = accessAccept ∨ hdr.code = accessReject ∨ hdr.code = accessChallenge then
        .success hdr
      else .protocolError ("invalid RADIUS code: received code " ++ toString hdr.code.toNat) := by
  have ht : (hdr.encode ++ rest).take 512 = hdr.encode ++ rest.take 492 := by
    rw [List.take_append_eq_append_take, List.take_of_length_le (by simp [hdr.encode_length]),
      hdr.encode_length]
  simp only [scan, sendAccessRequest, hs, bind, Except.bind, ht, readHeader_encode,
    validateResponse]
  split_ifs <;> rfl

theorem scan_reply_other_identifier :
    ∃ (hdr : RADIUSHeader) (server : List UInt8 → Except String (List UInt8)),
      server (buildAccessRequest 7 placeholderIP radiusPort ⟨List.replicate 16 0, rfl⟩) =
        .ok (hdr.encode ++ []) ∧ hdr.identifier ≠ 7 ∧
      scan 7 ⟨List.replicate 16 0, rfl⟩ server =
        if hdr.code = accessAccept ∨ hdr.code = accessReject ∨ hdr.code = accessChallenge then
          .success hdr
        else .protocolError ("invalid RADIUS code: received code " ++ toString hdr.code.toNat) :=
  let hdr : RADIUSHeader := ⟨accessReject, 8, 20, ⟨List.replicate 16 1, rfl⟩⟩
  ⟨hdr, fun _ => .ok (hdr.encode ++ []), rfl, by decide, scan_accepts_reply rfl⟩

end Reply

end Fasst.Radius
