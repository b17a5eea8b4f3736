import Fasst.Mqtt.Varint
import Fasst.Go.Net

/-!
# Fasst.Mqtt.Packet — the CONNECT packet and the CONNACK reader (`scanner.go`)

`SendMQTTConnectPacket(false)` builds an MQTT 3.1.1 CONNECT carrying the configured username and
password; `ReadMQTTv5Packet` reads one packet off the connection, framed by its Remaining Length,
and `processConnAck` records the CONNACK's flags and return code and checks its properties'
length.  A Go `string` is its bytes; the connection delivers the bytes the server sends, then
`io.EOF`.

* `sendMQTTConnectPacket_framed_iff`: the one Remaining Length byte frames the 3.1.1 CONNECT, and
  the length prefixes give the credentials' lengths, exactly when the Remaining Length is below
  128; `connect_misframed_at_106` is a 106-byte username;
* `readMQTTv5Packet_connAck`: on a CONNACK the reader takes exactly the packet its Remaining
  Length frames; `readMQTTv5Packet_short_connAck`: with a one-byte Remaining Length it records
  the CONNACK's flags and reason code and accepts its properties;
  `readMQTTv5Packet_long_connAck`: with a two-byte one it reads them one byte early, and
  `connAck_128_misread` is a CONNACK of Remaining Length 128 that it refuses.
-/

namespace Fasst.Mqtt

open Fasst.Go (ascii putUint16 be16 putUint16_length be16_putUint16_iff readFull readFull_append
  readFull_cons toNat_toUInt8)

/-! ## CONNECT -/

/-- The configured credentials, `Flags.Username` and `Flags.Password`; no other flag is read by
the functions modelled here. -/
structure Flags where
  username : List UInt8
  password : List UInt8
  deriving DecidableEq, Repr

def clientID : String := "MQTTClient"

/-- `remainingLength` as `SendMQTTConnectPacket(false)` computes it. -/
def connectRemainingLength (c : Flags) : Nat :=
  let remainingLength := 10 + 2 + clientID.length
  let remainingLength :=
    if c.username ≠ [] then remainingLength + (2 + c.username.length) else remainingLength
  if c.password ≠ [] then remainingLength + (2 + c.password.length) else remainingLength

/-- `SendMQTTConnectPacket(v5)`: the bytes it writes to the connection. -/
def sendMQTTConnectPacket (c : Flags) (v5 : Bool) : List UInt8 :=
  if v5 then
    [0x10, 0x17] ++ [0x00, 0x04] ++ ascii "MQTT" ++ [0x05, 0x02, 0x00, 0x3C] ++ [0x00] ++
      [0x00, 0x0A] ++ ascii "MQTTClient"
  else
    let usernameFlag := c.username ≠ []
    let passwordFlag := c.password ≠ []
    let remainingLength := connectRemainingLength c
    let connectFlags : UInt8 := 0x02
    let connectFlags := if usernameFlag then connectFlags ||| 0x80 else connectFlags
    let connectFlags := if passwordFlag then connectFlags ||| 0x40 else connectFlags
    let packet := [0x10, UInt8.ofNat remainingLength] ++ [0x00, 0x04] ++ ascii "MQTT" ++
      [0x04, connectFlags, 0x00, 0x3C] ++ [0x00, 0x0A] ++ ascii "MQTTClient"
    let packet :=
      if usernameFlag then packet ++ putUint16 c.username.length ++ c.username else packet
    if passwordFlag then packet ++ putUint16 c.password.length ++ c.password else packet

/-- A packet framed as MQTT requires: its Remaining Length, read as a Variable Byte Integer from
byte 1, counts exactly the bytes after it. -/
def Framed (packet : List UInt8) : Prop :=
  ∃ v n, vbiDecode (packet.drop 1) = some (v, n) ∧ 1 + n + v = packet.length

theorem sendMQTTConnectPacket_v5_framed (c : Flags) : Framed (sendMQTTConnectPacket c true) :=
  ⟨23, 1, rfl, rfl⟩

section Connect

variable (c : Flags)

def connectHeader (c : Flags) : List UInt8 :=
  let connectFlags : UInt8 := 0x02
  let connectFlags := if c.username ≠ [] then connectFlags ||| 0x80 else connectFlags
  let connectFlags := if c.password ≠ [] then connectFlags ||| 0x40 else connectFlags
  [0x00, 0x04] ++ ascii "MQTT" ++ [0x04, connectFlags, 0x00, 0x3C] ++ [0x00, 0x0A] ++
    ascii "MQTTClient"

def field (f : List UInt8) : List UInt8 := if f ≠ [] then putUint16 f.length ++ f else []

theorem sendMQTTConnectPacket_eq :
    sendMQTTConnectPacket c false = 0x10 :: UInt8.ofNat (connectRemainingLength c) ::
      (connectHeader c ++ field c.username ++ field c.password) := by
  simp only [sendMQTTConnectPacket, connectHeader, field, Bool.false_eq_true, if_false]
  split <;> split <;> simp

theorem connectHeader_length : (connectHeader c).length = 22 := by
  simp only [connectHeader]; split <;> split <;> rfl

theorem field_length (f : List UInt8) : (field f).length = if f ≠ [] then 2 + f.length else 0 := by
  unfold field; split <;> simp [putUint16_length]

theorem connectRemainingLength_eq : connectRemainingLength c =
    (connectHeader c).length + (field c.username).length + (field c.password).length := by
  simp only [connectRemainingLength, connectHeader_length, field_length]
  split <;> split <;> rfl

theorem sendMQTTConnectPacket_length :
    (sendMQTTConnectPacket c false).length = 2 + connectRemainingLength c := by
  rw [sendMQTTConnectPacket_eq, connectRemainingLength_eq]
  simp only [List.length_cons, List.length_append]
  omega

/-- The CONNECT is framed, and each length prefix gives its field's length, exactly when the
Remaining Length is below 128: `byte(remainingLength)` is a one-byte Variable Byte Integer only
then, and the credentials are then far shorter than `2 ^ 16` bytes. -/
theorem sendMQTTConnectPacket_framed_iff :
    (Framed (sendMQTTConnectPacket c false) ∧
      (c.username ≠ [] → be16 (putUint16 c.username.length) = c.username.length) ∧
      (c.password ≠ [] → be16 (putUint16 c.password.length) = c.password.length)) ↔
      connectRemainingLength c < 128 := by
  have hl := sendMQTTConnectPacket_length c
  have hr := connectRemainingLength_eq c
  rw [field_length, field_length, connectHeader_length] at hr
  simp only [be16_putUint16_iff]
  have hd : (sendMQTTConnectPacket c false).drop 1 =
      UInt8.ofNat (connectRemainingLength c) :: 0x00 :: (connectHeader c).tail ++
        field c.username ++ field c.password := by
    rw [sendMQTTConnectPacket_eq]; simp only [connectHeader]; split <;> split <;> rfl
  have hb : (UInt8.ofNat (connectRemainingLength c)).toNat = connectRemainingLength c % 256 := rfl
  simp only [Framed, hd, hl, vbiDecode, List.cons_append, vbiDecode.go_cons, hb]
  constructor
  · rintro ⟨⟨v, n, hv, he⟩, -⟩
    split at hv
    · cases hv; omega
    · simp only [vbiDecode.go_cons, show (0x00 : UInt8).toNat = 0 from rfl,
        show 0 < 128 from by omega, if_true, Option.map_some', Option.some.injEq,
        Prod.mk.injEq] at hv
      omega
  · intro h
    refine ⟨⟨connectRemainingLength c, 1, ?_, by omega⟩,
      fun hu => by rw [if_pos hu] at hr; split at hr <;> omega,
      fun hp => by rw [if_pos hp] at hr; split at hr <;> omega⟩
    rw [if_pos (by omega), Nat.mod_eq_of_lt (by omega)]

/-- A 106-byte username and no password: the Remaining Length is 130, written as the byte `0x82`,
which a Variable Byte Integer reader takes with the next byte `0x00` as the value 2 over two
bytes, while 129 bytes follow those two. -/
theorem connect_misframed_at_106 :
    connectRemainingLength ⟨List.replicate 106 0x61, []⟩ = 130 ∧
      (sendMQTTConnectPacket ⟨List.replicate 106 0x61, []⟩ false).take 3 = [0x10, 0x82, 0x00] ∧
      vbiDecode ((sendMQTTConnectPacket ⟨List.replicate 106 0x61, []⟩ false).drop 1) =
        some (2, 2) ∧
      (sendMQTTConnectPacket ⟨List.replicate 106 0x61, []⟩ false).length = 3 + 129 ∧
      ¬ Framed (sendMQTTConnectPacket ⟨List.replicate 106 0x61, []⟩ false) := by
  have hr : connectRemainingLength ⟨List.replicate 106 0x61, []⟩ = 130 := by decide
  have hv : vbiDecode ((sendMQTTConnectPacket ⟨List.replicate 106 0x61, []⟩ false).drop 1) =
      some (2, 2) := by
    rw [sendMQTTConnectPacket_eq, hr]; rfl
  have hl := sendMQTTConnectPacket_length ⟨List.replicate 106 0x61, []⟩
  rw [hr] at hl
  refine ⟨hr, by rw [sendMQTTConnectPacket_eq, hr]; rfl, hv, hl, fun ⟨v, n, h, he⟩ => ?_⟩
  rw [hv] at h
  cases h
  omega

end Connect

/-! ## CONNACK -/

/-- What `ReadMQTTv5Packet` and `processConnAck` record in `mqtt.results`; the fields other
functions fill are left out. -/
structure Results where
  -- `Response`: the packet read, which `fmt.Sprintf("%X", packet)` prints in hex
  response : List UInt8
  sessionPresent : Bool
  connectReturnCode : UInt8
  deriving DecidableEq, Repr

def goInt (x : Int) : Int := (x + 2 ^ 63) % 2 ^ 64 - 2 ^ 63

/-- `propertiesLength, n := binary.Uvarint(packet[off:])` and the test
`propertiesEnd > len(packet)` of `processConnAck` (`off = 4`) and `processDisconnect`
(`off = 3`). -/
def propertiesOverrun (packet : List UInt8) (off : Nat) : Bool :=
  let (propertiesLength, n) := uvarint (packet.drop off)
  let propertiesStart := goInt (off + n)
  let propertiesEnd := goInt (propertiesStart + goInt propertiesLength)
  decide (propertiesEnd > packet.length)

/-- `processConnAck(packet)`: the results and the error it returns. -/
def processConnAck (res : Results) (packet : List UInt8) : Results × Option String :=
  if packet.length < 4 then (res, some "invalid CONNACK packet length")
  else
    let res := { res with sessionPresent := packet.getD 2 0 &&& 0x01 == 0x01,
                          connectReturnCode := packet.getD 3 0 }
    if packet.length > 4 then
      if propertiesOverrun packet 4 then (res, some "invalid properties length in CONNACK")
      else (res, none)
    else (res, none)

def processDisconnect (res : Results) (packet : List UInt8) : Results × Option String :=
  if packet.length < 2 then (res, some "invalid DISCONNECT packet length")
  else if packet.length > 3 then
    if propertiesOverrun packet 3 then (res, some "invalid properties length in DISCONNECT")
    else (res, none)
  else (res, none)

/-- `ReadMQTTv5Packet()` on a connection that delivers `r`: the results and the error. -/
def readMQTTv5Packet (res : Results) (r : List UInt8) : Results × Option String :=
  match readFull 1 r "EOF" with
  | .error e => (res, some e)
  | .ok (firstByte, r) =>
    let firstByte := firstByte.getD 0 0
    let packetType := firstByte >>> 4
    match readVariableByteInteger r with
    | .error e => (res, some e)
    | .ok (remainingLengthBytes, r) =>
      let remainingLength := (uvarint remainingLengthBytes).1
      match readFull remainingLength r "EOF" with
      | .error e => (res, some e)
      | .ok (rest, _) =>
        let packet := firstByte :: remainingLengthBytes ++ rest
        let res := { res with response := packet }
        if packetType = 2 then processConnAck res packet
        else if packetType = 14 then processDisconnect res packet
        else (res, some ("unexpected packet type: " ++ toString packetType.toNat))

/-- A CONNACK as MQTT 5 frames it, after its first byte: the Remaining Length as a Variable Byte
Integer, the Connect Acknowledge Flags, the Reason Code, and the Properties, their length as a
Variable Byte Integer and then their bytes. -/
def connAckBody (flags reason : UInt8) (props : List UInt8) : List UInt8 :=
  flags :: reason :: vbiEncode props.length ++ props

def connAck (first flags reason : UInt8) (props : List UInt8) : List UInt8 :=
  first :: vbiEncode (connAckBody flags reason props).length ++ connAckBody flags reason props

section ConnAck

variable {res : Results} {first flags reason : UInt8} {props more : List UInt8}

theorem goInt_of_small {x : Int} (h₀ : -2 ^ 63 ≤ x) (h₁ : x < 2 ^ 63) : goInt x = x := by
  unfold goInt
  rw [Int.emod_eq_of_lt (by omega) (by omega)]
  omega

theorem readVariableByteInteger_vbiEncode {x : Nat} (hx : x < 2 ^ 28) (rest : List UInt8) :
    readVariableByteInteger (vbiEncode x ++ rest) = .ok (vbiEncode x, rest) :=
  readVariableByteInteger_eq_ok_iff.2 ⟨x, vbiDecode_vbiEncode hx rest, by simp, by simp⟩

theorem uvarint_vbiEncode {x : Nat} (hx : x < 2 ^ 28) (rest : List UInt8) :
    uvarint (vbiEncode x ++ rest) = (x, ((vbiEncode x).length : Int)) :=
  uvarint_of_vbiDecode (vbiDecode_vbiEncode hx rest)

theorem connAckBody_length :
    (connAckBody flags reason props).length = 2 + (vbiEncode props.length).length + props.length := by
  simp [connAckBody]; omega

theorem readMQTTv5Packet_connAck (ht : first >>> 4 = 2)
    (hl : (connAckBody flags reason props).length < 2 ^ 28) :
    readMQTTv5Packet res (connAck first flags reason props ++ more) =
      processConnAck { res with response := connAck first flags reason props }
        (connAck first flags reason props) := by
  have hu := uvarint_vbiEncode hl []
  rw [List.append_nil] at hu
  simp only [readMQTTv5Packet, connAck, List.cons_append, List.append_assoc, readFull_cons,
    List.getD_cons_zero, readVariableByteInteger_vbiEncode hl, hu, readFull_append, ht, if_true]

theorem processConnAck_short (hl : (connAckBody flags reason props).length < 128) :
    processConnAck res (connAck first flags reason props) =
      ({ res with sessionPresent := flags &&& 0x01 == 0x01, connectReturnCode := reason },
        none) := by
  have hb : (connAckBody flags reason props).length = _ := connAckBody_length
  have hp : props.length < 2 ^ 28 := by omega
  have hu := uvarint_vbiEncode hp props
  have hc : connAck first flags reason props =
      first :: (connAckBody flags reason props).length.toUInt8 :: flags :: reason ::
        (vbiEncode props.length ++ props) := by
    rw [connAck, vbiEncode_length_of_lt hl]; rfl
  have hlen : (connAck first flags reason props).length =
      4 + (vbiEncode props.length).length + props.length := by
    rw [hc]; simp; omega
  have hfit : propertiesOverrun (connAck first flags reason props) 4 = false := by
    simp only [propertiesOverrun, hlen]
    rw [hc]
    simp only [List.drop_succ_cons, List.drop_zero, hu]
    have hn := (vbiDecode.go_spec (vbiDecode_vbiEncode hp props)).2.1
    rw [goInt_of_small (x := ((4 : Nat) : Int) + ((vbiEncode props.length).length : Int))
        (by omega) (by omega),
      goInt_of_small (x := props.length) (by omega) (by omega),
      goInt_of_small (by omega) (by omega)]
    simp
  rw [processConnAck, if_neg (by omega)]
  simp only [hlen, hfit]
  simp [hc]

theorem connAck_long_eq (h₁ : 128 ≤ (connAckBody flags reason props).length)
    (h₂ : (connAckBody flags reason props).length < 128 ^ 2) :
    connAck first flags reason props =
      first :: ((connAckBody flags reason props).length % 128 + 128).toUInt8 ::
        ((connAckBody flags reason props).length / 128).toUInt8 :: connAckBody flags reason props := by
  rw [connAck, vbiEncode, vbiEncode.go_succ, if_neg (by omega), vbiEncode.go_succ,
    if_pos (by omega)]
  rfl

theorem processConnAck_long (h₁ : 128 ≤ (connAckBody flags reason props).length)
    (h₂ : (connAckBody flags reason props).length < 128 ^ 2) :
    processConnAck res (connAck first flags reason props) =
      ({ res with
          sessionPresent := ((connAckBody flags reason props).length / 128).toUInt8 &&& 0x01 == 0x01,
          connectReturnCode := flags },
        if propertiesOverrun (connAck first flags reason props) 4 then
          some "invalid properties length in CONNACK" else none) := by
  rw [connAck_long_eq h₁ h₂]
  have hl : 4 < (first :: ((connAckBody flags reason props).length % 128 + 128).toUInt8 ::
      ((connAckBody flags reason props).length / 128).toUInt8 ::
        connAckBody flags reason props).length := by simp; omega
  rw [processConnAck, if_neg (by omega), if_pos hl]
  split <;> rfl

/-- On a CONNACK with a one-byte Remaining Length, `ReadMQTTv5Packet` records the Connect
Acknowledge Flags' session bit and the Reason Code, and accepts the Properties' length. -/
theorem readMQTTv5Packet_short_connAck (ht : first >>> 4 = 2)
    (hl : (connAckBody flags reason props).length < 128) :
    readMQTTv5Packet res (connAck first flags reason props ++ more) =
      ({ res with
          response := connAck first flags reason props,
          sessionPresent := flags &&& 0x01 == 0x01, connectReturnCode := reason }, none) := by
  rw [readMQTTv5Packet_connAck ht (by omega), processConnAck_short hl]

/-- On a CONNACK with a two-byte Remaining Length, `ReadMQTTv5Packet` takes the session bit from
the length's second byte and the return code from the Connect Acknowledge Flags. -/
theorem readMQTTv5Packet_long_connAck (ht : first >>> 4 = 2)
    (h₁ : 128 ≤ (connAckBody flags reason props).length)
    (h₂ : (connAckBody flags reason props).length < 128 ^ 2) :
    (readMQTTv5Packet res (connAck first flags reason props ++ more)).1.sessionPresent =
        (((connAckBody flags reason props).length / 128).toUInt8 &&& 0x01 == 0x01) ∧
      (readMQTTv5Packet res (connAck first flags reason props ++ more)).1.connectReturnCode =
        flags := by
  rw [readMQTTv5Packet_connAck ht (by omega), processConnAck_long h₁ h₂]
  exact ⟨rfl, rfl⟩

/-- A CONNACK of 128 bytes after its Remaining Length: flags `0x00`, Reason Code `0x87`, and a
125-byte Reason String property.  Its Remaining Length takes the two bytes `0x80 0x01`, and
`ReadMQTTv5Packet` records the session flag of `0x01` and the return code `0x00`, then reads the
Reason Code and the Properties Length `0x87 0x7D` as a properties length of 16007 and fails. -/
theorem connAck_128_misread (res : Results) :
    (connAck 0x20 0x00 0x87 (0x1F :: 0x00 :: 0x7A :: List.replicate 122 0x61)).take 6 =
        [0x20, 0x80, 0x01, 0x00, 0x87, 0x7D] ∧
      (connAckBody 0x00 0x87 (0x1F :: 0x00 :: 0x7A :: List.replicate 122 0x61)).length = 128 ∧
      readMQTTv5Packet res (connAck 0x20 0x00 0x87 (0x1F :: 0x00 :: 0x7A :: List.replicate 122 0x61)) =
        ({ res with
            response := connAck 0x20 0x00 0x87 (0x1F :: 0x00 :: 0x7A :: List.replicate 122 0x61),
            sessionPresent := true, connectReturnCode := 0x00 },
          some "invalid properties length in CONNACK") := by
  have hp : (0x1F :: 0x00 :: 0x7A :: List.replicate 122 (0x61 : UInt8)).length = 125 := by simp
  have hb : connAckBody 0x00 0x87 (0x1F :: 0x00 :: 0x7A :: List.replicate 122 0x61) =
      0x00 :: 0x87 :: 0x7D :: 0x1F :: 0x00 :: 0x7A :: List.replicate 122 0x61 := by
    rw [connAckBody, hp]; rfl
  have hl : (connAckBody 0x00 0x87 (0x1F :: 0x00 :: 0x7A :: List.replicate 122 0x61)).length =
      128 := by rw [hb]; simp
  have hc : connAck 0x20 0x00 0x87 (0x1F :: 0x00 :: 0x7A :: List.replicate 122 0x61) =
      0x20 :: 0x80 :: 0x01 :: 0x00 :: 0x87 :: 0x7D :: 0x1F :: 0x00 :: 0x7A ::
        List.replicate 122 0x61 := by
    rw [connAck, hl, hb]; rfl
  have hr : readMQTTv5Packet res
      (connAck 0x20 0x00 0x87 (0x1F :: 0x00 :: 0x7A :: List.replicate 122 0x61) ++ []) = _ :=
    readMQTTv5Packet_connAck (by decide) (by omega)
  rw [List.append_nil, processConnAck_long hl.ge (by omega), hl] at hr
  have ho : propertiesOverrun (connAck 0x20 0x00 0x87
      (0x1F :: 0x00 :: 0x7A :: List.replicate 122 0x61)) 4 = true := by
    have hlen : (0x20 :: 0x80 :: 0x01 :: 0x00 :: 0x87 :: 0x7D :: 0x1F :: 0x00 :: 0x7A ::
        List.replicate 122 (0x61 : UInt8)).length = 131 := by simp
    rw [hc]
    unfold propertiesOverrun
    rw [hlen]
    decide
  refine ⟨by rw [hc]; rfl, hl, hr.trans ?_⟩
  rw [ho]
  rfl

end ConnAck

end Fasst.Mqtt
