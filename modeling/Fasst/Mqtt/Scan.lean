import Fasst.Mqtt.Packet

/-!
# Fasst.Mqtt.Scan — `ReadMQTTv3Packet` and the MQTT `Scan` (`scanner.go`, lines 359–383, 490–527)

`Scan` writes the CONNECT (`SendMQTTConnectPacket`) and reads the server's answer: in MQTT 5 with
`ReadMQTTv5Packet`, framed by `io.ReadFull`, and in MQTT 3.1.1 with `ReadMQTTv3Packet`, one
`conn.Read` into a zeroed 4-byte buffer whose byte count it ignores.  A TCP connection delivers
the server's bytes in segments, and one `Read` returns at most the first one, so the server is a
function from the bytes written to the segments it sends (or the connection's error).  The TLS
wrapping of `UseTLS` is left to the connection.

* `scan_v3_split_connAck`: in MQTT 3.1.1 a CONNACK `20 02 flags code` is read from the first
  segment alone: once that segment has two bytes the packet is accepted, and it is recorded with
  its own flags and code exactly when every byte of them the segment misses is zero;
* `scan_v5_any_segments`: in MQTT 5 a CONNACK with a one-byte Remaining Length is recorded with its
  flags and reason code however the server splits it into segments.
-/

namespace Fasst.Mqtt

open Fasst.Go (readInto readInto_getD getD_segment readInto_eq_take_iff)

/-- `ReadMQTTv3Packet()`, where the first `Read` returns `read`: at most four bytes of the first
segment land in the buffer, the rest of which stays zero. -/
def readMQTTv3Packet (res : Results) (read : Except String (List UInt8)) : Results × Option String :=
  match read with
  | .error e => (res, some e)
  | .ok segment =>
    let response : List UInt8 := readInto 4 segment
    let res := { res with response := response }
    if response.getD 0 0 &&& 0xF0 = 0xE0 ∧ response.getD 1 0 = 0x00 then (res, none)
    else if response.getD 0 0 ≠ 0x20 ∨ response.getD 1 0 ≠ 0x02 then
      (res, some "invalid CONNACK packet")
    else
      ({ res with sessionPresent := response.getD 2 0 &&& 0x01 == 0x01,
                  connectReturnCode := response.getD 3 0 }, none)

/-- The first `Read` on a connection that delivers `segments`: the first segment, or `io.EOF`
when the server closed the connection. -/
def firstRead : List (List UInt8) → Except String (List UInt8)
  | [] => .error "EOF"
  | segment :: _ => .ok segment

def Results.empty : Results := ⟨[], false, 0⟩

/-- `Scan`: the results (`nil` when the CONNECT could not be written) and the error it returns;
the status is `SCAN_SUCCESS` exactly when there is no error. -/
def scan (config : Flags) (v5 : Bool)
    (server : List UInt8 → Except String (List (List UInt8))) : Option Results × Option String :=
  match server (sendMQTTConnectPacket config v5) with
  | .error e => (none, some ("error sending CONNECT packet: " ++ e))
  | .ok segments =>
    let (res, err) :=
      if v5 then readMQTTv5Packet Results.empty segments.flatten
      else readMQTTv3Packet Results.empty (firstRead segments)
    match err with
    | some e => (some res, some ("error reading CONNACK packet: " ++ e))
    | none => (some res, none)

section Segments

variable {config : Flags} {server : List UInt8 → Except String (List (List UInt8))}

theorem readMQTTv3Packet_header (res : Results) {segment : List UInt8}
    (h0 : (readInto 4 segment).getD 0 0 = 0x20) (h1 : (readInto 4 segment).getD 1 0 = 0x02) :
    readMQTTv3Packet res (.ok segment) =
      ({ res with response := readInto 4 segment,
                  sessionPresent := (readInto 4 segment).getD 2 0 &&& 0x01 == 0x01,
                  connectReturnCode := (readInto 4 segment).getD 3 0 }, none) := by
  simp only [readMQTTv3Packet, h0, h1]
  rw [if_neg (by decide), if_neg (by decide)]

/-- **MQTT 3.1.1 reads the CONNACK from its first segment alone.** For every CONNACK
`20 02 flags code`, whatever follows it, and every first segment of the server's answer: `Scan`
accepts once that segment holds the two header bytes, and it records the CONNACK's bytes, session
bit and return code exactly when the bytes of the four that the segment misses are zero; so a
CONNACK split after its header is accepted as return code 0 with no session whatever it says. -/
theorem scan_v3_split_connAck {flags code : UInt8} {segment more : List UInt8}
    {rest : List (List UInt8)}
    (hs : server (sendMQTTConnectPacket config false) = .ok (segment :: rest))
    (hp : segment <+: 0x20 :: 0x02 :: flags :: code :: more) :
    (2 ≤ segment.length → (scan config false server).2 = none) ∧
    (scan config false server =
        (some ⟨[0x20, 0x02, flags, code], flags &&& 0x01 == 0x01, code⟩, none) ↔
      ∀ j, segment.length ≤ j → j < 4 → (0x20 :: 0x02 :: flags :: code :: more).getD j 0 = 0) := by
  have hb : ∀ i, i < 4 → (readInto 4 segment).getD i 0 =
      if i < segment.length then (0x20 :: 0x02 :: flags :: code :: more).getD i 0 else 0 :=
    fun i hi => (readInto_getD hi).trans (getD_segment hp i)
  rcases Nat.lt_or_ge segment.length 2 with hl | hl
  · refine ⟨fun h => absurd h (by omega), iff_of_false ?_ fun h => by simpa using h 1 (by omega)⟩
    have h1 : (readInto 4 segment).getD 1 0 = 0 := by rw [hb 1 (by omega), if_neg (by omega)]
    have h0 : (readInto 4 segment).getD 0 0 = 0x20 ∨ (readInto 4 segment).getD 0 0 = 0 := by
      rw [hb 0 (by omega)]; split <;> simp
    simp only [scan, hs, firstRead, Bool.false_eq_true, if_false, readMQTTv3Packet]
    rw [if_neg (by rcases h0 with h | h <;> rw [h, h1] <;> decide),
      if_pos (.inr (by rw [h1]; decide))]
    simp
  · have hh := readMQTTv3Packet_header Results.empty
      (by rw [hb 0 (by omega), if_pos (by omega)]; rfl)
      (by rw [hb 1 (by omega), if_pos (by omega)]; rfl)
    simp only [scan, hs, firstRead, Bool.false_eq_true, if_false, hh]
    rw [← @readInto_eq_take_iff 4 segment _ hp (by simp)]
    refine ⟨fun _ => by simp, fun h => ?_, fun h => by rw [h]; rfl⟩
    simp only [Prod.mk.injEq, Option.some.injEq, Results.mk.injEq, and_true] at h
    exact h.1

theorem scan_v3_split_connAck_header :
    (fun _ => .ok [[0x20, 0x02], [0x01, 0x05]] : List UInt8 → Except String (List (List UInt8)))
        (sendMQTTConnectPacket ⟨[], []⟩ false) = .ok ([0x20, 0x02] :: [[0x01, 0x05]]) ∧
      [0x20, 0x02] <+: (0x20 :: 0x02 :: 0x01 :: 0x05 :: [] : List UInt8) ∧
      (2 ≤ ([0x20, 0x02] : List UInt8).length →
        (scan ⟨[], []⟩ false fun _ => .ok [[0x20, 0x02], [0x01, 0x05]]).2 = none) ∧
      (scan ⟨[], []⟩ false (fun _ => .ok [[0x20, 0x02], [0x01, 0x05]]) =
          (some ⟨[0x20, 0x02, 0x01, 0x05], (0x01 : UInt8) &&& 0x01 == 0x01, 0x05⟩, none) ↔
        ∀ j, ([0x20, 0x02] : List UInt8).length ≤ j → j < 4 →
          (0x20 :: 0x02 :: 0x01 :: 0x05 :: [] : List UInt8).getD j 0 = 0) :=
  ⟨rfl, ⟨[0x01, 0x05], rfl⟩, scan_v3_split_connAck rfl ⟨[0x01, 0x05], rfl⟩⟩

/-- **MQTT 5 reads a CONNACK across segments.** For every split of the server's bytes into
segments that together start with a CONNACK of one-byte Remaining Length, `Scan` in MQTT 5
succeeds and records that packet, the session bit of its Connect Acknowledge Flags and its Reason
Code. -/
theorem scan_v5_any_segments {first flags reason : UInt8} {props more : List UInt8}
    {segments : List (List UInt8)}
    (hs : server (sendMQTTConnectPacket config true) = .ok segments)
    (hj : segments.flatten = connAck first flags reason props ++ more) (ht : first >>> 4 = 2)
    (hl : (connAckBody flags reason props).length < 128) :
    scan config true server =
      (some ⟨connAck first flags reason props, flags &&& 0x01 == 0x01, reason⟩, none) := by
  simp only [scan, hs, hj, if_true, readMQTTv5Packet_short_connAck ht hl]

theorem scan_v5_two_segments :
    ∃ segments : List (List UInt8),
      (fun _ => .ok segments : List UInt8 → Except String (List (List UInt8)))
          (sendMQTTConnectPacket ⟨[], []⟩ true) = .ok segments ∧
        segments.flatten = connAck 0x20 0x01 0x00 [] ++ [] ∧ (0x20 : UInt8) >>> 4 = 2 ∧
        (connAckBody 0x01 0x00 []).length < 128 ∧
        scan ⟨[], []⟩ true (fun _ => .ok segments) =
          (some ⟨connAck 0x20 0x01 0x00 [], (0x01 : UInt8) &&& 0x01 == 0x01, 0x00⟩, none) :=
  ⟨[[0x20, 0x03], [0x01, 0x00, 0x00]], rfl, rfl, by decide, by decide,
    scan_v5_any_segments rfl rfl (by decide) (by decide)⟩

end Segments

end Fasst.Mqtt
