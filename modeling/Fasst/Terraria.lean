import Fasst.Go.Net
import Fasst.Go.Bytes

/-!
# Fasst.Terraria — the Connect Request and the reply check of the Terraria scanner (`scanner.go`, lines 104–190)

A Terraria packet is a two-byte little-endian length that counts the whole packet, a packet ID and
the payload.  `SendConnectRequest` writes packet 1 with the version string `Terraria244`;
`ReadAndValidateResponse` reads the answer with one `conn.Read` into a 1024-byte buffer, keeps
the bytes read as `ServerResponse`, and `ValidateResponse` accepts them when they are one whole
packet with ID 2 (password required) or 3 (continue connecting).

* `validateResponse_eq_none_iff`: what `ValidateResponse` accepts is exactly a packet with ID 2 or
  3 whose length field is its own length;
* `scan_eq_success_iff`: `Scan` succeeds exactly when the first `Read` delivers, in its first 1024
  bytes, one such packet and nothing more, so a packet split over segments, two packets in one
  segment and a packet longer than 1024 bytes are all rejected.
-/

namespace Fasst.Terraria

open Fasst.Go (Conn ascii putUint16LE uint16LE uint16LE_cons uint16LE_putUint16LE putUint16LE_uint16LE)

def terrariaVersion : String := "Terraria244"

/-- `SendConnectRequest`'s packet: length, packet ID 1, version string. -/
def sendConnectRequest : List UInt8 :=
  let versionBytes := ascii terrariaVersion
  let packetLength := (versionBytes.length + 1 + 2) % 65536
  let packetID : UInt8 := 1
  putUint16LE packetLength ++ packetID :: versionBytes

/-- `ValidateResponse`: `none` when the response is accepted, the error otherwise. -/
def validateResponse (response : List UInt8) : Option String :=
  if response.length < 3 then some "invalid response length"
  else
    let packetLength := uint16LE response
    if packetLength ≠ response.length then
      some ("invalid packet length: expected " ++ toString response.length ++ ", got " ++
        toString packetLength)
    else
      let packetID := response.getD 2 0
      if packetID = 2 then none
      else if packetID = 3 then none
      else some ("unknown Packet ID: " ++ toString packetID)

/-- `ReadAndValidateResponse` for a first `Read` that delivered `read`: the `ServerResponse` it
records (empty when the `Read` failed), and its error. -/
def readAndValidateResponse (read : Except String (List UInt8)) : List UInt8 × Option String :=
  match read with
  | .error e => ([], some e)
  | .ok segment =>
    let response := segment.take 1024
    (response, validateResponse response)

/-- What `Scan` returns: `SCAN_SUCCESS` with the results' `ServerResponse`, or the error with the
results (`nil` when the request could not be sent). -/
inductive ScanResult
  | success (serverResponse : List UInt8)
  | failed (serverResponse : Option (List UInt8)) (e : String)
  deriving DecidableEq, Repr

def scan (conn : Conn) : ScanResult :=
  match conn.writeError sendConnectRequest with
  | some e => .failed none ("error sending Connect Request: " ++ e)
  | none =>
    match readAndValidateResponse conn.read with
    | (serverResponse, some e) =>
      .failed (some serverResponse) ("error reading server response: " ++ e)
    | (serverResponse, none) => .success serverResponse

/-- A Terraria packet: the length of the whole packet, the packet ID, the payload. -/
def frame (packetID : UInt8) (payload : List UInt8) : List UInt8 :=
  putUint16LE (payload.length + 3) ++ packetID :: payload

example : sendConnectRequest = frame 1 (ascii terrariaVersion) := rfl

theorem uint16LE_frame (packetID : UInt8) (payload : List UInt8) :
    uint16LE (frame packetID payload) = (payload.length + 3) % 65536 :=
  uint16LE_putUint16LE _ _

/-- **What `ValidateResponse` accepts.** A response is accepted exactly when it is a packet with
ID 2 or 3, of fewer than 65536 bytes, whose length field is its own length. -/
theorem validateResponse_eq_none_iff {response : List UInt8} :
    validateResponse response = none ↔ ∃ packetID payload, response = frame packetID payload ∧
      (packetID = 2 ∨ packetID = 3) ∧ payload.length + 3 < 65536 := by
  constructor
  · intro h
    match response, h with
    | [], h | [_], h | [_, _], h => simp [validateResponse] at h
    | a :: b :: packetID :: payload, h =>
      simp only [validateResponse, uint16LE_cons, List.length_cons, List.getD_cons_succ,
        List.getD_cons_zero] at h
      have ha : a.toNat < 256 := a.toNat_lt_size
      have hb : b.toNat < 256 := b.toNat_lt_size
      split_ifs at h with h3 hl h2
      all_goals
        have hlen : a.toNat + b.toNat * 256 = payload.length + 3 := by simpa using hl
        refine ⟨packetID, payload, ?_, by simp [*], by omega⟩
        rw [frame, ← hlen, putUint16LE_uint16LE]; rfl
  · rintro ⟨packetID, payload, rfl, hid, hl⟩
    have hlen : (frame packetID payload).length = payload.length + 3 := by simp [frame, putUint16LE]
    simp only [validateResponse, hlen, uint16LE_frame, Nat.mod_eq_of_lt hl, ne_eq, not_true_eq_false,
      if_false, show ¬ payload.length + 3 < 3 by omega]
    rcases hid with rfl | rfl <;> rfl

/-- **`Scan` succeeds on exactly one packet in the first segment.** For every connection, `Scan`
succeeds recording `serverResponse` exactly when the request was written, the first `Read`
delivered a segment whose first 1024 bytes are `serverResponse`, and these are one packet with
ID 2 or 3 whose length field is its own length. -/
theorem scan_eq_success_iff {conn : Conn} {serverResponse : List UInt8} :
    scan conn = .success serverResponse ↔ conn.writeError sendConnectRequest = none ∧
      ∃ segment, conn.read = .ok segment ∧ serverResponse = segment.take 1024 ∧
        ∃ packetID payload, serverResponse = frame packetID payload ∧
          (packetID = 2 ∨ packetID = 3) := by
  unfold scan
  cases hw : conn.writeError sendConnectRequest with
  | some e => simp
  | none =>
    cases hr : conn.read with
    | error e => simp [readAndValidateResponse]
    | ok segment =>
      simp only [readAndValidateResponse, Except.ok.injEq, true_and, exists_eq_left']
      cases hv : validateResponse (segment.take 1024) with
      | some e =>
        refine iff_of_false (by simp) ?_
        rintro ⟨rfl, packetID, payload, hf, hid⟩
        have hl : payload.length + 3 < 65536 := by
          have := congrArg List.length hf
          simp only [List.length_take, frame, putUint16LE, List.length_append, List.length_cons,
            List.length_nil] at this
          omega
        rw [validateResponse_eq_none_iff.mpr ⟨packetID, payload, hf, hid, hl⟩] at hv
        cases hv
      | none =>
        obtain ⟨packetID, payload, hf, hid, -⟩ := validateResponse_eq_none_iff.mp hv
        simp only [ScanResult.success.injEq]
        exact ⟨fun h => ⟨h.symm, packetID, payload, h ▸ hf, hid⟩, fun h => h.1.symm⟩

end Fasst.Terraria
