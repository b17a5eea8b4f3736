import Fasst.Go.Bytes
import Fasst.Go.Strings

/-!
# Fasst.Tftp — the TFTP scanner (`modules/tftp/scanner.go`)

`Scan` sends a read request for `dummyfile` in mode `octet` (`createRRQMessage`, `SendRRQ`),
reads one datagram into a zeroed 516-byte buffer and describes it (`decodeTFTPResponse`).  The
reply reaches the decoder as `buf[:n]`, so a slice expression past `n` but within the buffer
reads the buffer's zeros, and `response[4:]` on fewer than four bytes is a run-time panic.
Requests are read back as RFC 1350 (section 5) lays them out, by `parseRRQ`.

* `parseRRQ_iff`: the packets the reader accepts are exactly the read requests `createRRQMessage`
  builds from a file name and a mode free of zero bytes, and it gives both back;
* `scan_panics_iff`: `Scan` panics exactly when the server answers with a DATA datagram of two or
  three bytes;
* `scan_reports_reply`: a DATA packet of up to 512 data bytes is reported with its block number
  and data length, an ERROR packet with its code and message.
-/

namespace Fasst.Tftp

open Fasst.Go (ascii putUint16 be16 be16_putUint16 UInt8.toNat_inj_iff)
open Fasst.Go (cut cut_append cut_eq_some)

def tftpRRQ : Nat := 1
def tftpData : Nat := 3
def tftpError : Nat := 5

/-! ## The read request -/

/-- `createRRQMessage(filename, mode)`: the buffer its four writes fill. -/
def createRRQMessage (filename mode : List UInt8) : List UInt8 :=
  putUint16 tftpRRQ ++ filename ++ [0] ++ mode ++ [0]

/-- A read request as RFC 1350 lays it out: the opcode 1 in two bytes, the file name and a zero
byte, the mode and a zero byte. -/
def parseRRQ : List UInt8 → Option (List UInt8 × List UInt8)
  | 0 :: 1 :: rest =>
    match cut 0 rest with
    | (filename, some rest) =>
      match cut 0 rest with
      | (mode, some []) => some (filename, mode)
      | _ => none
    | _ => none
  | _ => none

/-- **Read requests round trip.** A packet is accepted as a read request, with file name `f` and
mode `m`, exactly when it is `createRRQMessage f m` for `f` and `m` free of zero bytes. -/
theorem parseRRQ_iff {p filename mode : List UInt8} :
    parseRRQ p = some (filename, mode) ↔
      p = createRRQMessage filename mode ∧ 0 ∉ filename ∧ 0 ∉ mode := by
  have h1 : putUint16 tftpRRQ = [0, 1] := rfl
  constructor
  · intro h
    unfold parseRRQ at h
    split at h
    · split at h
      · next hf =>
        split at h
        · next hm =>
          cases h
          obtain ⟨rfl, hf'⟩ := cut_eq_some hf
          obtain ⟨rfl, hm'⟩ := cut_eq_some hm
          exact ⟨by simp [createRRQMessage, h1], hf', hm'⟩
        · cases h
      · cases h
    · cases h
  · rintro ⟨rfl, hf, hm⟩
    have hp : createRRQMessage filename mode = 0 :: 1 :: (filename ++ 0 :: (mode ++ [0])) := by
      simp [createRRQMessage, h1]
    rw [hp]
    simp only [parseRRQ, cut_append hf, cut_append hm]

theorem parseRRQ_dummyfile :
    parseRRQ (createRRQMessage (ascii "dummyfile") (ascii "octet")) =
      some (ascii "dummyfile", ascii "octet") :=
  parseRRQ_iff.2 ⟨rfl, by decide, by decide⟩

/-! ## The reply -/

/-- What `decodeTFTPResponse` comes to: the message it returns, its error, or a run-time panic. -/
inductive Decoded
  | message (m : List UInt8)
  | error (e : String)
  | panic
  deriving DecidableEq, Repr

/-- `decodeTFTPResponse(response)` on `buf[:n]` of `SendRRQ`'s zeroed buffer: `response[2:4]`
reads within the buffer, zeros past `n`; `response[4:]` with `n < 4` panics. -/
def decodeTFTPResponse (response : List UInt8) : Decoded :=
  if response.length < 2 then .error "invalid response length"
  else
    let opcode := be16 [response.getD 0 0, response.getD 1 0]
    if opcode = tftpData then
      let blockNumber := be16 [response.getD 2 0, response.getD 3 0]
      if response.length < 4 then .panic
      else .message (ascii ("Received DATA block #" ++ toString blockNumber ++ " (" ++
        toString (response.length - 4) ++ " bytes)"))
    else if opcode = tftpError then
      let errorCode := be16 [response.getD 2 0, response.getD 3 0]
      let errorMessage := if response.length > 4 then (response.drop 4).dropLast else []
      .message (ascii ("Received ERROR code " ++ toString errorCode ++ ": ") ++ errorMessage)
    else .error ("Unknown TFTP response opcode: " ++ toString opcode)

/-- What `Scan` returns: `SCAN_SUCCESS` with the message, the status `TryGetScanStatus` gives an
error, or the panic. -/
inductive ScanResult
  | success (m : List UInt8)
  | failed (e : String)
  | panic
  deriving DecidableEq, Repr

/-- `Scan`: `SendRRQ(sock, "dummyfile", "octet")` to a server that answers the request with a
datagram (or the write's or read's error), of which `Read` keeps 516 bytes, then
`decodeTFTPResponse`. -/
def scan (server : List UInt8 → Except String (List UInt8)) : ScanResult :=
  match server (createRRQMessage (ascii "dummyfile") (ascii "octet")) with
  | .error e => .failed e
  | .ok reply =>
    match decodeTFTPResponse (reply.take 516) with
    | .message m => .success m
    | .error e => .failed e
    | .panic => .panic

section Reply

theorem be16_eq_iff {a b : UInt8} {n : Nat} (hn : n < 256) :
    be16 [a, b] = n ↔ a = 0 ∧ b.toNat = n := by
  have hb := b.val.isLt
  simp only [be16]
  constructor
  · intro h
    refine ⟨UInt8.toNat_inj_iff.1 (by show a.toNat = 0; omega), by omega⟩
  · rintro ⟨rfl, h⟩
    show 0 * 256 + b.toNat = n
    omega

theorem decodeTFTPResponse_eq_panic_iff {r : List UInt8} :
    decodeTFTPResponse r = .panic ↔ (r.length = 2 ∨ r.length = 3) ∧ r.take 2 = [0, 3] := by
  have htake : 2 ≤ r.length → (r.take 2 = [0, 3] ↔ be16 [r.getD 0 0, r.getD 1 0] = tftpData) := by
    intro hl
    match r, hl with
    | a :: b :: _, _ =>
      rw [be16_eq_iff (by decide)]
      simp only [List.take_succ_cons, List.take_zero, List.cons.injEq, and_true,
        List.getD_cons_zero, List.getD_cons_succ, tftpData]
      exact and_congr_right fun _ => ⟨fun h => h ▸ rfl, fun h => UInt8.toNat_inj_iff.1 h⟩
  unfold decodeTFTPResponse
  by_cases hl : r.length < 2
  · simp only [hl, if_true]
    exact iff_of_false (by simp) fun h => by omega
  · simp only [hl, if_false, htake (by omega)]
    by_cases hd : be16 [r.getD 0 0, r.getD 1 0] = tftpData
    · rw [if_pos hd]
      split_ifs with h4
      · exact iff_of_true rfl ⟨by omega, hd⟩
      · exact iff_of_false (by simp) fun h => by omega
    · rw [if_neg hd]
      exact iff_of_false (by split_ifs <;> simp) fun h => hd h.2

/-- **A short DATA reply crashes the scan.** `Scan` panics exactly when the server answers the
read request with a datagram of two or three bytes whose opcode is DATA; every other answer gives
a message or an error. -/
theorem scan_panics_iff {server : List UInt8 → Except String (List UInt8)} :
    scan server = .panic ↔
      ∃ reply, server (createRRQMessage (ascii "dummyfile") (ascii "octet")) = .ok reply ∧
        (reply.length = 2 ∨ reply.length = 3) ∧ reply.take 2 = [0, 3] := by
  unfold scan
  split
  · next e hs => simp [hs]
  · next reply hs =>
    have ht : (reply.take 516).length = 2 ∨ (reply.take 516).length = 3 ↔
        reply.length = 2 ∨ reply.length = 3 := by
      simp only [List.length_take]; omega
    have h2 : (reply.take 516).take 2 = reply.take 2 := by rw [List.take_take]; rfl
    simp only [hs, Except.ok.injEq, exists_eq_left']
    rw [← ht, ← h2, ← decodeTFTPResponse_eq_panic_iff]
    split <;> simp_all

theorem scan_panics_two_bytes :
    scan (fun _ => .ok [0, 3]) = .panic :=
  scan_panics_iff.2 ⟨[0, 3], rfl, .inl rfl, rfl⟩

/-- **Replies are reported as sent.** For every block number and up to 512 data bytes, a server
answering with that DATA packet has the block number and the data's length reported; for every
error code and every message of up to 511 bytes, a server answering with that ERROR packet and
its zero byte has the code and the message reported. -/
theorem scan_reports_reply {block code : Nat} {data msg : List UInt8} (hb : block < 65536)
    (hc : code < 65536) (hd : data.length ≤ 512) (hm : msg.length ≤ 511) :
    scan (fun _ => .ok (putUint16 tftpData ++ putUint16 block ++ data)) =
        .success (ascii ("Received DATA block #" ++ toString block ++ " (" ++
          toString data.length ++ " bytes)")) ∧
      scan (fun _ => .ok (putUint16 tftpError ++ putUint16 code ++ msg ++ [0])) =
        .success (ascii ("Received ERROR code " ++ toString code ++ ": ") ++ msg) := by
  obtain ⟨hi, lo, hbl⟩ : ∃ hi lo, putUint16 block = [hi, lo] := ⟨_, _, rfl⟩
  obtain ⟨hi', lo', hcl⟩ : ∃ hi lo, putUint16 code = [hi, lo] := ⟨_, _, rfl⟩
  have hblock : be16 [hi, lo] = block := by rw [← hbl, be16_putUint16, Nat.mod_eq_of_lt hb]
  have hcode : be16 [hi', lo'] = code := by rw [← hcl, be16_putUint16, Nat.mod_eq_of_lt hc]
  have h3 : putUint16 tftpData = [0, 3] := rfl
  have h5 : putUint16 tftpError = [0, 5] := rfl
  have hb3 : be16 [0, 3] = tftpData := rfl
  have hb5 : be16 [0, 5] = tftpError := rfl
  rw [h3, hbl, h5, hcl]
  constructor
  · have ht : ([0, 3] ++ [hi, lo] ++ data).take 516 = 0 :: 3 :: hi :: lo :: data :=
      List.take_of_length_le (by simp; omega)
    simp only [scan, ht, decodeTFTPResponse, List.getD_cons_zero, List.getD_cons_succ, hb3, hblock]
    simp only [List.length_cons, if_true, List.drop_succ_cons, List.drop_zero, Nat.add_sub_cancel]
    split_ifs <;> first | omega | rfl
  · have ht : ([0, 5] ++ [hi', lo'] ++ msg ++ [0]).take 516 = 0 :: 5 :: hi' :: lo' :: (msg ++ [0]) :=
      List.take_of_length_le (by simp; omega)
    simp only [scan, ht, decodeTFTPResponse, List.getD_cons_zero, List.getD_cons_succ, hb5, hcode]
    simp only [List.length_cons, List.length_append, List.length_singleton,
      show tftpError ≠ tftpData by decide, if_false, if_true,
      List.drop_succ_cons, List.drop_zero, List.dropLast_concat]
    split_ifs <;> first | omega | rfl

theorem scan_reply_block_one :
    (1 < 65536 ∧ 0 < 65536 ∧ ([] : List UInt8).length ≤ 512 ∧ ([] : List UInt8).length ≤ 511) ∧
      scan (fun _ => .ok (putUint16 tftpData ++ putUint16 1 ++ [])) =
        .success (ascii ("Received DATA block #" ++ toString 1 ++ " (" ++
          toString ([] : List UInt8).length ++ " bytes)")) ∧
      scan (fun _ => .ok (putUint16 tftpError ++ putUint16 0 ++ [] ++ [0])) =
        .success (ascii ("Received ERROR code " ++ toString 0 ++ ": ") ++ []) :=
  ⟨⟨by decide, by decide, by decide, by decide⟩,
    scan_reports_reply (by decide) (by decide) (by decide) (by decide)⟩

end Reply

end Fasst.Tftp
