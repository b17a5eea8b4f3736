import Fasst.Go.Net

/-!
# Fasst.Bolt — the version handshake of the Bolt scanner (`bolt` package, lines 303–377)

`Scan` writes the Bolt preamble `60 60 B0 17`, then four proposed versions (1, 2, 3 and an empty
slot), each a big-endian `uint32`, and reads the server's choice with `readBytes(4)`: one
`conn.Read` into a fresh 4-byte buffer, returned whole whatever the byte count.  The chosen
version is that buffer as a big-endian `uint32`; zero means the server supports none of them.
The `%x` renderings of the preamble and of the answer are kept as their bytes.

* `scan_first_segment`: the `len(response) != 4` check never fires, and the server's choice is
  read from the first segment alone: it is recorded exactly when it is nonzero and every byte of
  it that the first segment misses is zero.
-/

namespace Fasst.Bolt

open Fasst.Go (Conn readInto readInto_eq_take_iff)

def identification : List UInt8 := [0x60, 0x60, 0xB0, 0x17]

def versionMsg : List UInt8 := [0, 0, 0, 1, 0, 0, 0, 2, 0, 0, 0, 3, 0, 0, 0, 0]

/-- `ScanResults`: the preamble and the answer as the bytes `%x` prints, and the version. -/
structure ScanResults where
  identification : List UInt8
  versionResponse : List UInt8
  protocolVersion : Nat
  deriving DecidableEq, Repr

/-- `readBytes(numBytes)`: the whole fresh buffer after one `Read`, or the `Read`'s error. -/
def readBytes (numBytes : Nat) (read : Except String (List UInt8)) : Except String (List UInt8) :=
  read.map (readInto numBytes)

/-- `binary.BigEndian.Uint32` of a 4-byte slice. -/
def bigEndianUint32 (b : List UInt8) : Nat :=
  ((b.getD 0 0).toNat * 256 + (b.getD 1 0).toNat) * 65536 +
    (b.getD 2 0).toNat * 256 + (b.getD 3 0).toNat

/-- What `Scan` returns: its status with the results, or the status `TryGetScanStatus` gives an
I/O error, with no results. -/
inductive ScanResult
  | success (results : ScanResults)
  | protocolError (results : ScanResults) (e : String)
  | applicationError (results : ScanResults) (e : String)
  | failed (e : String)
  deriving DecidableEq, Repr

def scan (conn : Conn) : ScanResult :=
  match conn.writeError identification with
  | some e => .failed ("error sending identification bytes: " ++ e)
  | none =>
    match conn.writeError versionMsg with
    | some e => .failed ("error sending version negotiation message: " ++ e)
    | none =>
      match readBytes 4 conn.read with
      | .error e => .failed ("error reading server response: " ++ e)
      | .ok response =>
        if response.length ≠ 4 then
          .protocolError ⟨identification, response, 0⟩
            ("invalid response length: expected 4 bytes, got " ++ toString response.length)
        else
          let version := bigEndianUint32 response
          if version = 0 then
            .applicationError ⟨identification, response, version⟩
              ("invalid protocol version: " ++ toString version)
          else .success ⟨identification, response, version⟩

theorem readBytes_length {read : Except String (List UInt8)} {response : List UInt8}
    (h : readBytes 4 read = .ok response) : response.length = 4 := by
  cases read <;> simp only [readBytes, Except.map, Except.ok.injEq, reduceCtorEq] at h
  rw [← h, Go.length_readInto]

theorem bigEndianUint32_take (b : List UInt8) : bigEndianUint32 (b.take 4) = bigEndianUint32 b := by
  simp only [bigEndianUint32, List.getD_eq_getElem?_getD,
    List.getElem?_take_of_lt (show 0 < 4 by omega), List.getElem?_take_of_lt (show 1 < 4 by omega),
    List.getElem?_take_of_lt (show 2 < 4 by omega), List.getElem?_take_of_lt (show 3 < 4 by omega)]

/-- **Bolt reads the server's choice from one segment.** For every connection `Scan` never
returns the `invalid response length` error.  For every answer of at least four bytes and every
first segment of it: when both writes succeed, `Scan` succeeds recording the answer's first four
bytes and the version they give exactly when that version is nonzero and the bytes of the four
that the first segment misses are zero; otherwise it records the zero-padded segment. -/
theorem scan_first_segment {conn : Conn} {segment answer : List UInt8}
    (hi : conn.writeError identification = none) (hv : conn.writeError versionMsg = none)
    (hr : conn.read = .ok segment) (hs : segment <+: answer) (h4 : 4 ≤ answer.length) :
    (∀ (c : Conn) r e, scan c ≠ .protocolError r e) ∧
    (scan conn = .success ⟨identification, answer.take 4, bigEndianUint32 answer⟩ ↔
      bigEndianUint32 answer ≠ 0 ∧ ∀ j, segment.length ≤ j → j < 4 → answer.getD j 0 = 0) := by
  refine ⟨fun c r e => ?_, ?_⟩
  · unfold scan
    split
    · simp
    · split
      · simp
      · split
        · simp
        · next h => rw [if_neg (by simp [readBytes_length h])]; dsimp only; split <;> simp
  · rw [← readInto_eq_take_iff hs h4]
    simp only [scan, hi, hv, hr, readBytes, Except.map, Go.length_readInto, ne_eq,
      not_true_eq_false, if_false]
    constructor
    · intro h
      split at h
      · cases h
      · simp only [ScanResult.success.injEq, ScanResults.mk.injEq, true_and] at h
        obtain ⟨hb, he⟩ := h
        exact ⟨he ▸ ‹_›, hb⟩
    · rintro ⟨h0, hb⟩
      rw [hb, bigEndianUint32_take, if_neg h0]

theorem scan_first_segment_split :
    let conn : Conn := ⟨fun _ => none, .ok [0, 0]⟩
    conn.writeError identification = none ∧ conn.writeError versionMsg = none ∧
      conn.read = .ok [0, 0] ∧ [0, 0] <+: ([0, 0, 0, 3] : List UInt8) ∧
      4 ≤ ([0, 0, 0, 3] : List UInt8).length ∧
      (∀ (c : Conn) r e, scan c ≠ .protocolError r e) ∧
      (scan conn = .success ⟨identification, ([0, 0, 0, 3] : List UInt8).take 4,
          bigEndianUint32 [0, 0, 0, 3]⟩ ↔
        bigEndianUint32 [0, 0, 0, 3] ≠ 0 ∧ ∀ j, ([0, 0] : List UInt8).length ≤ j → j < 4 →
          ([0, 0, 0, 3] : List UInt8).getD j 0 = 0) :=
  ⟨rfl, rfl, rfl, ⟨[0, 3], rfl⟩, by decide,
    @scan_first_segment ⟨fun _ => none, .ok [0, 0]⟩ [0, 0] [0, 0, 0, 3] rfl rfl rfl ⟨[0, 3], rfl⟩
      (by decide)⟩

end Fasst.Bolt
