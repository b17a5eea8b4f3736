import Fasst.Go.Net
import Fasst.Go.Bytes

/-!
# Fasst.X11 — the connection setup of the X11 scanner (`x11` package, lines 109–200)

`SendInitialMessage` writes the 12-byte connection setup request in the scanner's byte order
(`Init` sets `0x6C`, little-endian): protocol version 11.0 and no authorization.
`ReadServerResponse` reads the answer with one `conn.Read` into a fresh 1024-byte buffer, keeps the
bytes read as `Banner`, takes the major and minor versions from bytes 2–5 of the buffer, and
records in `Error` a version other than 11, or a byte 1 other than 1.  In the X11 setup reply the
status (failed, success, authenticate) is byte 0, and byte 1 is the length of the failure reason
or unused; the scanner never reads byte 0.  A Go `string` is kept as its bytes.

* `scan_classifies`: once the request is written and the `Read` returns, `Scan` always succeeds;
  the recorded `Error` names a major version other than 11, or else is
  `X11 connection failed or unauthorized: ` and the banner when byte 1 of the answer is not 1, and
  is empty otherwise, whatever the status byte says.
-/

namespace Fasst.X11

open Fasst.Go (Conn readInto uint16LE putUint16LE ascii ascii_append be16 putUint16)

/-- `ScanResults` without `ByteOrder`, which no function writes. -/
structure ScanResults where
  banner : List UInt8
  serverMajorVersion : Nat
  serverMinorVersion : Nat
  error : List UInt8
  deriving DecidableEq, Repr

def ScanResults.empty : ScanResults := ⟨[], 0, 0, []⟩

/-- `SendInitialMessage`'s 12 bytes in byte order `byteOrder`. -/
def sendInitialMessage (byteOrder : UInt8) : List UInt8 :=
  if byteOrder = 0x42 then
    byteOrder :: 0 :: putUint16 0x000B ++ putUint16 0x0000 ++ List.replicate 6 0
  else byteOrder :: 0 :: putUint16LE 0x000B ++ putUint16LE 0x0000 ++ List.replicate 6 0

/-- `ReadServerResponse` for a `Read` that delivered `read`: the results and the error. -/
def readServerResponse (byteOrder : UInt8) (read : Except String (List UInt8))
    (results : ScanResults) : ScanResults × Option String :=
  match read with
  | .error e => (results, some e)
  | .ok segment =>
    let buf := readInto 1024 segment
    let results := { results with banner := segment.take 1024 }
    let versions :=
      if byteOrder = 0x42 then
        (be16 [buf.getD 2 0, buf.getD 3 0], be16 [buf.getD 4 0, buf.getD 5 0])
      else (uint16LE [buf.getD 2 0, buf.getD 3 0], uint16LE [buf.getD 4 0, buf.getD 5 0])
    let results := { results with serverMajorVersion := versions.1,
                                  serverMinorVersion := versions.2 }
    if versions.1 ≠ 11 then
      ({ results with error := ascii ("unexpected X11 major version: " ++ toString versions.1) },
        none)
    else if buf.getD 1 0 = 1 then (results, none)
    else
      ({ results with error := ascii "X11 connection failed or unauthorized: " ++ results.banner },
        none)

/-- What `Scan` returns: `SCAN_SUCCESS` or the error, with the results either way. -/
inductive ScanResult
  | success (results : ScanResults)
  | failed (results : ScanResults) (e : String)
  deriving DecidableEq, Repr

def scan (byteOrder : UInt8) (conn : Conn) : ScanResult :=
  match conn.writeError (sendInitialMessage byteOrder) with
  | some e => .failed ScanResults.empty ("error sending initial X11 message: " ++ e)
  | none =>
    match readServerResponse byteOrder conn.read ScanResults.empty with
    | (results, some e) => .failed results ("error reading X11 response: " ++ e)
    | (results, none) => .success results

/-- The major version as `ReadServerResponse` reads it from the answer's bytes 2 and 3. -/
def majorVersion (byteOrder : UInt8) (segment : List UInt8) : Nat :=
  if byteOrder = 0x42 then be16 [segment.getD 2 0, segment.getD 3 0]
  else uint16LE [segment.getD 2 0, segment.getD 3 0]

/-- **X11 setup replies are classified without their status byte.** For every byte order and
connection: when the request is written and the first `Read` delivers `segment`, `Scan` succeeds,
records the answer's first 1024 bytes as the banner and the major version read from its bytes 2
and 3 (zero past its end), and records as `Error` the version when it is not 11, nothing when
byte 1 of the answer is 1, and `X11 connection failed or unauthorized: ` with the banner
otherwise; so no error is recorded exactly when the version is 11 and byte 1 is 1, and byte 0,
the reply's status, is never read. -/
theorem scan_classifies {byteOrder : UInt8} {conn : Conn} {segment : List UInt8}
    (hw : conn.writeError (sendInitialMessage byteOrder) = none)
    (hr : conn.read = .ok segment) :
    ∃ results, scan byteOrder conn = .success results ∧ results.banner = segment.take 1024 ∧
      results.serverMajorVersion = majorVersion byteOrder segment ∧
      results.error = (if majorVersion byteOrder segment ≠ 11 then
          ascii ("unexpected X11 major version: " ++ toString (majorVersion byteOrder segment))
        else if segment.getD 1 0 = 1 then []
        else ascii "X11 connection failed or unauthorized: " ++ segment.take 1024) ∧
      (results.error = [] ↔ majorVersion byteOrder segment = 11 ∧ segment.getD 1 0 = 1) := by
  have hb : ∀ i, i < 1024 → (readInto 1024 segment).getD i 0 = segment.getD i 0 :=
    fun _ h => Go.readInto_getD h
  simp only [scan, hw, hr, readServerResponse, hb 1 (by decide), hb 2 (by decide),
    hb 3 (by decide), hb 4 (by decide), hb 5 (by decide)]
  generalize hv : (if byteOrder = 0x42 then
      (be16 [segment.getD 2 0, segment.getD 3 0], be16 [segment.getD 4 0, segment.getD 5 0])
      else (uint16LE [segment.getD 2 0, segment.getD 3 0],
        uint16LE [segment.getD 4 0, segment.getD 5 0])) = versions
  have hmaj : versions.1 = majorVersion byteOrder segment := by
    rw [← hv]; unfold majorVersion; split <;> rfl
  rw [← hmaj]
  by_cases h11 : versions.1 = 11
  · simp only [h11, ne_eq, not_true_eq_false, if_false, true_and]
    by_cases h1 : segment.getD 1 0 = 1
    · simp only [h1, if_true]
      exact ⟨_, rfl, rfl, rfl, rfl, iff_of_true rfl trivial⟩
    · simp only [h1, if_false]
      exact ⟨_, rfl, rfl, rfl, rfl, iff_of_false (List.append_ne_nil_of_left_ne_nil (by decide) _) id⟩
  · simp only [h11, ne_eq, not_false_eq_true, if_true, false_and]
    refine ⟨_, rfl, rfl, rfl, rfl, iff_of_false ?_ id⟩
    rw [ascii_append]; exact List.append_ne_nil_of_left_ne_nil (by decide) _

theorem scan_classifies_success_reply :
    let conn : Conn := ⟨fun _ => none, .ok [1, 0, 11, 0, 0, 0]⟩
    conn.writeError (sendInitialMessage 0x6C) = none ∧ conn.read = .ok [1, 0, 11, 0, 0, 0] ∧
      ∃ results, scan 0x6C conn = .success results ∧
        results.banner = ([1, 0, 11, 0, 0, 0] : List UInt8).take 1024 ∧
        results.serverMajorVersion = majorVersion 0x6C [1, 0, 11, 0, 0, 0] ∧
        results.error = (if majorVersion 0x6C [1, 0, 11, 0, 0, 0] ≠ 11 then
            ascii ("unexpected X11 major version: " ++
              toString (majorVersion 0x6C [1, 0, 11, 0, 0, 0]))
          else if ([1, 0, 11, 0, 0, 0] : List UInt8).getD 1 0 = 1 then []
          else ascii "X11 connection failed or unauthorized: " ++
            ([1, 0, 11, 0, 0, 0] : List UInt8).take 1024) ∧
        (results.error = [] ↔ majorVersion 0x6C [1, 0, 11, 0, 0, 0] = 11 ∧
          ([1, 0, 11, 0, 0, 0] : List UInt8).getD 1 0 = 1) :=
  ⟨rfl, rfl, @scan_classifies 0x6C ⟨fun _ => none, .ok [1, 0, 11, 0, 0, 0]⟩ _ rfl rfl⟩

end Fasst.X11
