import Fasst.Go.Bytes
import Mathlib.Data.List.Infix

/-!
# Fasst.Rethinkdb — the handshake of the RethinkDB scanner (`rethinkdb` package, lines 114–170)

`Scan` writes the V1_0 magic number `c3 bd c2 34` and reads the server's answer with
`readResponse`: one-byte `Read`s until a zero byte, the bytes before it being the answer.  The
answer is kept as `HandshakeResponse`; it must parse as a JSON object (`json.Unmarshal` into a
`map[string]interface{}`, taken here as a function returning its error), and `Scan` reports
`SCAN_SUCCESS` when the text `success` occurs anywhere in it, `SCAN_APPLICATION_ERROR` otherwise.

* `readResponse_append`: the read loop returns exactly the bytes before the first zero byte,
  whatever follows it, and the connection's error when no zero byte comes;
* `scan_nul_terminated`: for every zero-terminated answer, `Scan` records the answer and
  classifies it by parsing and by the text `success` alone, so the server's refusal
  `{"success":false,...}` is reported as `SCAN_SUCCESS`.
-/

namespace Fasst.Rethinkdb

open Fasst.Go (ascii)

def magicNumber : List UInt8 := [0xc3, 0xbd, 0xc2, 0x34]

/-- The connection `t.Open` gives: the error of the magic number's `Write`, the bytes the server
sends, and the error a `Read` returns once they are all read (`io.EOF` or a timeout). -/
structure Stream where
  writeError : Option String
  bytes : List UInt8
  final : String

def readResponse.loop (final : String) : List UInt8 → List UInt8 → Except String (List UInt8)
  | _, [] => .error final
  | response, b :: bytes => if b = 0 then .ok response else loop final (response ++ [b]) bytes

/-- `readResponse()`: the bytes before the first zero byte, or the `Read`'s error. -/
def readResponse (bytes : List UInt8) (final : String) : Except String (List UInt8) :=
  readResponse.loop final [] bytes

inductive ScanStatus
  | success
  | protocolError
  | applicationError
  deriving DecidableEq, Repr

/-- What `Scan` returns: a status with `HandshakeResponse` and the error, or the status
`TryGetScanStatus` gives an I/O error, with no results. -/
inductive ScanResult
  | done (status : ScanStatus) (handshakeResponse : List UInt8) (e : Option String)
  | failed (e : String)
  deriving DecidableEq, Repr

/-- `Scan` from the open connection on, with `json.Unmarshal`'s error for a text. -/
def scan (unmarshal : List UInt8 → Option String) (stream : Stream) : ScanResult :=
  match stream.writeError with
  | some e => .failed ("error sending handshake: " ++ e)
  | none =>
    match readResponse stream.bytes stream.final with
    | .error e => .failed ("error reading response: " ++ e)
    | .ok response =>
      match unmarshal response with
      | some e => .done .protocolError response (some ("error parsing JSON response: " ++ e))
      | none =>
        if ascii "success" <:+: response then .done .success response none
        else .done .applicationError response none

section ReadLoop

variable {final : String}

theorem readResponse.loop_append {p : List UInt8} (hp : 0 ∉ p) (response rest : List UInt8) :
    loop final response (p ++ rest) = loop final (response ++ p) rest := by
  induction p generalizing response with
  | nil => simp
  | cons b p ih =>
    rw [List.cons_append, loop, if_neg (fun (h : b = 0) => hp (h ▸ List.mem_cons_self b p)),
      ih (fun h => hp (List.mem_cons_of_mem _ h))]
    simp

/-- **The zero-terminated read.** For every answer `m` with no zero byte, `readResponse` of `m`,
a zero byte and anything returns `m`; with no zero byte to come it returns the connection's
error. -/
theorem readResponse_append {m : List UInt8} (hm : 0 ∉ m) :
    (∀ rest, readResponse (m ++ 0 :: rest) final = .ok m) ∧ readResponse m final = .error final := by
  constructor
  · intro rest
    rw [readResponse, readResponse.loop_append hm, List.nil_append, readResponse.loop, if_pos rfl]
  · simpa [readResponse] using @readResponse.loop_append final m hm [] []

end ReadLoop

/-- **`Scan` classifies the zero-terminated answer by the text `success`.** For every JSON
parser, connection and answer `m` without a zero byte: when the magic number is written and the
server sends `m`, a zero byte and anything, `Scan` records `m` and reports a parse error as
`SCAN_PROTOCOL_ERROR`; a parsed answer is `SCAN_SUCCESS` exactly when `success` occurs in it, and
`SCAN_APPLICATION_ERROR` otherwise. -/
theorem scan_nul_terminated (unmarshal : List UInt8 → Option String) {stream : Stream}
    {m rest : List UInt8} (hw : stream.writeError = none) (hb : stream.bytes = m ++ 0 :: rest)
    (hm : 0 ∉ m) :
    scan unmarshal stream =
      match unmarshal m with
      | some e => .done .protocolError m (some ("error parsing JSON response: " ++ e))
      | none => .done (if ascii "success" <:+: m then .success else .applicationError) m none := by
  simp only [scan, hw, hb, (readResponse_append hm).1]
  split <;> (try split) <;> rfl

theorem scan_nul_terminated_refusal :
    let refusal := ascii "\x7b\"success\":false\x7d"
    let stream : Stream := ⟨none, refusal ++ 0 :: [], "EOF"⟩
    stream.writeError = none ∧ stream.bytes = refusal ++ 0 :: [] ∧ 0 ∉ refusal ∧
      scan (fun _ => none) stream = .done .success refusal none := by
  refine ⟨rfl, rfl, by decide, ?_⟩
  rw [@scan_nul_terminated (fun _ => none)
    ⟨none, ascii "\x7b\"success\":false\x7d" ++ 0 :: [], "EOF"⟩
    (ascii "\x7b\"success\":false\x7d") [] rfl rfl (by decide)]
  decide

end Fasst.Rethinkdb
