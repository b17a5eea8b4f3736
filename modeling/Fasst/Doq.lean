import Fasst.Go.Bytes
import Fasst.Go.Net

/-!
# Fasst.Doq — `SendAndReceive` of the DNS-over-QUIC scanner (`doq` package, lines 258–327)

After the QUIC connection and the stream are open, `SendAndReceive` writes the packed query with a
two-byte big-endian length in front (`uint16(len(dnsData))`), reads the answer's two-byte length
with `io.ReadFull`, then that many bytes, and unpacks them.  The QUIC stream is the environment: it
answers each of the two writes with success or an error, and delivers the bytes the server sends
until the stream ends, cleanly (`io.EOF`) or with an error.  Packing the query and unpacking the
answer are `miekg/dns`'s, taken as the packed bytes and as a function.

* `sendAndReceive_framed`: the query and the answer use the same framing, and it reads back: the
  server finds the query in what was written, and every answer of fewer than `65536` bytes is
  read back exactly, whatever follows it;
* `sendAndReceive_eof_iff`: the scanner's own `unexpected EOF while reading DNS response` is
  returned exactly when the stream ended cleanly right after a length prefix announcing a
  nonempty answer; the `err == io.EOF` test never sees an answer cut off after some of its bytes,
  which is returned as `failed to read DNS response: unexpected EOF`.

The stream's end is a text, with `"EOF"` standing for `io.EOF` itself.
-/

namespace Fasst.Doq

open Fasst.Go (putUint16 be16 be16_putUint16_iff putUint16_length readFull readFull_eq_ok readFull_eq_eof
  readFull_append)

/-- What the stream does: the error each of the two `Write`s returns for its bytes, the bytes the
server sends for what it was sent, and how the stream ends. -/
structure Stream where
  prefixWrite : List UInt8 → Option String
  queryWrite : List UInt8 → Option String
  response : List UInt8 → List UInt8
  final : String

/-- The reading half of `SendAndReceive`: the two-byte length prefix, then that many bytes. -/
def readResponse (bytes : List UInt8) (final : String) : Except String (List UInt8) :=
  match readFull 2 bytes final with
  | .error e => .error ("failed to read DNS response length prefix: " ++ e)
  | .ok (responsePrefix, rest) =>
    match readFull (be16 responsePrefix) rest final with
    | .error e =>
      if e = "EOF" then .error "unexpected EOF while reading DNS response"
      else .error ("failed to read DNS response: " ++ e)
    | .ok (responseData, _) => .ok responseData

/-- `SendAndReceive` from the packed query on: the answer unpacked, or the error. -/
def sendAndReceive {Msg : Type} (unpack : List UInt8 → Except String Msg) (dnsData : List UInt8)
    (stream : Stream) : Except String Msg :=
  let lengthPrefix := putUint16 dnsData.length
  match stream.prefixWrite lengthPrefix with
  | some e => .error ("failed to write DNS query length prefix: " ++ e)
  | none =>
    match stream.queryWrite dnsData with
    | some e => .error ("failed to write DNS query: " ++ e)
    | none =>
      match readResponse (stream.response (lengthPrefix ++ dnsData)) stream.final with
      | .error e => .error e
      | .ok responseData =>
        match unpack responseData with
        | .error e => .error ("failed to unpack DNS response: " ++ e)
        | .ok m => .ok m

def written (dnsData : List UInt8) : List UInt8 := putUint16 dnsData.length ++ dnsData

theorem readFull_putUint16 (m rest : List UInt8) (final : String) :
    readFull 2 (putUint16 m.length ++ m ++ rest) final = .ok (putUint16 m.length, m ++ rest) := by
  rw [List.append_assoc, ← putUint16_length m.length]; exact readFull_append _ _ final

theorem read_framed {m : List UInt8} (hm : m.length < 65536) (rest : List UInt8) (final : String) :
    (readFull 2 (putUint16 m.length ++ m ++ rest) final).bind
        (fun (p, r) => readFull (be16 p) r final) = .ok (m, rest) := by
  rw [readFull_putUint16]
  simp only [Except.bind, (be16_putUint16_iff _).mpr hm, readFull_append]

theorem readResponse_framed {m : List UInt8} (hm : m.length < 65536) (rest : List UInt8)
    (final : String) : readResponse (putUint16 m.length ++ m ++ rest) final = .ok m := by
  simp only [readResponse, readFull_putUint16, (be16_putUint16_iff _).mpr hm, readFull_append]

/-- **One framing, both ways.** For every packed query and every answer of fewer than `65536`
bytes: a server that reads what `SendAndReceive` writes with the same framing finds the query, and
when both writes succeed and the server sends the framed answer, followed by anything and ended in
any way, `SendAndReceive` returns the unpacked answer. -/
theorem sendAndReceive_framed {Msg : Type} (unpack : List UInt8 → Except String Msg)
    {dnsData m rest : List UInt8} {stream : Stream} (hq : dnsData.length < 65536)
    (hm : m.length < 65536) (hp : stream.prefixWrite (putUint16 dnsData.length) = none)
    (hw : stream.queryWrite dnsData = none)
    (hr : stream.response (written dnsData) = putUint16 m.length ++ m ++ rest) :
    (readFull 2 (written dnsData) stream.final).bind
        (fun (p, r) => readFull (be16 p) r stream.final) = .ok (dnsData, []) ∧
      sendAndReceive unpack dnsData stream =
        match unpack m with
        | .error e => .error ("failed to unpack DNS response: " ++ e)
        | .ok msg => .ok msg := by
  refine ⟨by simpa [written] using read_framed hq [] stream.final, ?_⟩
  rw [written] at hr
  simp only [sendAndReceive, hp, hw, hr, readResponse_framed hm]

theorem sendAndReceive_framed_echo :
    let echo : Stream := ⟨fun _ => none, fun _ => none, id, "EOF"⟩
    ([1, 2, 3] : List UInt8).length < 65536 ∧ echo.prefixWrite (putUint16 3) = none ∧
      echo.queryWrite [1, 2, 3] = none ∧
      echo.response (written [1, 2, 3]) = putUint16 3 ++ [1, 2, 3] ++ [] ∧
      (readFull 2 (written [1, 2, 3]) echo.final).bind
          (fun (p, r) => readFull (be16 p) r echo.final) = .ok ([1, 2, 3], []) ∧
      sendAndReceive (.ok : List UInt8 → Except String (List UInt8)) [1, 2, 3] echo =
        .ok [1, 2, 3] :=
  ⟨by decide, rfl, rfl, by decide,
    @sendAndReceive_framed (List UInt8) .ok [1, 2, 3] [1, 2, 3] [] ⟨fun _ => none, fun _ => none,
      id, "EOF"⟩ (by decide) (by decide) rfl rfl (by decide)⟩

theorem append_ne_of_head_ne {a b : String} (e : String) (ha : a.data ≠ [])
    (h : a.data.head? ≠ b.data.head?) : a ++ e ≠ b := by
  rintro rfl
  exact h (by rw [String.data_append, List.head?_append, List.head?_eq_head ha]; rfl)

theorem error_append_ne {α : Type} {a b : String} (e : String) (ha : a.data ≠ [])
    (h : a.data.head? ≠ b.data.head?) : (.error (a ++ e) : Except String α) ≠ .error b :=
  fun h' => append_ne_of_head_ne e ha h (Except.error.inj h')

/-- The scanner's own `unexpected EOF` comes from one case of the reading half: a whole length
prefix announcing a nonempty answer, then a clean end of the stream. -/
theorem readResponse_eq_eof {bytes : List UInt8} {final : String} :
    readResponse bytes final = .error "unexpected EOF while reading DNS response" ↔
      bytes.length = 2 ∧ 0 < be16 bytes ∧ final = "EOF" := by
  unfold readResponse
  split
  next e h =>
    refine iff_of_false (error_append_ne e (by decide) (by decide)) ?_
    rintro ⟨hl, -⟩
    exact absurd h (by simp [readFull, hl])
  next p rest h =>
    obtain ⟨h2, hp⟩ := readFull_eq_ok.mp h
    simp only [Prod.mk.injEq] at hp
    obtain ⟨rfl, rfl⟩ := hp
    have hl : bytes.length = 2 ↔ bytes.drop 2 = [] := by rw [List.drop_eq_nil_iff]; omega
    have ht : bytes.length = 2 → be16 (bytes.take 2) = be16 bytes :=
      fun h => by rw [List.take_of_length_le h.le]
    split
    next e h' =>
      split
      next he =>
        subst he
        obtain ⟨hlt, hd, hf⟩ := readFull_eq_eof.mp h'
        refine iff_of_true rfl ⟨hl.mpr hd, ?_, hf⟩
        rw [← ht (hl.mpr hd)]
        simpa [hd] using hlt
      next he =>
        refine iff_of_false (error_append_ne e (by decide) (by decide)) ?_
        rintro ⟨h2', hb, hf⟩
        have hd := hl.mp h2'
        have hlt : (bytes.drop 2).length < be16 (bytes.take 2) := by
          rw [hd, ht h2', List.length_nil]; exact hb
        exact he (Except.error.inj (h'.symm.trans (readFull_eq_eof.mpr ⟨hlt, hd, hf⟩)))
    next d h' =>
      refine iff_of_false (by simp) ?_
      rintro ⟨h2', hb, -⟩
      have := (readFull_eq_ok.mp h').1
      rw [ht h2', hl.mp h2'] at this
      simp at this; omega

theorem readResponse_partial {p body : List UInt8} (final : String) (hp : p.length = 2)
    (hb : body ≠ []) (hl : body.length < be16 p) :
    readResponse (p ++ body) final = .error ("failed to read DNS response: " ++
      if final = "EOF" then "unexpected EOF" else final) := by
  have h₂ : readFull (be16 p) body final =
      .error (if final = "EOF" then "unexpected EOF" else final) := by
    unfold readFull; split_ifs <;> simp_all; omega
  simp only [readResponse, ← hp, readFull_append, h₂]
  split_ifs with hf he <;> simp_all

/-- **When `SendAndReceive` says the stream ended early.** For every query, answer decoder and
stream, `SendAndReceive` fails with its own `unexpected EOF while reading DNS response` exactly
when both writes succeeded and the server sent a whole length prefix announcing a nonempty
answer and then ended the stream cleanly.  An answer cut off after some of its bytes fails with
`failed to read DNS response: ` and `unexpected EOF` when the stream ended cleanly, or the
stream's own error otherwise. -/
theorem sendAndReceive_eof_iff {Msg : Type} (unpack : List UInt8 → Except String Msg)
    (dnsData : List UInt8) (stream : Stream) :
    (sendAndReceive unpack dnsData stream = .error "unexpected EOF while reading DNS response" ↔
      stream.prefixWrite (putUint16 dnsData.length) = none ∧ stream.queryWrite dnsData = none ∧
        (stream.response (written dnsData)).length = 2 ∧
        0 < be16 (stream.response (written dnsData)) ∧ stream.final = "EOF") ∧
    ∀ p body, stream.prefixWrite (putUint16 dnsData.length) = none →
      stream.queryWrite dnsData = none → stream.response (written dnsData) = p ++ body →
      p.length = 2 → body ≠ [] → body.length < be16 p →
      sendAndReceive unpack dnsData stream = .error ("failed to read DNS response: " ++
        if stream.final = "EOF" then "unexpected EOF" else stream.final) := by
  refine ⟨?_, fun p body hp hw hr h2 hb hl => ?_⟩
  · rw [← readResponse_eq_eof, written]
    dsimp only [sendAndReceive]
    split
    next e hp => exact iff_of_false (error_append_ne e (by decide) (by decide)) (by simp [hp])
    next hp =>
      split
      next e hw => exact iff_of_false (error_append_ne e (by decide) (by decide)) (by simp [hw])
      next hw =>
        simp only [hp, hw, true_and]
        split
        next e h => simp only [h, Except.error.injEq]
        next d h =>
          refine iff_of_false ?_ (by simp [h])
          split
          next e _ => exact error_append_ne e (by decide) (by decide)
          next => simp
  · rw [written] at hr
    simp only [sendAndReceive, hp, hw, hr, readResponse_partial stream.final h2 hb hl]

theorem sendAndReceive_eof_partial :
    sendAndReceive (.ok : List UInt8 → Except String (List UInt8)) [1]
        ⟨fun _ => none, fun _ => none, fun _ => [0, 3, 7], "EOF"⟩ =
      .error "failed to read DNS response: unexpected EOF" :=
  ((sendAndReceive_eof_iff .ok [1] ⟨fun _ => none, fun _ => none, fun _ => [0, 3, 7], "EOF"⟩).2
    [0, 3] [7] rfl rfl rfl rfl (by decide) (by decide)).trans (by simp)

end Fasst.Doq
