import Mathlib.Data.List.GetD

/-!
# Fasst.Go.Net — reading a connection: one `conn.Read`, and `io.ReadFull`

Several scanners write one request and read the server's answer with a single `conn.Read(buf)`
into a buffer made by `make([]byte, size)`, and then look at the whole buffer rather than at the
`n` bytes read.  On a TCP connection a `Read` returns at most what has arrived, the first segment
of the answer, so the buffer holds the first `min size n` bytes of that segment and zeros after
them.  Others read with `io.ReadFull`, which reads across segments until the buffer is full or
the stream ends.

* `readInto_getD`: inside the buffer, every byte the code reads is the segment's byte at that
  position, or zero past the segment's end;
* `readInto_eq_take_iff`: the buffer holds the answer's first bytes exactly when every byte the
  first segment misses among them is zero;
* `readFull_eq_ok`, `readFull_eq_eof`: `io.ReadFull` fills the buffer when enough bytes come, and
  returns `io.EOF` only when none came before a clean end.
-/

namespace Fasst.Go

/-- The connection `t.Open` gives a scanner: the error `Write` returns for its bytes, and what the
first `Read` delivers (at most the first segment of the answer) or its error. -/
structure Conn where
  writeError : List UInt8 → Option String
  read : Except String (List UInt8)

/-- The buffer `make([]byte, size)` after a `Read` that delivered `segment`. -/
def readInto (size : Nat) (segment : List UInt8) : List UInt8 :=
  segment.take size ++ List.replicate (size - segment.length) 0

section ReadInto

variable {size : Nat} {segment answer : List UInt8}

@[simp] theorem length_readInto : (readInto size segment).length = size := by
  simp only [readInto, List.length_append, List.length_take, List.length_replicate]; omega

theorem readInto_getD {i : Nat} (h : i < size) :
    (readInto size segment).getD i 0 = segment.getD i 0 := by
  simp only [readInto, List.getD_eq_getElem?_getD]
  by_cases hi : i < segment.length
  · rw [List.getElem?_append_left (show i < (segment.take size).length by simp; omega),
      List.getElem?_take_of_lt h]
  · rw [List.getElem?_append_right (show (segment.take size).length ≤ i by simp; omega),
      List.getElem?_eq_none (show segment.length ≤ i by omega), List.getElem?_replicate]
    split <;> rfl

theorem getD_segment (hs : segment <+: answer) (i : Nat) :
    segment.getD i 0 = if i < segment.length then answer.getD i 0 else 0 := by
  obtain ⟨rest, rfl⟩ := hs
  split
  · simp only [List.getD_eq_getElem?_getD, List.getElem?_append_left ‹_›]
  · simp only [List.getD_eq_getElem?_getD, List.getElem?_eq_none (Nat.le_of_not_lt ‹_›),
      Option.getD_none]

/-- **One `Read` sees the answer when the bytes it misses are zero.** For a first segment of an
answer of at least `size` bytes, the buffer is the answer's first `size` bytes exactly when the
answer's bytes from the segment's end up to `size` are all zero. -/
theorem readInto_eq_take_iff (hs : segment <+: answer) (hn : size ≤ answer.length) :
    readInto size segment = answer.take size ↔
      ∀ j, segment.length ≤ j → j < size → answer.getD j 0 = 0 := by
  have hget : ∀ j, j < size → (readInto size segment).getD j 0 =
      if j < segment.length then (answer.take size).getD j 0 else 0 := fun j hj => by
    rw [readInto_getD hj, getD_segment hs, List.getD_eq_getElem?_getD,
      List.getD_eq_getElem?_getD, List.getElem?_take_of_lt hj]
  constructor
  · intro h j hl hj
    have := hget j hj
    rw [h, if_neg (by omega), List.getD_eq_getElem?_getD, List.getElem?_take_of_lt hj] at this
    rwa [List.getD_eq_getElem?_getD]
  · intro h
    refine List.ext_getElem (by simp; omega) fun j h₁ h₂ => ?_
    have hj : j < size := by simpa using h₁
    have := hget j hj
    rw [List.getD_eq_getElem _ _ h₁, List.getD_eq_getElem _ _ h₂] at this
    rw [this]
    split
    · rfl
    · rw [← List.getD_eq_getElem _ 0 h₂, List.getD_eq_getElem?_getD, List.getElem?_take_of_lt hj,
        ← List.getD_eq_getElem?_getD, h j (by omega) hj]

end ReadInto

/-! ## `io.ReadFull` -/

/-- `io.ReadFull(r, buf)` with `len(buf) = n`, on a reader that delivers `bytes` and then ends
with `final` (`"EOF"` when cleanly): the bytes read and what is left, or `io.EOF` when nothing was
read, `io.ErrUnexpectedEOF` when something was and the stream ended cleanly, and the stream's own
error otherwise. -/
def readFull (n : Nat) (bytes : List UInt8) (final : String) :
    Except String (List UInt8 × List UInt8) :=
  if n ≤ bytes.length then .ok (bytes.take n, bytes.drop n)
  else if bytes ≠ [] ∧ final = "EOF" then .error "unexpected EOF" else .error final

section ReadFull

variable {n : Nat} {bytes : List UInt8} {final : String}

theorem readFull_eq_ok {r : List UInt8 × List UInt8} :
    readFull n bytes final = .ok r ↔ n ≤ bytes.length ∧ r = (bytes.take n, bytes.drop n) := by
  unfold readFull
  split_ifs <;> simp [*, eq_comm]

theorem readFull_eq_eof : readFull n bytes final = .error "EOF" ↔
    bytes.length < n ∧ bytes = [] ∧ final = "EOF" := by
  unfold readFull
  split_ifs with hn he
  · simp; omega
  · simp only [Except.error.injEq, show "unexpected EOF" ≠ "EOF" by decide, false_iff]
    exact fun h => he.1 h.2.1
  · simp only [Except.error.injEq, Nat.lt_of_not_le hn, true_and]
    constructor
    · rintro rfl; exact ⟨by simpa using he, rfl⟩
    · exact fun h => h.2

theorem readFull_append (l rest : List UInt8) (final : String) :
    readFull l.length (l ++ rest) final = .ok (l, rest) := by
  simp [readFull]

theorem readFull_cons (b : UInt8) (rest : List UInt8) (final : String) :
    readFull 1 (b :: rest) final = .ok ([b], rest) :=
  readFull_append [b] rest final

end ReadFull

end Fasst.Go
