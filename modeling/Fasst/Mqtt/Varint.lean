import Mathlib.Data.Nat.Bitwise
import Mathlib.Tactic.Ring
import Fasst.Go.Bytes

/-!
# Fasst.Mqtt.Varint — Remaining Length bytes (`readVariableByteInteger`, `binary.Uvarint`)

The MQTT module of the scanner (`src/modules/memcached/scanner.go`) reads a packet's Remaining
Length with `readVariableByteInteger`, which takes the length's bytes off the connection one by
one, and turns them into a number with Go's `binary.Uvarint`.  MQTT's Variable Byte Integer and
Go's varint both put seven bits in a byte, lowest first, with the high bit set on every byte but
the last; MQTT allows at most four bytes.

* `vbiDecode`, `vbiEncode`: the Variable Byte Integer as MQTT frames it, and
  `vbiDecode_vbiEncode`;
* `uvarint_of_vbiDecode`: `binary.Uvarint` of bytes that start with a Variable Byte Integer is
  its value and length;
* `readVariableByteInteger_eq_ok_iff`: `readVariableByteInteger` succeeds exactly on a Variable
  Byte Integer, and returns its bytes.
-/

namespace Fasst.Mqtt

open Fasst.Go (toNat_toUInt8 UInt8.toNat_inj_iff)

/-! ## Bytes

Go's tests on a `byte`, as conditions on its value. -/

section Bytes

variable (b : UInt8)

theorem and_0x80_eq_zero : b &&& 0x80 = 0 ↔ b.toNat < 128 := by
  have h : b.toNat < 256 := b.toNat_lt_size
  rw [← UInt8.toNat_inj_iff, UInt8.and_toNat, show (0x80 : UInt8).toNat = 2 ^ 7 from rfl,
    Nat.and_two_pow, Nat.testBit_to_div_mod]
  by_cases h' : b.toNat < 128
  · simp [h', Nat.div_eq_of_lt h']
  · have : b.toNat / 128 = 1 := by omega
    simp [this, h']

theorem and_0x7f_toNat : (b &&& 0x7f).toNat = b.toNat % 128 := by
  rw [UInt8.and_toNat, show (0x7f : UInt8).toNat = 2 ^ 7 - 1 from rfl,
    Nat.and_pow_two_sub_one_eq_mod]

theorem lt_0x80 : b < 0x80 ↔ b.toNat < 128 := by
  simp [UInt8.lt_def, BitVec.lt_def]; rfl

theorem or_shiftLeft_of_lt {x s : Nat} (c : Nat) (h : x < 2 ^ s) :
    x ||| c <<< s = x + 2 ^ s * c := by
  rw [Nat.shiftLeft_eq, Nat.or_comm, Nat.mul_comm, ← Nat.mul_add_lt_is_or h, Nat.add_comm]

end Bytes

/-! ## The Variable Byte Integer -/

/-- The Variable Byte Integer at the start of `bs`, as MQTT frames it: its value and how many
bytes it takes, at most four; `none` when the bytes end inside it or a fourth byte continues. -/
def vbiDecode (bs : List UInt8) : Option (Nat × Nat) := go 4 bs
where
  -- at most `m` bytes more
  go : Nat → List UInt8 → Option (Nat × Nat)
  | 0, _ => none
  | _ + 1, [] => none
  | m + 1, b :: rest =>
    if b.toNat < 128 then some (b.toNat, 1)
    else (go m rest).map fun (v, k) => (b.toNat - 128 + 128 * v, k + 1)

/-- MQTT's encoding of a Remaining Length below `2 ^ 28`, in at most `m` bytes. -/
def vbiEncode.go : Nat → Nat → List UInt8
  | 0, _ => []
  | m + 1, x => if x < 128 then [x.toUInt8] else (x % 128 + 128).toUInt8 :: go m (x / 128)

def vbiEncode (x : Nat) : List UInt8 := vbiEncode.go 4 x

theorem vbiEncode.go_succ (m x : Nat) : go (m + 1) x =
    if x < 128 then [x.toUInt8] else (x % 128 + 128).toUInt8 :: go m (x / 128) := rfl

section Vbi

variable {m : Nat} {bs : List UInt8} {v n : Nat}

theorem vbiDecode.go_cons (b : UInt8) (rest : List UInt8) :
    go (m + 1) (b :: rest) = if b.toNat < 128 then some (b.toNat, 1)
      else (go m rest).map fun (v, k) => (b.toNat - 128 + 128 * v, k + 1) := rfl

theorem vbiDecode.go_spec (h : go m bs = some (v, n)) :
    0 < n ∧ n ≤ m ∧ n ≤ bs.length ∧ (bs.getD (n - 1) 0).toNat < 128 := by
  induction m generalizing bs v n with
  | zero => cases h
  | succ m ih =>
    obtain _ | ⟨b, rest⟩ := bs
    · cases h
    rw [go_cons] at h
    split at h
    · cases h; simpa
    · obtain ⟨⟨v', k⟩, hk, he⟩ := Option.map_eq_some'.1 h
      cases he
      obtain ⟨h₀, h₁, h₂, h₃⟩ := ih hk
      refine ⟨by omega, by omega, by simp; omega, ?_⟩
      obtain ⟨k, rfl⟩ : ∃ k', k = k' + 1 := ⟨k - 1, by omega⟩
      simpa using h₃

theorem vbiDecode_vbiEncode_go {x : Nat} (hx : x < 128 ^ (m + 1)) (rest : List UInt8) :
    vbiDecode.go (m + 1) (vbiEncode.go (m + 1) x ++ rest) =
      some (x, (vbiEncode.go (m + 1) x).length) := by
  induction m generalizing x with
  | zero => simp at hx; simp [vbiEncode.go, hx, vbiDecode.go_cons, Nat.mod_eq_of_lt (by omega : x < 256)]
  | succ m ih =>
    by_cases h : x < 128
    · simp [vbiEncode.go, h, vbiDecode.go_cons, Nat.mod_eq_of_lt (by omega : x < 256)]
    · have hq : x / 128 < 128 ^ (m + 1) := by rw [pow_succ] at hx; omega
      have hb : (x % 128 + 128) % 256 = x % 128 + 128 := by omega
      rw [vbiEncode.go_succ, if_neg h]
      simp only [List.cons_append, vbiDecode.go_cons, toNat_toUInt8, hb, ih hq, List.length_cons,
        show ¬ x % 128 + 128 < 128 by omega, if_false, Option.map_some']
      congr 2
      omega

/-- Decoding what MQTT's encoder wrote gives the length back. -/
theorem vbiDecode_vbiEncode {x : Nat} (hx : x < 2 ^ 28) (rest : List UInt8) :
    vbiDecode (vbiEncode x ++ rest) = some (x, (vbiEncode x).length) :=
  vbiDecode_vbiEncode_go (by simpa using hx) rest

theorem vbiEncode_length_of_lt {x : Nat} (hx : x < 128) : vbiEncode x = [x.toUInt8] := by
  simp [vbiEncode, vbiEncode.go, hx]

end Vbi

/-! ## Go's `binary.Uvarint` -/

def maxVarintLen64 : Nat := 10

/-- Go's `binary.Uvarint(buf)` (`encoding/binary/varint.go`): the value and the number of bytes
read, `(0, 0)` when `buf` ends inside the number and `(0, -(i + 1))` on overflow.  The
accumulator is a `Nat`: every value the function returns is below `2 ^ 64`, and the one shift
that drops bits (`<< 63` of a continuing tenth byte) leads to the overflow return. -/
def uvarint (buf : List UInt8) : Nat × Int := go buf 0 0 0
where
  -- `for i, b := range buf` with `x` and `s` so far
  go : List UInt8 → Nat → Nat → Nat → Nat × Int
  | [], _, _, _ => (0, 0)
  | b :: rest, i, x, s =>
    if i = maxVarintLen64 then (0, -(i + 1 : Int))
    else if b < 0x80 then
      if i = maxVarintLen64 - 1 ∧ b > 1 then (0, -(i + 1 : Int))
      else (x ||| b.toNat <<< s, i + 1)
    else go rest (i + 1) (x ||| (b &&& 0x7f).toNat <<< s) (s + 7)

theorem uvarint.go_of_vbi {m i x : Nat} {bs : List UInt8} {v n n' : Nat}
    (h : vbiDecode.go m bs = some (v, n)) (hm : i + m ≤ 4) (hx : x < 2 ^ (7 * i)) (hn : n ≤ n') :
    go (bs.take n') i x (7 * i) = (x + 2 ^ (7 * i) * v, ((i + n : Nat) : Int)) := by
  induction m generalizing bs i x v n n' with
  | zero => cases h
  | succ m ih =>
    obtain _ | ⟨b, rest⟩ := bs
    · cases h
    have hi : i ≠ maxVarintLen64 := by unfold maxVarintLen64; omega
    have hi' : ¬ (i = maxVarintLen64 - 1 ∧ b > 1) := by unfold maxVarintLen64; omega
    rw [vbiDecode.go_cons] at h
    split at h
    · rename_i hb
      cases h
      obtain ⟨n', rfl⟩ : ∃ n'', n' = n'' + 1 := ⟨n' - 1, by omega⟩
      simp [go, hi, hi', (lt_0x80 b).2 hb, or_shiftLeft_of_lt _ hx]
    · rename_i hb
      obtain ⟨⟨v', k⟩, hk, he⟩ := Option.map_eq_some'.1 h
      cases he
      obtain ⟨n', rfl⟩ : ∃ n'', n' = n'' + 1 := ⟨n' - 1, by omega⟩
      have hP : 2 ^ (7 * i + 7) = 2 ^ (7 * i) * 128 := pow_add _ _ _
      have hb' : b.toNat % 128 = b.toNat - 128 := by
        have : b.toNat < 256 := b.toNat_lt_size
        omega
      have hx' : x + 2 ^ (7 * i) * (b.toNat % 128) < 2 ^ (7 * (i + 1)) := by
        have := Nat.mul_le_mul_left (2 ^ (7 * i)) (show b.toNat % 128 ≤ 127 by omega)
        rw [Nat.mul_succ, hP]
        omega
      have ih' := ih hk (by omega) hx' (by omega : k ≤ n')
      rw [Nat.mul_succ] at ih'
      simp only [List.take_succ_cons, go, hi, if_false, (lt_0x80 b).not.2 hb, and_0x7f_toNat,
        or_shiftLeft_of_lt _ hx, ih']
      refine Prod.ext ?_ (by simp only [Nat.cast_inj]; omega)
      show x + 2 ^ (7 * i) * (b.toNat % 128) + 2 ^ (7 * i + 7) * v' =
        x + 2 ^ (7 * i) * (b.toNat - 128 + 128 * v')
      rw [hb', hP]
      ring

/-- `binary.Uvarint` of bytes that start with a Variable Byte Integer is its value and length,
whatever follows it. -/
theorem uvarint_take_of_vbiDecode {bs : List UInt8} {v n n' : Nat}
    (h : vbiDecode bs = some (v, n)) (hn : n ≤ n') : uvarint (bs.take n') = (v, (n : Int)) := by
  simpa using uvarint.go_of_vbi (i := 0) (x := 0) h le_rfl (by norm_num) hn

theorem uvarint_of_vbiDecode {bs : List UInt8} {v n : Nat} (h : vbiDecode bs = some (v, n)) :
    uvarint bs = (v, (n : Int)) := by
  simpa using uvarint_take_of_vbiDecode h (vbiDecode.go_spec h).2.2.1

/-! ## `readVariableByteInteger` -/

/-- `readVariableByteInteger(r)` on a connection that delivers the bytes `r` and then `io.EOF`:
the bytes of the integer and what is left to read, or the error.  `r.Read(b)` into a one-byte
buffer gives the next byte. -/
def readVariableByteInteger (r : List UInt8) : Except String (List UInt8 × List UInt8) := do
  let (result, r) ← loop 4 [] r
  if result.length = 4 ∧ result.getD 3 0 &&& 0x80 ≠ 0 then
    throw "invalid variable byte integer"
  return (result, r)
where
  -- `for i := 0; i < 4; i++`, with `n` turns left and `result` read so far
  loop : Nat → List UInt8 → List UInt8 → Except String (List UInt8 × List UInt8)
  | 0, result, r => .ok (result, r)
  | _ + 1, _, [] => .error "EOF"
  | n + 1, result, b :: r =>
    if b &&& 0x80 = 0 then .ok (result ++ [b], r) else loop n (result ++ [b]) r

section Read

variable {m : Nat} {acc r res rest : List UInt8}

theorem readVariableByteInteger.loop_eq_ok (h : loop m acc r = .ok (res, rest)) :
    res = acc ++ r.take (res.length - acc.length) ∧ rest = r.drop (res.length - acc.length) ∧
      acc.length ≤ res.length ∧
      ((∃ v, vbiDecode.go m r = some (v, res.length - acc.length)) ∨
        (res.length = acc.length + m ∧ ∀ b ∈ r.take m, 128 ≤ b.toNat)) := by
  induction m generalizing acc r with
  | zero => cases h; simp
  | succ m ih =>
    obtain _ | ⟨b, r⟩ := r
    · cases h
    simp only [loop] at h
    split at h
    · rename_i hb
      cases h
      have hb' := (and_0x80_eq_zero b).1 hb
      simp [vbiDecode.go_cons, hb']
    · rename_i hb
      have hb' : ¬ b.toNat < 128 := fun e => hb ((and_0x80_eq_zero b).2 e)
      obtain ⟨h₁, h₂, h₃, h₄⟩ := ih h
      simp only [List.length_append, List.length_singleton] at h₁ h₂ h₃ h₄
      have he : res.length - acc.length = res.length - (acc.length + 1) + 1 := by omega
      refine ⟨?_, ?_, by omega, ?_⟩
      · rw [he, List.take_succ_cons]; simpa using h₁
      · rw [he, List.drop_succ_cons, h₂]
      · rcases h₄ with ⟨v, hv⟩ | ⟨hl, hall⟩
        · left
          exact ⟨_, by rw [vbiDecode.go_cons, if_neg hb', hv, he]; rfl⟩
        · right
          exact ⟨by omega, by simpa [not_lt.1 hb'] using hall⟩

theorem readVariableByteInteger.loop_of_vbi {v n : Nat} (h : vbiDecode.go m r = some (v, n)) :
    loop m acc r = .ok (acc ++ r.take n, r.drop n) := by
  induction m generalizing acc r v n with
  | zero => cases h
  | succ m ih =>
    obtain _ | ⟨b, r⟩ := r
    · cases h
    rw [vbiDecode.go_cons] at h
    simp only [loop]
    split at h
    · rename_i hb
      cases h
      simp [(and_0x80_eq_zero b).2 hb]
    · rename_i hb
      obtain ⟨⟨v', k⟩, hk, he⟩ := Option.map_eq_some'.1 h
      cases he
      rw [if_neg (fun e => hb ((and_0x80_eq_zero b).1 e)), ih hk]
      simp

/-- `readVariableByteInteger` succeeds exactly on a Variable Byte Integer, and returns its
bytes and what follows them. -/
theorem readVariableByteInteger_eq_ok_iff :
    readVariableByteInteger r = .ok (res, rest) ↔
      ∃ v, vbiDecode r = some (v, res.length) ∧ res = r.take res.length ∧
        rest = r.drop res.length := by
  constructor
  · intro h
    simp only [readVariableByteInteger, bind, Except.bind] at h
    split at h
    · cases h
    rename_i p hl
    obtain ⟨res', rest'⟩ := p
    simp only [pure, Except.pure] at h
    split at h
    · cases h
    rename_i hc
    cases h
    obtain ⟨h₁, h₂, -, h₄⟩ := readVariableByteInteger.loop_eq_ok hl
    simp only [List.nil_append, List.length_nil, Nat.sub_zero] at h₁ h₂ h₄
    rcases h₄ with ⟨v, hv⟩ | ⟨hlen, hall⟩
    · exact ⟨v, hv, h₁, h₂⟩
    · have h3 : res.getD 3 0 ∈ res := by
        rw [List.getD_eq_getElem _ _ (by omega)]; exact List.getElem_mem _
      have hr : List.take (0 + 4) r = res := by rw [← hlen, ← h₁]
      refine absurd ⟨hlen, fun e => ?_⟩ hc
      have := (and_0x80_eq_zero _).1 e
      have := hall _ (by rw [hr]; exact h3)
      omega
  · rintro ⟨v, hv, h₁, h₂⟩
    have hs := vbiDecode.go_spec hv
    have hl : readVariableByteInteger.loop 4 [] r = _ := readVariableByteInteger.loop_of_vbi hv
    have hlast : res.getD 3 0 &&& 0x80 ≠ 0 → res.length ≠ 4 := fun hc hn => by
      refine hc ((and_0x80_eq_zero _).2 ?_)
      rw [h₁, List.getD_eq_getElem?_getD, List.getElem?_take_of_lt (by omega)]
      simpa [List.getD_eq_getElem?_getD, hn] using hs.2.2.2
    simp only [readVariableByteInteger, bind, Except.bind, hl, List.nil_append, pure,
      Except.pure, ← h₁, ← h₂]
    rw [if_neg (fun ⟨hn, hc⟩ => hlast hc hn)]

end Read

end Fasst.Mqtt
