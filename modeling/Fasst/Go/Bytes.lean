import Mathlib.Data.List.Basic

/-!
# Fasst.Go.Bytes — Go literals as bytes, and `encoding/binary`'s `uint16`s

The scanners build their requests from Go string literals, a `string` being its bytes, and write
and read two-byte fields with `encoding/binary`: big-endian (`BigEndian.PutUint16`, and the
readers' `hi*256 + lo`) for MQTT, RADIUS, TFTP, DNS-over-QUIC and X11, little-endian for
Terraria and X11.

* `be16_putUint16_iff`: a big-endian prefix reads back as the length it was written for exactly
  when that length fits in 16 bits;
* `putUint16LE_uint16LE`, `uint16LE_putUint16LE`: the little-endian pair reads back both ways.
-/

namespace Fasst.Go

def ascii (s : String) : List UInt8 := s.toList.map fun c => c.toNat.toUInt8

theorem ascii_append (s t : String) : ascii (s ++ t) = ascii s ++ ascii t := by
  simp only [ascii, String.toList, String.data_append, List.map_append]

@[simp] theorem toNat_toUInt8 (n : Nat) : n.toUInt8.toNat = n % 256 := rfl

theorem UInt8.toNat_inj_iff {a c : UInt8} : a.toNat = c.toNat ↔ a = c :=
  ⟨UInt8.toNat.inj, congrArg _⟩

/-! ## Big-endian -/

/-- `binary.BigEndian.PutUint16(b, uint16(n))` into a two-byte `b`. -/
def putUint16 (n : Nat) : List UInt8 :=
  let v := UInt16.ofNat n
  [(v >>> 8).toUInt8, v.toUInt8]

/-- A two-byte big-endian field as the readers take it, zero unless it has two bytes. -/
def be16 : List UInt8 → Nat
  | [hi, lo] => hi.toNat * 256 + lo.toNat
  | _ => 0

theorem putUint16_length (n : Nat) : (putUint16 n).length = 2 := rfl

theorem be16_putUint16 (n : Nat) : be16 (putUint16 n) = n % 65536 := by
  have hs : ((UInt16.ofNat n) >>> 8).toNat = n % 65536 / 256 := by
    show ((BitVec.ofNat 16 n) >>> (8 : Nat)).toNat = _
    rw [BitVec.toNat_ushiftRight, Nat.shiftRight_eq_div_pow]
    rfl
  simp only [putUint16, be16, UInt16.toUInt8, toNat_toUInt8, hs]
  show n % 65536 / 256 % 256 * 256 + n % 65536 % 256 = n % 65536
  omega

theorem be16_putUint16_iff (n : Nat) : be16 (putUint16 n) = n ↔ n < 65536 := by
  rw [be16_putUint16]; omega

/-! ## Little-endian -/

/-- `binary.LittleEndian.PutUint16(b, v)` into a two-byte `b`, for `v < 65536`. -/
def putUint16LE (v : Nat) : List UInt8 := [v.toUInt8, (v / 256).toUInt8]

def uint16LE (b : List UInt8) : Nat := (b.getD 0 0).toNat + (b.getD 1 0).toNat * 256

@[simp] theorem uint16LE_cons (a b : UInt8) (rest : List UInt8) :
    uint16LE (a :: b :: rest) = a.toNat + b.toNat * 256 := rfl

theorem putUint16LE_uint16LE (a b : UInt8) : putUint16LE (a.toNat + b.toNat * 256) = [a, b] := by
  have ha : a.toNat < 256 := a.toNat_lt_size
  have hb : b.toNat < 256 := b.toNat_lt_size
  simp only [putUint16LE, List.cons.injEq, and_true]
  constructor <;> apply UInt8.toNat.inj <;> simp only [toNat_toUInt8] <;> omega

theorem uint16LE_putUint16LE (v : Nat) (rest : List UInt8) :
    uint16LE (putUint16LE v ++ rest) = v % 65536 := by
  simp only [putUint16LE, List.cons_append, List.nil_append, uint16LE_cons, toNat_toUInt8]
  omega

end Fasst.Go
