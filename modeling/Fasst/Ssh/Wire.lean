import Mathlib.Data.List.Basic
import Mathlib.Algebra.Order.Ring.Int

/-!
# Fasst.Ssh.Wire — the SSH wire helpers (`common.go`, lines 275–331)

`appendU16`, `appendU32`, `appendU64`, `appendInt`, `appendString` and `appendBool` write the data
types of the SSH architecture (RFC 4251 §5) at the end of a buffer, and `buildDataSignedForAuth`
lays out the data a client signs to prove that it holds a key (RFC 4252 §7).  A Go `string` or
`[]byte` is its list of bytes; `uint32(n)` keeps the low 32 bits of `n`.

The reader (`readField`, `readFields`) is RFC 4251's description of the data types, not code of
the repository: every sequence of fields written by the helpers reads back as those fields
(`readFields_encodeFields`), as long as every string is shorter than `2^32` bytes, whose length
`uint32(len(s))` would otherwise wrap.  So the data signed for authentication determines the
session, the request and the key (`buildDataSignedForAuth_injective`).
-/

namespace Fasst.Ssh

/-! ## The helpers -/

def appendU16 (buf : List UInt8) (n : UInt16) : List UInt8 :=
  buf ++ [(n >>> 8).toUInt8, n.toUInt8]

def appendU32 (buf : List UInt8) (n : UInt32) : List UInt8 :=
  buf ++ [(n >>> 24).toUInt8, (n >>> 16).toUInt8, (n >>> 8).toUInt8, n.toUInt8]

def appendU64 (buf : List UInt8) (n : UInt64) : List UInt8 :=
  buf ++ [(n >>> 56).toUInt8, (n >>> 48).toUInt8, (n >>> 40).toUInt8, (n >>> 32).toUInt8,
    (n >>> 24).toUInt8, (n >>> 16).toUInt8, (n >>> 8).toUInt8, n.toUInt8]

/-- `appendInt`: `appendU32(buf, uint32(n))`. -/
def appendInt (buf : List UInt8) (n : Int) : List UInt8 :=
  appendU32 buf (n % 2 ^ 32).toNat.toUInt32

/-- `appendString`: the length as `uint32(len(s))`, then the bytes. -/
def appendString (buf : List UInt8) (s : List UInt8) : List UInt8 :=
  appendU32 buf s.length.toUInt32 ++ s

def appendBool (buf : List UInt8) (b : Bool) : List UInt8 :=
  if b then buf ++ [1] else buf ++ [0]

/-! ## Fields -/

/-- A value written by one of the helpers, or a single byte as `Marshal` writes a `byte` field. -/
inductive Field
  | u16 (n : UInt16)
  | u32 (n : UInt32)
  | u64 (n : UInt64)
  | int (n : Int)
  | string (s : List UInt8)
  | bool (b : Bool)
  | byte (b : UInt8)
  deriving DecidableEq, Repr

inductive FieldKind
  | uint16
  | uint32
  | uint64
  | string
  | boolean
  | byte
  deriving DecidableEq, Repr

inductive Value
  | num (n : Nat)
  | str (s : List UInt8)
  | bool (b : Bool)
  deriving DecidableEq, Repr

namespace Field

def append (buf : List UInt8) : Field → List UInt8
  | u16 n => appendU16 buf n
  | u32 n => appendU32 buf n
  | u64 n => appendU64 buf n
  | int n => appendInt buf n
  | string s => appendString buf s
  | bool b => appendBool buf b
  | byte b => buf ++ [b]

def kind : Field → FieldKind
  | u16 _ => .uint16
  | u32 _ | int _ => .uint32
  | u64 _ => .uint64
  | string _ => .string
  | bool _ => .boolean
  | byte _ => .byte

/-- The value the field stands for on the wire: an `int` keeps its low 32 bits. -/
def value : Field → Value
  | u16 n => .num n.toNat
  | u32 n => .num n.toNat
  | u64 n => .num n.toNat
  | int n => .num (n % 2 ^ 32).toNat
  | string s => .str s
  | bool b => .bool b
  | byte b => .num b.toNat

def Fits : Field → Prop
  | string s => s.length < 2 ^ 32
  | _ => True

end Field

def encodeFields (fs : List Field) : List UInt8 := fs.foldl Field.append []

/-! ## Reading the data types back (RFC 4251 §5) -/

/-- The data type `k` at the front of `l`, and what follows it. -/
def readField : FieldKind → List UInt8 → Option (Value × List UInt8)
  | .uint16, a :: b :: rest => some (.num (a.toNat * 256 + b.toNat), rest)
  | .uint32, a :: b :: c :: d :: rest =>
    some (.num (((a.toNat * 256 + b.toNat) * 256 + c.toNat) * 256 + d.toNat), rest)
  | .uint64, a :: b :: c :: d :: e :: f :: g :: h :: rest =>
    some (.num (((((((a.toNat * 256 + b.toNat) * 256 + c.toNat) * 256 + d.toNat) * 256 +
      e.toNat) * 256 + f.toNat) * 256 + g.toNat) * 256 + h.toNat), rest)
  | .string, a :: b :: c :: d :: rest =>
    let n := ((a.toNat * 256 + b.toNat) * 256 + c.toNat) * 256 + d.toNat
    if n ≤ rest.length then some (.str (rest.take n), rest.drop n) else none
  | .boolean, b :: rest => some (.bool (b ≠ 0), rest)
  | .byte, b :: rest => some (.num b.toNat, rest)
  | _, _ => none

def readFields : List FieldKind → List UInt8 → Option (List Value × List UInt8)
  | [], l => some ([], l)
  | k :: ks, l =>
    match readField k l with
    | some (v, rest) => (readFields ks rest).map fun (vs, r) => (v :: vs, r)
    | none => none

/-! ## Round trips -/

section Bytes

theorem toUInt8_shiftRight16 (n : UInt16) (k : Nat) (hk : k < 16) :
    ((n >>> (OfNat.ofNat k : UInt16)).toUInt8).toNat = n.toNat / 2 ^ k % 256 := by
  have hs : ((OfNat.ofNat k : UInt16).mod 16).toBitVec.toNat = k := by
    show k % 65536 % (16 % 65536) = k
    rw [show (16 : ℕ) % 65536 = 16 from rfl]; omega
  show (n.toBitVec >>> ((OfNat.ofNat k : UInt16).mod 16).toBitVec).toNat % 256 = _
  rw [BitVec.ushiftRight_eq', BitVec.toNat_ushiftRight, Nat.shiftRight_eq_div_pow, hs]
  rfl

theorem toUInt8_shiftRight32 (n : UInt32) (k : Nat) (hk : k < 32) :
    ((n >>> (OfNat.ofNat k : UInt32)).toUInt8).toNat = n.toNat / 2 ^ k % 256 := by
  have hs : ((OfNat.ofNat k : UInt32).mod 32).toBitVec.toNat = k := by
    show k % 4294967296 % (32 % 4294967296) = k
    rw [show (32 : ℕ) % 4294967296 = 32 from rfl]; omega
  show (n.toBitVec >>> ((OfNat.ofNat k : UInt32).mod 32).toBitVec).toNat % 256 = _
  rw [BitVec.ushiftRight_eq', BitVec.toNat_ushiftRight, Nat.shiftRight_eq_div_pow, hs]
  rfl

theorem toUInt8_shiftRight64 (n : UInt64) (k : Nat) (hk : k < 64) :
    ((n >>> (OfNat.ofNat k : UInt64)).toUInt8).toNat = n.toNat / 2 ^ k % 256 := by
  have hs : ((OfNat.ofNat k : UInt64).mod 64).toBitVec.toNat = k := by
    show k % 18446744073709551616 % (64 % 18446744073709551616) = k
    rw [show (64 : ℕ) % 18446744073709551616 = 64 from rfl]; omega
  show (n.toBitVec >>> ((OfNat.ofNat k : UInt64).mod 64).toBitVec).toNat % 256 = _
  rw [BitVec.ushiftRight_eq', BitVec.toNat_ushiftRight, Nat.shiftRight_eq_div_pow, hs]
  rfl

end Bytes

section Helpers

variable (buf rest : List UInt8)

theorem Field.append_eq (f : Field) : f.append buf = buf ++ f.append [] := by
  cases f with
  | bool b => cases b <;> simp [Field.append, appendBool]
  | _ => simp [Field.append, appendU16, appendU32, appendU64, appendInt, appendString]

theorem foldl_append_eq (fs : List Field) : fs.foldl Field.append buf = buf ++ encodeFields fs := by
  induction fs generalizing buf with
  | nil => simp [encodeFields]
  | cons f fs ih =>
    simp only [List.foldl_cons, encodeFields]
    rw [ih, ih (f.append []), Field.append_eq buf f, List.append_assoc]

theorem encodeFields_cons (f : Field) (fs : List Field) :
    encodeFields (f :: fs) = f.append [] ++ encodeFields fs :=
  foldl_append_eq _ fs

theorem readField_appendU16 (n : UInt16) :
    readField .uint16 (appendU16 [] n ++ rest) = some (.num n.toNat, rest) := by
  have h : n.toNat < 2 ^ 16 := n.val.isLt
  simp only [appendU16, List.nil_append, List.cons_append, List.singleton_append, readField,
    toUInt8_shiftRight16 n 8 (by decide), show n.toUInt8.toNat = n.toNat % 256 from rfl,
    Option.some.injEq, Prod.mk.injEq, Value.num.injEq, and_true]
  omega

/-- The four bytes `appendU32` writes, most significant first, make up the number. -/
theorem appendU32_bytes (n : UInt32) :
    ∃ a b c d : UInt8, appendU32 [] n = [a, b, c, d] ∧
      ((a.toNat * 256 + b.toNat) * 256 + c.toNat) * 256 + d.toNat = n.toNat := by
  have h : n.toNat < 2 ^ 32 := n.val.isLt
  refine ⟨_, _, _, _, rfl, ?_⟩
  rw [toUInt8_shiftRight32 n 24 (by decide), toUInt8_shiftRight32 n 16 (by decide),
    toUInt8_shiftRight32 n 8 (by decide), show n.toUInt8.toNat = n.toNat % 256 from rfl]
  omega

theorem readField_appendU32 (n : UInt32) :
    readField .uint32 (appendU32 [] n ++ rest) = some (.num n.toNat, rest) := by
  obtain ⟨a, b, c, d, he, hv⟩ := appendU32_bytes n
  simp only [he, List.cons_append, List.nil_append, readField, hv]

/-- Eight bytes taken off a number below `2^64` by repeated division make it up again (stated
with divisions by 256, on which `omega` is fast). -/
theorem bytes64_value (x : Nat) (h : x < 2 ^ 64) :
    ((((((x / 256 / 256 / 256 / 256 / 256 / 256 / 256 % 256 * 256 +
      x / 256 / 256 / 256 / 256 / 256 / 256 % 256) * 256 + x / 256 / 256 / 256 / 256 / 256 % 256) *
      256 + x / 256 / 256 / 256 / 256 % 256) * 256 + x / 256 / 256 / 256 % 256) * 256 +
      x / 256 / 256 % 256) * 256 + x / 256 % 256) * 256 + x % 256 = x := by
  omega

theorem readField_appendU64 (n : UInt64) :
    readField .uint64 (appendU64 [] n ++ rest) = some (.num n.toNat, rest) := by
  simp only [appendU64, List.nil_append, List.cons_append, List.singleton_append, readField,
    toUInt8_shiftRight64 n 56 (by decide), toUInt8_shiftRight64 n 48 (by decide),
    toUInt8_shiftRight64 n 40 (by decide), toUInt8_shiftRight64 n 32 (by decide),
    toUInt8_shiftRight64 n 24 (by decide), toUInt8_shiftRight64 n 16 (by decide),
    toUInt8_shiftRight64 n 8 (by decide), show n.toUInt8.toNat = n.toNat % 256 from rfl,
    Option.some.injEq, Prod.mk.injEq, Value.num.injEq, and_true]
  simpa only [Nat.div_div_eq_div_mul, Nat.reduceMul, Nat.reducePow] using
    bytes64_value n.toNat n.val.isLt

theorem readField_appendString {s : List UInt8} (hs : s.length < 2 ^ 32) :
    readField .string (appendString [] s ++ rest) = some (.str s, rest) := by
  obtain ⟨a, b, c, d, he, hv⟩ := appendU32_bytes s.length.toUInt32
  have hl : s.length.toUInt32.toNat = s.length := Nat.mod_eq_of_lt hs
  simp only [appendString, he, List.cons_append, List.nil_append, List.append_assoc, readField,
    hv, hl, List.length_append, Nat.le_add_right, if_true, List.take_left', List.drop_left']

theorem readField_appendBool (b : Bool) :
    readField .boolean (appendBool [] b ++ rest) = some (.bool b, rest) := by
  cases b <;> rfl

theorem readField_append {f : Field} (hf : f.Fits) :
    readField f.kind (f.append [] ++ rest) = some (f.value, rest) := by
  cases f with
  | u16 n => exact readField_appendU16 rest n
  | u32 n => exact readField_appendU32 rest n
  | u64 n => exact readField_appendU64 rest n
  | int n =>
    have hn : (n % 2 ^ 32).toNat.toUInt32.toNat = (n % 2 ^ 32).toNat := by
      show (n % 2 ^ 32).toNat % 4294967296 = _
      omega
    have h := readField_appendU32 rest (n % 2 ^ 32).toNat.toUInt32
    rw [hn] at h
    exact h
  | string s => exact readField_appendString (s := s) rest hf
  | bool b => exact readField_appendBool rest b
  | byte b => rfl

/-- **The wire helpers round-trip.** Every sequence of fields written one after another by
`appendU16`, `appendU32`, `appendU64`, `appendInt`, `appendString`, `appendBool` (and single
bytes), with every string shorter than `2^32` bytes, reads back as RFC 4251 describes the data
types: each field's value in order (an `int` as its low 32 bits), then whatever follows. -/
theorem readFields_encodeFields {fs : List Field} (hf : ∀ f ∈ fs, f.Fits) :
    readFields (fs.map Field.kind) (encodeFields fs ++ rest) = some (fs.map Field.value, rest) := by
  induction fs generalizing rest with
  | nil => rfl
  | cons f fs ih =>
    rw [encodeFields_cons, List.append_assoc, List.map_cons, List.map_cons, readFields,
      readField_append _ (hf f (List.mem_cons_self f fs))]
    dsimp only
    rw [ih _ fun g hg => hf g (List.mem_cons_of_mem f hg)]
    rfl

theorem readFields_encodeFields_sample :
    (∀ f ∈ [Field.u16 0x0102, .int (-1), .string [0x61], .bool true, .u64 7], f.Fits) ∧
      readFields ([Field.u16 0x0102, .int (-1), .string [0x61], .bool true, .u64 7].map Field.kind)
          (encodeFields [Field.u16 0x0102, .int (-1), .string [0x61], .bool true, .u64 7] ++ [9]) =
        some ([Field.u16 0x0102, .int (-1), .string [0x61], .bool true, .u64 7].map Field.value,
          [9]) :=
  ⟨by simp [Field.Fits], readFields_encodeFields [9] (by simp [Field.Fits])⟩

end Helpers

/-! ## The data signed for authentication -/

def msgUserAuthRequest : UInt8 := 50

/-- Modelled from the spec: the fields of `userAuthRequestMsg` (`messages.go`, not in src/) that
`buildDataSignedForAuth` reads. -/
structure UserAuthRequestMsg where
  user : List UInt8
  service : List UInt8
  method : List UInt8
  deriving DecidableEq, Repr

/-- Modelled from the spec: `Marshal` (`messages.go`, not in src/) writes a struct's fields in
order, a `[]byte` or a `string` with `appendU32(uint32(len))` and its bytes, a `byte` as itself and
a `bool` with `appendBool`; these are the fields of the struct `buildDataSignedForAuth` marshals. -/
def signedDataFields (sessionId : List UInt8) (req : UserAuthRequestMsg) (algo pubKey : List UInt8) :
    List Field :=
  [.string sessionId, .byte msgUserAuthRequest, .string req.user, .string req.service,
    .string req.method, .bool true, .string algo, .string pubKey]

/-- `buildDataSignedForAuth`: `Marshal` of `Session`, `Type`, `User`, `Service`, `Method`,
`Sign`, `Algo` and `PubKey`. -/
def buildDataSignedForAuth (sessionId : List UInt8) (req : UserAuthRequestMsg)
    (algo pubKey : List UInt8) : List UInt8 :=
  encodeFields (signedDataFields sessionId req algo pubKey)

def signedDataKinds : List FieldKind :=
  [.string, .byte, .string, .string, .string, .boolean, .string, .string]

theorem readFields_buildDataSignedForAuth {sessionId algo pubKey : List UInt8}
    {req : UserAuthRequestMsg}
    (hl : ∀ x ∈ [sessionId, req.user, req.service, req.method, algo, pubKey], x.length < 2 ^ 32) :
    readFields signedDataKinds (buildDataSignedForAuth sessionId req algo pubKey) =
      some ([.str sessionId, .num 50, .str req.user, .str req.service, .str req.method, .bool true,
        .str algo, .str pubKey], []) := by
  have h := @readFields_encodeFields [] (signedDataFields sessionId req algo pubKey)
    (by simpa [signedDataFields, Field.Fits] using hl)
  rwa [List.append_nil] at h

/-- **The signed data determines the request.** Two calls of `buildDataSignedForAuth` whose
session identifiers, user names, services, methods, algorithms and public keys are each shorter
than `2^32` bytes produce the same bytes only if they agree on all six: a signature over the data
cannot be taken for one over another session, request or key. -/
theorem buildDataSignedForAuth_injective {sessionId sessionId' algo algo' pubKey pubKey' : List UInt8}
    {req req' : UserAuthRequestMsg}
    (hl : ∀ x ∈ [sessionId, req.user, req.service, req.method, algo, pubKey], x.length < 2 ^ 32)
    (hl' : ∀ x ∈ [sessionId', req'.user, req'.service, req'.method, algo', pubKey'],
      x.length < 2 ^ 32)
    (h : buildDataSignedForAuth sessionId req algo pubKey =
      buildDataSignedForAuth sessionId' req' algo' pubKey') :
    sessionId = sessionId' ∧ req = req' ∧ algo = algo' ∧ pubKey = pubKey' := by
  have hr := readFields_buildDataSignedForAuth hl
  rw [h, readFields_buildDataSignedForAuth hl'] at hr
  simp only [Option.some.injEq, Prod.mk.injEq, List.cons.injEq, Value.str.injEq, and_true] at hr
  cases req; cases req'
  simp_all

theorem buildDataSignedForAuth_injective_sample :
    (∀ x ∈ [[1], [0x75], [0x73], [0x70], [0x61], [0x6B]], List.length (α := UInt8) x < 2 ^ 32) ∧
      (∀ x ∈ [[1], [0x75], [0x73], [0x70], [0x61], [0x6B]],
        List.length (α := UInt8) x < 2 ^ 32) ∧
      buildDataSignedForAuth [1] ⟨[0x75], [0x73], [0x70]⟩ [0x61] [0x6B] =
        buildDataSignedForAuth [1] ⟨[0x75], [0x73], [0x70]⟩ [0x61] [0x6B] ∧
      (([1] : List UInt8) = [1] ∧
        (⟨[0x75], [0x73], [0x70]⟩ : UserAuthRequestMsg) = ⟨[0x75], [0x73], [0x70]⟩ ∧
        ([0x61] : List UInt8) = [0x61] ∧ ([0x6B] : List UInt8) = [0x6B]) := by
  refine ⟨by decide, by decide, rfl, buildDataSignedForAuth_injective ?_ ?_ rfl⟩ <;> decide

end Fasst.Ssh
