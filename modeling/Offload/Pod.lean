/-
**Plain data.**

Values cross between host and device as byte strings.  A type is plain data if each of its values is
written in a fixed number of bytes and can be read back.  Integers are written with the least
significant byte first.

Floating-point numbers are kept as bit patterns, so that every pattern survives the way to the
device and back.  Arithmetic on them rounds to nearest; an undefined result is the negative quiet
NaN, and a NaN operand is passed on with its quiet bit set, the left one first.

Main definitions:

* `Offload.littleEndian`, `Offload.ofLittleEndian`, `Offload.byteRange` — numbers as bytes, and how
  many there are of a width;
* `Offload.Pod` — plain data;
* `Offload.Binary32` — single-precision numbers as bit patterns;
* `Offload.Block` — raw bytes of a fixed number;
* `Offload.Pod.encodeAll`, `Offload.Pod.decodeAll` — arrays as bytes.

Main results:

* `Offload.ofLittleEndian_littleEndian` — reading back what was written;
* `Offload.Pod.decodeAll_encodeAll` — the same for arrays.
-/

set_option autoImplicit false

namespace Offload

/-! ### Numbers as bytes -/

/-- The low bytes of a number, the least significant one first. -/
def littleEndian : (width : Nat) → Nat → List UInt8
  | 0, _ => []
  | width + 1, n => UInt8.ofNat n :: littleEndian width (n / 256)

/-- The number with the given bytes, the least significant one first. -/
def ofLittleEndian : List UInt8 → Nat
  | [] => 0
  | b :: rest => b.toNat + 256 * ofLittleEndian rest

/-- The number of different byte strings of a width. -/
def byteRange : Nat → Nat
  | 0 => 1
  | width + 1 => 256 * byteRange width

@[simp] theorem length_littleEndian (width n : Nat) : (littleEndian width n).length = width := by
  induction width generalizing n with
  | zero => rfl
  | succ width ih => simp [littleEndian, ih]

theorem ofLittleEndian_littleEndian (width n : Nat) :
    ofLittleEndian (littleEndian width n) = n % byteRange width := by
  induction width generalizing n with
  | zero => simp [littleEndian, ofLittleEndian, byteRange, Nat.mod_one]
  | succ width ih =>
      simp only [littleEndian, ofLittleEndian, ih, UInt8.toNat_ofNat', byteRange]
      exact Nat.mod_mul.symm

/-! ### Plain data -/

/-- Types whose values are byte strings of a fixed length. -/
class Pod (α : Type) where
  /-- The number of bytes of a value. -/
  width : Nat
  /-- The bytes of a value. -/
  encode : α → List UInt8
  /-- The value with the given bytes. -/
  decode : List UInt8 → α
  length_encode : ∀ a, (encode a).length = width
  decode_encode : ∀ a, decode (encode a) = a

attribute [simp] Pod.length_encode Pod.decode_encode

namespace Pod

variable {α : Type} [Pod α]

/-- The bytes of an array. -/
def encodeAll (values : List α) : List UInt8 :=
  values.flatMap encode

/-- The array with a given number of elements in the given bytes. -/
def decodeAll : (count : Nat) → List UInt8 → List α
  | 0, _ => []
  | count + 1, bytes =>
      decode (bytes.take (width α)) :: decodeAll count (bytes.drop (width α))

@[simp] theorem length_encodeAll (values : List α) :
    (encodeAll values).length = values.length * width α := by
  induction values with
  | nil => simp [encodeAll]
  | cons a rest ih =>
      have : encodeAll (a :: rest) = encode a ++ encodeAll rest := rfl
      rw [this, List.length_append, ih, length_encode, List.length_cons, Nat.add_mul, Nat.one_mul,
        Nat.add_comm]

@[simp] theorem length_decodeAll (count : Nat) (bytes : List UInt8) :
    (decodeAll count bytes : List α).length = count := by
  induction count generalizing bytes with
  | zero => rfl
  | succ count ih => simp [decodeAll, ih]

theorem decodeAll_encodeAll (values : List α) :
    decodeAll values.length (encodeAll values) = values := by
  induction values with
  | nil => rfl
  | cons a rest ih =>
      have h : encodeAll (a :: rest) = encode a ++ encodeAll rest := rfl
      have hw : width α = (encode a).length := (length_encode a).symm
      simp only [List.length_cons, decodeAll, h]
      rw [hw, List.take_left, List.drop_left, decode_encode, ih]

end Pod

instance : Pod Unit where
  width := 0
  encode _ := []
  decode _ := ()
  length_encode _ := rfl
  decode_encode _ := rfl

instance : Pod UInt8 where
  width := 1
  encode n := littleEndian 1 n.toNat
  decode bytes := UInt8.ofNat (ofLittleEndian bytes)
  length_encode n := length_littleEndian 1 n.toNat
  decode_encode n := by
    rw [ofLittleEndian_littleEndian, Nat.mod_eq_of_lt (by simpa [byteRange] using n.toNat_lt)]
    simp

instance : Pod UInt16 where
  width := 2
  encode n := littleEndian 2 n.toNat
  decode bytes := UInt16.ofNat (ofLittleEndian bytes)
  length_encode n := length_littleEndian 2 n.toNat
  decode_encode n := by
    rw [ofLittleEndian_littleEndian, Nat.mod_eq_of_lt (by simpa [byteRange] using n.toNat_lt)]
    simp

instance : Pod UInt32 where
  width := 4
  encode n := littleEndian 4 n.toNat
  decode bytes := UInt32.ofNat (ofLittleEndian bytes)
  length_encode n := length_littleEndian 4 n.toNat
  decode_encode n := by
    rw [ofLittleEndian_littleEndian, Nat.mod_eq_of_lt (by simpa [byteRange] using n.toNat_lt)]
    simp

instance : Pod UInt64 where
  width := 8
  encode n := littleEndian 8 n.toNat
  decode bytes := UInt64.ofNat (ofLittleEndian bytes)
  length_encode n := length_littleEndian 8 n.toNat
  decode_encode n := by
    rw [ofLittleEndian_littleEndian, Nat.mod_eq_of_lt (by simpa [byteRange] using n.toNat_lt)]
    simp

instance : Pod Int32 where
  width := 4
  encode n := Pod.encode n.toUInt32
  decode bytes := (Pod.decode bytes : UInt32).toInt32
  length_encode n := Pod.length_encode n.toUInt32
  decode_encode n := by simp

/-! ### Raw bytes -/

/-- Raw bytes of a fixed number. -/
structure Block (width : Nat) where
  bytes : List UInt8
  length_bytes : bytes.length = width
deriving DecidableEq

namespace Block

/-- The first bytes of a list, filled up with zeros. -/
def ofBytes (width : Nat) (bytes : List UInt8) : Block width :=
  ⟨bytes.take width ++ List.replicate (width - bytes.length) 0, by
    simp only [List.length_append, List.length_take, List.length_replicate]
    omega⟩

@[simp] theorem ofBytes_bytes {width : Nat} (b : Block width) : ofBytes width b.bytes = b := by
  obtain ⟨bytes, h⟩ := b
  subst h
  simp [ofBytes]

instance (width : Nat) : Pod (Block width) where
  width := width
  encode b := b.bytes
  decode bytes := ofBytes width bytes
  length_encode b := b.length_bytes
  decode_encode b := ofBytes_bytes b

end Block

/-! ### Single-precision numbers -/

/-- A single-precision number, given by its bits. -/
structure Binary32 where
  bits : UInt32
deriving DecidableEq, Repr, Inhabited

namespace Binary32

/-- Whether the bits stand for no number. -/
def isNaN (x : Binary32) : Bool :=
  0x7f800000 < x.bits &&& 0x7fffffff

/-- A NaN that is passed on: its quiet bit is set. -/
def quiet (x : Binary32) : Binary32 :=
  ⟨x.bits ||| 0x00400000⟩

/-- The result of an operation that is not defined. -/
def indefinite : Binary32 :=
  ⟨0xffc00000⟩

/-- An operation on two numbers, rounded to nearest. -/
def lift (f : Float32 → Float32 → Float32) (x y : Binary32) : Binary32 :=
  if x.isNaN then x.quiet
  else if y.isNaN then y.quiet
  else
    let r := f (Float32.ofBits x.bits) (Float32.ofBits y.bits)
    if r.isNaN then indefinite else ⟨r.toBits⟩

/-- The rounded sum. -/
def add (x y : Binary32) : Binary32 := lift (· + ·) x y

/-- The rounded product. -/
def mul (x y : Binary32) : Binary32 := lift (· * ·) x y

/-- The number nearest to a 64-bit natural number. -/
def ofNat (n : Nat) : Binary32 :=
  ⟨(UInt64.ofNat n).toFloat32.toBits⟩

/-- Zero. -/
def zero : Binary32 := ⟨0⟩

instance : Pod Binary32 where
  width := 4
  encode x := Pod.encode x.bits
  decode bytes := ⟨Pod.decode bytes⟩
  length_encode x := Pod.length_encode x.bits
  decode_encode x := by simp

end Binary32

end Offload
