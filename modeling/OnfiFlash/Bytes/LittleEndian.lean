/-! Numbers as byte sequences with the least significant byte first. Main statement:
reading the `width` bytes that write a number gives the number modulo the count
of numbers that fit into them. -/
namespace OnfiFlash

/-- The `width` low bytes of `value`, least significant first. -/
def littleEndian : (width value : Nat) → List UInt8
  | 0, _ => []
  | width + 1, value => UInt8.ofNat value :: littleEndian width (value / 256)

/-- The number a byte sequence denotes, least significant byte first. -/
def ofLittleEndian : List UInt8 → Nat
  | [] => 0
  | byte :: rest => byte.toNat + 256 * ofLittleEndian rest

/-- How many numbers fit into `width` bytes. -/
def byteRange : (width : Nat) → Nat
  | 0 => 1
  | width + 1 => 256 * byteRange width

@[simp] theorem length_littleEndian (width value : Nat) :
    (littleEndian width value).length = width := by
  induction width generalizing value with
  | zero => rfl
  | succ width earlier => simp [littleEndian, earlier]

theorem ofLittleEndian_littleEndian (width value : Nat) :
    ofLittleEndian (littleEndian width value) = value % byteRange width := by
  induction width generalizing value with
  | zero => simp [littleEndian, ofLittleEndian, byteRange, Nat.mod_one]
  | succ width earlier =>
    rw [byteRange, Nat.mod_mul, littleEndian, ofLittleEndian, earlier, UInt8.toNat_ofNat']

/-- The bytes that write what a byte sequence denotes are those bytes. -/
theorem littleEndian_ofLittleEndian (bytes : List UInt8) :
    littleEndian bytes.length (ofLittleEndian bytes) = bytes := by
  induction bytes with
  | nil => rfl
  | cons byte rest ih =>
    have low : UInt8.ofNat (byte.toNat + 256 * ofLittleEndian rest) = byte := by
      rw [← UInt8.toNat_inj, UInt8.toNat_ofNat', Nat.add_mul_mod_self_left,
        Nat.mod_eq_of_lt byte.toNat_lt]
    have high : (byte.toNat + 256 * ofLittleEndian rest) / 256 = ofLittleEndian rest := by
      have small := byte.toNat_lt
      omega
    rw [List.length_cons, ofLittleEndian, littleEndian, low, high, ih]

/-- What a byte sequence denotes is one of the numbers that fit into as many bytes. -/
theorem ofLittleEndian_lt (bytes : List UInt8) :
    ofLittleEndian bytes < byteRange bytes.length := by
  induction bytes with
  | nil => exact Nat.zero_lt_one
  | cons byte rest earlier =>
    have low := byte.toNat_lt
    simp only [ofLittleEndian, List.length_cons, byteRange]
    omega

end OnfiFlash
