import Rxu01.RemoteProtocolCodec
import Rxu01.ShiftRegister

set_option autoImplicit false

/- The checksum of `remote_protocol.cpp` as a shift register over the bits of the
wire, and the codeword that two accepted packets of one length differ by. -/
namespace RemoteProtocol

open Polynomial BinaryPolynomial ShiftRegister

/-- The constant fed back by `calculate_crc16`. -/
abbrev crcTaps : BitVec 16 := 0x1021

theorem crcTaps_generator : generator crcTaps = X ^ 16 + X ^ 12 + X ^ 5 + 1 := by
  have bits : wordBits crcTaps = [false, false, false, true, false, false, false, false, false,
      false, true, false, false, false, false, true] := by decide
  rw [generator, ofWord, bits]
  simp [ofBits_cons, add_assoc]

theorem crcTaps_constant : (generator crcTaps).eval 0 = 1 := by
  rw [crcTaps_generator]
  simp

theorem crcTaps_parity : (generator crcTaps).eval 1 = 0 := by
  rw [crcTaps_generator]
  simp
  decide

/-- The bits of a byte string in wire order, most significant first in each byte. -/
def wireBits (bytes : List UInt8) : List Bool :=
  bytes.flatMap fun byte => wordBits byte.toBitVec

theorem wireBits_append (front back : List UInt8) :
    wireBits (front ++ back) = wireBits front ++ wireBits back :=
  List.flatMap_append

theorem wireBits_length (bytes : List UInt8) : (wireBits bytes).length = 8 * bytes.length := by
  induction bytes with
  | nil => rfl
  | cons byte rest ih =>
      rw [List.length_cons, wireBits, List.flatMap_cons, List.length_append, wordBits_length]
      change 8 + (wireBits rest).length = _
      rw [ih, Nat.mul_succ, Nat.add_comm]

/-- The tested bit is the register's top bit. -/
theorem crc_top (crc : UInt16) : crc &&& 0x8000 ≠ 0 ↔ crc.toBitVec.msb = true := by
  have masked : (crc &&& 0x8000).toBitVec =
      if crc.toBitVec.msb then BitVec.twoPow 16 15 else 0#16 := by
    rw [BitVec.msb_eq_getLsbD_last]
    exact BitVec.and_twoPow crc.toBitVec 15
  rw [ne_eq, ← UInt16.toBitVec_inj, masked]
  cases crc.toBitVec.msb with
  | false => decide
  | true => decide

theorem crcBit_shift (crc : UInt16) : (crcBit crc).toBitVec = shift crcTaps crc.toBitVec := by
  rw [crcBit, shift]
  by_cases top : crc &&& 0x8000 ≠ 0
  · rw [if_pos top, if_pos ((crc_top crc).mp top)]
    rfl
  · rw [if_neg top, if_neg fun set => top ((crc_top crc).mpr set)]
    rfl

theorem crcBits_shifts (count : Nat) (crc : UInt16) :
    (crcBits count crc).toBitVec = (shift crcTaps)^[count] crc.toBitVec := by
  induction count generalizing crc with
  | zero => rfl
  | succ count ih => rw [crcBits, ih, crcBit_shift, Function.iterate_succ_apply]

theorem join_bits (first second : UInt8) :
    (Bytes.join first second).toBitVec = second.toBitVec ++ first.toBitVec := by
  apply BitVec.eq_of_getLsbD_eq
  intro index inside
  rw [show (second.toBitVec ++ first.toBitVec).getLsbD index = _ from BitVec.getLsbD_append]
  have past := BitVec.getLsbD_of_ge first.toBitVec index
  simp [Bytes.join]
  grind

theorem byte_shifted (byte : UInt8) : (byte.toUInt16 <<< 8).toBitVec = byte.toBitVec ++ 0#8 := by
  rw [show byte.toUInt16 <<< 8 = Bytes.join 0 byte by simp [Bytes.join], join_bits]
  rfl

/-- One turn of the outer loop, on polynomials. -/
theorem crcByte_residue (crc : UInt16) (byte : UInt8) :
    residue crcTaps (ofWord (crcByte crc byte).toBitVec) =
      residue crcTaps (X ^ 8 * ofWord crc.toBitVec + X ^ 16 * ofWord byte.toBitVec) := by
  rw [crcByte, crcBits_shifts, residue_shifts, UInt16.toBitVec_xor, byte_shifted, ofWord_xor,
    ofWord_append, ofWord_zero, add_zero, ← map_pow, ← map_mul]
  exact congrArg (residue crcTaps) (by ring)

/-- A register fed a whole string: the register moved up by the string's bits,
plus the string moved up by the register's. -/
theorem crcFold_residue (bytes : List UInt8) (crc : UInt16) :
    residue crcTaps (ofWord (bytes.foldl crcByte crc).toBitVec) =
      residue crcTaps (X ^ (8 * bytes.length) * ofWord crc.toBitVec +
        X ^ 16 * ofBits (wireBits bytes)) := by
  induction bytes generalizing crc with
  | nil => simp [wireBits]
  | cons byte rest ih =>
      have split : ofBits (wireBits (byte :: rest)) =
          ofWord byte.toBitVec * X ^ (8 * rest.length) + ofBits (wireBits rest) := by
        rw [← wireBits_length rest]
        exact ofBits_append _ _
      rw [List.foldl_cons, ih, split, map_add, map_mul, crcByte_residue, ← map_mul, ← map_add,
        List.length_cons]
      exact congrArg (residue crcTaps) (by ring)

/-- The bits in which two packets of one length differ, in wire order. -/
def flips (packet corrupted : List UInt8) : List Bool :=
  List.zipWith xor (wireBits packet) (wireBits corrupted)

theorem flips_length (packet corrupted : List UInt8) (same : packet.length = corrupted.length) :
    (flips packet corrupted).length = 8 * packet.length := by
  rw [flips, List.length_zipWith, wireBits_length, wireBits_length, same, Nat.min_self]

theorem flips_append (front front' back back' : List UInt8)
    (same : front.length = front'.length) :
    flips (front ++ back) (front' ++ back') = flips front front' ++ flips back back' := by
  rw [flips, wireBits_append, wireBits_append, List.zipWith_append]
  · rfl
  · rw [wireBits_length, wireBits_length, same]

/-- The bytes in which two packets of one length differ. -/
def difference (packet corrupted : List UInt8) : List UInt8 :=
  List.zipWith (fun first second => first ^^^ second) packet corrupted

theorem difference_length {packet corrupted : List UInt8}
    (same : packet.length = corrupted.length) :
    (difference packet corrupted).length = packet.length := by
  rw [difference, List.length_zipWith, same, Nat.min_self]

theorem difference_append (front front' back back' : List UInt8)
    (same : front.length = front'.length) :
    difference (front ++ back) (front' ++ back') = difference front front' ++ difference back back' :=
  List.zipWith_append same

theorem flips_difference (packet corrupted : List UInt8) :
    flips packet corrupted = wireBits (difference packet corrupted) := by
  induction packet generalizing corrupted with
  | nil => rfl
  | cons first packet ih =>
      cases corrupted with
      | nil => simp [flips, difference, wireBits]
      | cons second corrupted =>
          have head : flips [first] [second] = wordBits (first ^^^ second).toBitVec := by
            rw [UInt8.toBitVec_xor, wordBits_xor]
            simp [flips, wireBits]
          calc
            flips (first :: packet) (second :: corrupted) =
                flips [first] [second] ++ flips packet corrupted :=
              flips_append [first] [second] packet corrupted rfl
            _ = wireBits (difference (first :: packet) (second :: corrupted)) := by
              rw [head, ih]
              rfl

/-- The constant that the register starts from drops out of the difference of two
checksums, which is the checksum of the difference from a cleared register. -/
theorem crc_xor (left right : List UInt8) (same : left.length = right.length) :
    crc16 left ^^^ crc16 right = (difference left right).foldl crcByte 0 := by
  have cleared : ofWord (0 : UInt16).toBitVec = 0 := ofWord_zero
  apply UInt16.toBitVec_inj.mp
  apply residue_injective crcTaps
  rw [UInt16.toBitVec_xor, ofWord_xor, map_add, crc16, crc16, crcFold_residue left,
    crcFold_residue right, crcFold_residue, cleared, ← flips_difference, flips,
    ofBits_xor _ _ (by rw [wireBits_length, wireBits_length, same]), difference_length same, same,
    mul_zero, zero_add, ← map_add, add_add_add_comm, CharTwo.add_self_eq_zero, zero_add, mul_add]

theorem wireBits_injective {left right : List UInt8} (length : left.length = right.length)
    (same : wireBits left = wireBits right) : left = right := by
  induction left generalizing right with
  | nil => exact (List.length_eq_zero_iff.mp length.symm).symm
  | cons first left ih =>
      cases right with
      | nil => cases length
      | cons second right =>
          obtain ⟨head, tail⟩ := List.append_inj
            (show wordBits first.toBitVec ++ wireBits left =
              wordBits second.toBitVec ++ wireBits right from same) (by simp)
          rw [UInt8.toBitVec_inj.mp (wordBits_injective head), ih (Nat.succ.inj length) tail]

theorem flips_zeros {packet corrupted : List UInt8} (same : packet.length = corrupted.length)
    (zeros : flips packet corrupted = List.replicate (flips packet corrupted).length false) :
    packet = corrupted :=
  wireBits_injective same
    (zipWith_xor_zeros (by rw [wireBits_length, wireBits_length, same]) zeros)

/-- Header and payload followed by their CRC, low byte first. -/
def crcSealed (body : List UInt8) : List UInt8 :=
  body ++ [Bytes.low (crc16 body), Bytes.high (crc16 body)]

theorem accepted_sealed {packet : List UInt8} (accepted : Accepted packet) :
    ∃ body, packet = crcSealed body ∧
      body.length = headerSize + (packet.getD offsetPayloadLength 0).toNat :=
  ⟨(parsed packet).body, accepted_wire packet accepted,
    body_length (parsed packet) accepted.payload⟩

/-- The register's bits are those of its high byte, then those of its low byte. -/
theorem wireBits_word (word : UInt16) :
    wireBits [Bytes.high word, Bytes.low word] = wordBits word.toBitVec := by
  have joined := join_bits (Bytes.low word) (Bytes.high word)
  rw [Bytes.join_low_high] at joined
  calc
    wireBits [Bytes.high word, Bytes.low word] =
        wordBits (Bytes.high word).toBitVec ++ wordBits (Bytes.low word).toBitVec := by
      simp [wireBits]
    _ = wordBits ((Bytes.high word).toBitVec ++ (Bytes.low word).toBitVec) :=
      (wordBits_append _ _).symm
    _ = wordBits word.toBitVec := congrArg wordBits joined.symm

theorem crcFlips_wire (left right : UInt16) :
    wordBits (left ^^^ right).toBitVec =
      flips [Bytes.high left] [Bytes.high right] ++ flips [Bytes.low left] [Bytes.low right] := by
  rw [UInt16.toBitVec_xor, wordBits_xor, ← wireBits_word, ← wireBits_word]
  exact flips_append [Bytes.high left] [Bytes.high right] _ _ rfl

/-- What two sealed bodies of one length differ by, with the two CRC bytes in the
order in which the register holds them, is a multiple of the generator. -/
theorem sealed_divides (left right : List UInt8) (same : left.length = right.length) :
    generator crcTaps ∣
      ofBits (flips left right ++ wordBits (crc16 left ^^^ crc16 right).toBitVec) := by
  have cleared : ofWord (0 : UInt16).toBitVec = 0 := ofWord_zero
  rw [← residue_eq_zero, ofBits_append, wordBits_length]
  change residue crcTaps (_ + ofWord _) = 0
  rw [map_add, crc_xor left right same, crcFold_residue, cleared, mul_zero, zero_add,
    ← flips_difference, ← map_add, mul_comm, CharTwo.add_self_eq_zero, map_zero]

/-- The loop computes a polynomial remainder: that of the string moved up by the 16
bits of the register, the first 16 of its bits inverted. -/
theorem calculateCrc16_remainder :
    (∀ data : Option (List UInt8),
      ofWord (calculateCrc16 data (data.getD []).length).toBitVec =
        (ofBits (wireBits (data.getD [])) * X ^ 16 +
          (∑ power ∈ Finset.range 16, X ^ power) * X ^ (8 * (data.getD []).length)) %ₘ
            (X ^ 16 + X ^ 12 + X ^ 5 + 1)) ∧
    ∀ left right : List UInt8, left.length = right.length →
      calculateCrc16 (some left) left.length ^^^ calculateCrc16 (some right) right.length =
        (difference left right).foldl crcByte 0 := by
  have whole : ∀ bytes : List UInt8, calculateCrc16 (some bytes) bytes.length = crc16 bytes := by
    intro bytes
    rw [← calculateCrc16_front bytes [], List.append_nil]
  have ones : ofWord (0xFFFF : UInt16).toBitVec = ∑ power ∈ Finset.range 16, X ^ power := by
    rw [← ofBits_ones, ofWord]
    exact congrArg ofBits (by decide)
  constructor
  · intro data
    have same : calculateCrc16 data (data.getD []).length = crc16 (data.getD []) := by
      cases data with
      | none => rfl
      | some bytes => exact whole bytes
    rw [same, ← crcTaps_generator]
    apply remainder_of_residue crcTaps
    rw [crc16, crcFold_residue, ones, add_comm, mul_comm (X ^ 16), mul_comm (X ^ _)]
  · intro left right lengths
    rw [whole, whole]
    exact crc_xor left right lengths

end RemoteProtocol
