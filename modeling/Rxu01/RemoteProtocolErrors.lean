import Rxu01.RemoteProtocolChecksum

set_option autoImplicit false

/- Bit errors that `decode` always notices: two flipped bits, or any odd number. -/
namespace RemoteProtocol

open BinaryPolynomial ShiftRegister

theorem accepted_length {packet : List UInt8} (accepted : Accepted packet) :
    packet.length = headerSize + (packet.getD offsetPayloadLength 0).toNat + crcSize := by
  obtain ⟨body, whole, length⟩ := accepted_sealed accepted
  rw [← length]
  exact (congrArg List.length whole).trans List.length_append

/-- Two accepted packets of one length carry payloads of one length. -/
theorem accepted_size {packet corrupted : List UInt8} (accepted : Accepted packet)
    (again : Accepted corrupted) (same : packet.length = corrupted.length) :
    (packet.getD offsetPayloadLength 0).toNat = (corrupted.getD offsetPayloadLength 0).toNat := by
  have left := accepted_length accepted
  have right := accepted_length again
  omega

theorem accepted_pair {packet corrupted : List UInt8} (accepted : Accepted packet)
    (again : Accepted corrupted) (same : packet.length = corrupted.length) :
    ∃ left right, left.length = right.length ∧ packet = crcSealed left ∧
      corrupted = crcSealed right ∧ headerSize ≤ left.length := by
  obtain ⟨left, sealedLeft, leftLength⟩ := accepted_sealed accepted
  obtain ⟨right, sealedRight, rightLength⟩ := accepted_sealed again
  have size := accepted_size accepted again same
  exact ⟨left, right, by omega, sealedLeft, sealedRight, by omega⟩

theorem crcSealed_length (body : List UInt8) :
    (crcSealed body).length = body.length + crcSize :=
  List.length_append

theorem accepted_short {packet : List UInt8} (accepted : Accepted packet) :
    packet.length ≤ maxPacketSize := by
  have length := accepted_length accepted
  have bound := accepted.payload
  simp only [maxPacketSize]
  omega

/-- The bits in which two sealed packets differ: those of the bodies, then those
of the CRC's low byte, then those of its high byte. -/
theorem flips_sealed (left right : List UInt8) (same : left.length = right.length) :
    flips (crcSealed left) (crcSealed right) = flips left right ++
      (flips [Bytes.low (crc16 left)] [Bytes.low (crc16 right)] ++
        flips [Bytes.high (crc16 left)] [Bytes.high (crc16 right)]) := by
  rw [crcSealed, crcSealed, flips_append _ _ _ _ same,
    ← flips_append [Bytes.low (crc16 left)] [Bytes.low (crc16 right)] _ _ rfl]
  rfl

theorem flips_sealed_count (left right : List UInt8) (same : left.length = right.length) :
    (flips (crcSealed left) (crcSealed right)).count true =
      (flips left right ++ wordBits (crc16 left ^^^ crc16 right).toBitVec).count true := by
  rw [flips_sealed left right same, crcFlips_wire]
  simp only [List.count_append]
  omega

/-- No power of `X` below the bit length of the longest packet is one. -/
theorem crcTaps_order (count : Nat) (short : count < 8 * maxPacketSize) (positive : 0 < count) :
    (shift crcTaps)^[count] 1#16 ≠ 1#16 := by
  have orbit : (List.iterate (shift crcTaps) (shift crcTaps 1#16) 607).all (· != 1#16) = true := by
    decide +kernel
  have member : (shift crcTaps)^[count] 1#16 ∈
      List.iterate (shift crcTaps) (shift crcTaps 1#16) 607 := by
    rw [List.mem_iterate]
    refine ⟨count - 1, ?_, ?_⟩
    · have bound : count < 608 := short
      omega
    · rw [← Function.iterate_succ_apply, Nat.succ_eq_add_one, Nat.sub_add_cancel positive]
  exact bne_iff_ne.mp (List.all_eq_true.mp orbit _ member)

/-- A packet that differs from an accepted one of its length in two bits, or in an
odd number of bits, is rejected wherever the bits lie. -/
theorem flipped_rejected (packet corrupted : List UInt8) (before before' : Message)
    (accepted : (decode (some packet) before).1 = .ok)
    (same : corrupted.length = packet.length)
    (flipped : (flips packet corrupted).count true = 2 ∨
      Odd ((flips packet corrupted).count true)) :
    (decode (some corrupted) before').1 ≠ .ok := by
  intro again
  obtain ⟨valid, _⟩ := decode_ok packet before _ (Prod.ext accepted rfl)
  obtain ⟨valid', _⟩ := decode_ok corrupted before' _ (Prod.ext again rfl)
  obtain ⟨left, right, lengths, rfl, rfl, _⟩ := accepted_pair valid valid' same.symm
  rw [flips_sealed_count left right lengths] at flipped
  have divides := sealed_divides left right lengths
  rcases flipped with pair | odd
  · refine pair_apart crcTaps_constant (fun count inside positive => ?_) divides pair
    apply crcTaps_order count _ positive
    have bound := accepted_short valid
    rw [List.length_append, flips_length _ _ lengths, wordBits_length] at inside
    rw [crcSealed_length] at bound
    simp only [crcSize, maxPacketSize] at bound ⊢
    omega
  · exact (Nat.not_even_iff_odd.mpr odd) (even_weight crcTaps_parity divides)

/-- A command with no payload, one bit of its type and one of its CRC flipped. -/
theorem flipped_rejected_type :
    (decode (some [0x52, 0x43, 1, 3, 0, 0, 0, 0, 0, 0, 0x11, 0x54]) {}).1 ≠ .ok :=
  flipped_rejected [0x52, 0x43, 1, 1, 0, 0, 0, 0, 0, 0, 0x10, 0x54]
    [0x52, 0x43, 1, 3, 0, 0, 0, 0, 0, 0, 0x11, 0x54] {} {} (by decide +kernel) rfl
    (Or.inl (by decide))

end RemoteProtocol
