import Rxu01.RemoteProtocolErrors

set_option autoImplicit false

/- Bursts of up to 16 bits. Inside the body, or inside the CRC field, none goes
unnoticed; across their boundary the CRC's byte order lets twelve patterns pass. -/
namespace RemoteProtocol

open BinaryPolynomial ShiftRegister

theorem wireBits_zeros (count : Nat) :
    wireBits (List.replicate count 0) = List.replicate (8 * count) false := by
  induction count with
  | zero => rfl
  | succ count ih =>
      rw [List.replicate_succ, Nat.mul_succ, Nat.add_comm, List.replicate_add, ← ih]
      rfl

/-- Only zero bytes have zero bits. -/
theorem zeros_of_wireBits {bytes : List UInt8}
    (zeros : wireBits bytes = List.replicate (wireBits bytes).length false) :
    bytes = List.replicate bytes.length 0 := by
  apply wireBits_injective (List.length_replicate).symm
  rw [wireBits_zeros, ← wireBits_length]
  exact zeros

/-- Bodies that differ in their last two bytes have CRCs that differ by those
bytes run through the register. -/
theorem crc_difference {left right : List UInt8} (same : left.length = right.length)
    (zeros : Nat) (word : UInt16)
    (tail : difference left right =
      List.replicate zeros 0 ++ [Bytes.high word, Bytes.low word]) :
    crc16 left ^^^ crc16 right = crcBits 16 word := by
  have divides := sealed_divides left right same
  rw [flips_difference, tail, wireBits_append, wireBits_zeros, wireBits_word, List.append_assoc,
    ofBits_append, ofBits_zeros, zero_mul, zero_add, ofBits_append, wordBits_length,
    ← residue_eq_zero, map_add] at divides
  apply UInt16.toBitVec_inj.mp
  apply residue_injective crcTaps
  rw [crcBits_shifts, residue_shifts, ← map_pow, ← map_mul, ← sub_eq_zero, ← map_sub,
    CharTwo.sub_eq_add, map_add, add_comm, mul_comm]
  exact divides

/-- The last four bytes of the difference of two sealed bodies whose last two
bytes differ by `word`, high byte first, and that are otherwise the same. -/
def sealedDifference (word : UInt16) : List UInt8 :=
  [Bytes.high word, Bytes.low word, Bytes.low (crcBits 16 word), Bytes.high (crcBits 16 word)]

/-- The bursts over the end of the body and the start of the CRC field that leave
the CRC right. -/
def silentBursts : List (List UInt8) :=
  [[0x00, 0x01, 0x21, 0x10], [0x00, 0x02, 0x42, 0x20], [0x00, 0x03, 0x63, 0x30],
    [0x00, 0x04, 0x84, 0x40], [0x00, 0x05, 0xA5, 0x50], [0x00, 0x06, 0xC6, 0x60],
    [0x00, 0x07, 0xE7, 0x70], [0x00, 0x89, 0xA1, 0x00], [0x02, 0x35, 0x94, 0x00],
    [0x08, 0xC5, 0x40, 0x00], [0x11, 0x8A, 0x80, 0x00], [0x19, 0x4F, 0xC0, 0x00]]

/-- A word whose burst, if it is one, is listed. -/
def Listed (word : UInt16) : Prop :=
  Burst 16 (wireBits (sealedDifference word)) → word = 0 ∨ sealedDifference word ∈ silentBursts

instance (word : UInt16) : Decidable (Listed word) :=
  inferInstanceAs (Decidable (_ → _))

theorem listed_low (value : Nat) (small : value < 256) : Listed (UInt16.ofNat value) := by
  have table : (List.range 256).all (fun value => decide (Listed (UInt16.ofNat value))) = true := by
    decide +kernel
  exact of_decide_eq_true (List.all_eq_true.mp table value (List.mem_range.mpr small))

theorem listed_quotient (value : Nat) (small : value < 256) :
    Listed (UInt16.ofBitVec ((unshift crcTaps)^[16] (BitVec.ofNat 16 value))) := by
  have table : (List.range 256).all (fun value => decide (Listed
      (UInt16.ofBitVec ((unshift crcTaps)^[16] (BitVec.ofNat 16 value))))) = true := by
    decide +kernel
  exact of_decide_eq_true (List.all_eq_true.mp table value (List.mem_range.mpr small))

theorem byte_zero {byte : UInt8} (zeros : wireBits [byte] =
    List.replicate (wireBits [byte]).length false) : byte = 0 := by
  have bytes := zeros_of_wireBits zeros
  exact (List.cons.inj bytes).1

theorem small_word {word : UInt16} (high : Bytes.high word = 0) : word.toNat < 256 := by
  have value := Bytes.high_toNat word
  rw [high] at value
  have quotient : word.toNat / 256 = 0 := value.symm
  omega

/-- No burst over the boundary goes unnoticed but those listed. -/
theorem listed (word : UInt16) : Listed word := by
  intro burst
  by_cases high : Bytes.high (crcBits 16 word) = 0
  · -- at most the low CRC byte differs, and the register run backwards gives the word
    have undone := (Function.LeftInverse.iterate (unshift_shift crcTaps rfl) 16) word.toBitVec
    rw [← crcBits_shifts] at undone
    have quotient := listed_quotient (crcBits 16 word).toNat (small_word high)
    rw [show BitVec.ofNat 16 (crcBits 16 word).toNat = (crcBits 16 word).toBitVec from
      BitVec.ofNat_toNat _ _, undone] at quotient
    exact quotient burst
  · -- the burst reaches the high CRC byte, which leaves only the last body byte
    have front : wireBits [Bytes.high word] =
        List.replicate (wireBits [Bytes.high word]).length false := by
      apply burst_front _ (wireBits [Bytes.low word, Bytes.low (crcBits 16 word)])
        (wireBits [Bytes.high (crcBits 16 word)])
      · rw [← wireBits_append, ← wireBits_append]
        exact burst
      · rw [wireBits_length]
        exact Nat.le_succ 16
      · exact fun zeros => high (byte_zero zeros)
    have low := listed_low word.toNat (small_word (byte_zero front))
    rw [UInt16.ofNat_toNat] at low
    exact low burst

theorem difference_sealed {left right : List UInt8} (same : left.length = right.length) :
    difference (crcSealed left) (crcSealed right) = difference left right ++
      [Bytes.low (crc16 left ^^^ crc16 right), Bytes.high (crc16 left ^^^ crc16 right)] := by
  rw [crcSealed, crcSealed, difference_append _ _ _ _ same, Bytes.low_xor, Bytes.high_xor]
  rfl

theorem word_tail (bytes : List UInt8) (long : 2 ≤ bytes.length) :
    ∃ (front : List UInt8) (word : UInt16), front.length = bytes.length - 2 ∧
      bytes = front ++ [Bytes.high word, Bytes.low word] := by
  refine ⟨bytes.take (bytes.length - 2),
    Bytes.join (bytes.getD (bytes.length - 1) 0) (bytes.getD (bytes.length - 2) 0), ?_, ?_⟩
  · rw [List.length_take]
    omega
  · have rest : bytes.drop (bytes.length - 2) =
        [bytes.getD (bytes.length - 2) 0, bytes.getD (bytes.length - 1) 0] := by
      rw [List.drop_eq_getElem_cons (by omega), List.drop_eq_getElem_cons (by omega),
        List.drop_eq_nil_of_le (by omega), List.getD_eq_getElem _ _ (by omega),
        List.getD_eq_getElem _ _ (by omega)]
      congr 3
      omega
    rw [Bytes.high_join, Bytes.low_join, ← rest, List.take_append_drop]

/-- Two sealed bodies that differ by one burst differ by a listed one. -/
theorem burst_listed {left right : List UInt8} (same : left.length = right.length)
    (long : 2 ≤ left.length) (differ : left ≠ right)
    (burst : Burst 16 (flips (crcSealed left) (crcSealed right))) :
    ∃ pattern ∈ silentBursts, difference (crcSealed left) (crcSealed right) =
      List.replicate (left.length - 2) 0 ++ pattern := by
  have divides := sealed_divides left right same
  have tail := flips_difference (crcSealed left) (crcSealed right)
  rw [difference_sealed same] at tail ⊢
  generalize made : crc16 left ^^^ crc16 right = crc at divides tail ⊢
  by_cases quiet : crc = 0
  · -- nothing differs in the CRC field, so the codeword itself is a burst
    rw [quiet] at divides tail
    have bits : flips (crcSealed left) (crcSealed right) =
        flips left right ++ wordBits (0 : UInt16).toBitVec := by
      rw [tail, wireBits_append, ← flips_difference, ← wireBits_word]
      rfl
    rw [bits] at burst
    have zeros := burst_zeros crcTaps_constant burst divides
    exact absurd (flips_zeros same (List.append_eq_replicate_iff.mp zeros).2.1) differ
  · -- the burst reaches the CRC field, which leaves only the last two body bytes
    obtain ⟨front, word, length, split⟩ := word_tail (difference left right)
      (by rw [difference_length same]; exact long)
    rw [difference_length same] at length
    rw [tail, split] at burst
    have zeros : front = List.replicate (left.length - 2) 0 := by
      rw [← length]
      apply zeros_of_wireBits
      apply burst_front _ (wireBits [Bytes.high word, Bytes.low word])
        (wireBits [Bytes.low crc, Bytes.high crc])
      · rw [← wireBits_append, ← wireBits_append, ← List.append_assoc]
        exact burst
      · rw [wireBits_length]
        exact Nat.le_succ 16
      · intro unset
        obtain ⟨low, rest⟩ := List.cons.inj (zeros_of_wireBits unset)
        have high := (List.cons.inj rest).1
        rw [← Bytes.join_low_high crc, low, high] at quiet
        exact quiet rfl
    rw [zeros] at split burst
    have register := crc_difference same (left.length - 2) word split
    rw [made] at register
    rw [List.append_assoc, wireBits_append, register] at burst
    rcases listed word (burst_back burst) with still | member
    · rw [register, still] at quiet
      exact absurd (by decide +kernel) quiet
    · refine ⟨sealedDifference word, member, ?_⟩
      rw [split, register, List.append_assoc]
      rfl

theorem silent_sealed (pattern : List UInt8) (member : pattern ∈ silentBursts) :
    ∃ word, pattern = sealedDifference word := by
  have table : silentBursts.all (fun pattern => pattern ==
      sealedDifference (Bytes.join (pattern.getD 1 0) (pattern.getD 0 0))) = true := by
    decide +kernel
  exact ⟨_, eq_of_beq (List.all_eq_true.mp table pattern member)⟩

/-- A sealed body changed by a listed pattern is another sealed body. -/
theorem silent_resealed {left corrupted : List UInt8} (long : 2 ≤ left.length)
    (same : corrupted.length = (crcSealed left).length) (pattern : List UInt8)
    (member : pattern ∈ silentBursts)
    (changed : difference (crcSealed left) corrupted =
      List.replicate (left.length - 2) 0 ++ pattern) :
    ∃ right, left.length = right.length ∧ corrupted = crcSealed right := by
  obtain ⟨word, rfl⟩ := silent_sealed pattern member
  have total : (crcSealed left).length = left.length + 2 := crcSealed_length left
  have front : left.length = (corrupted.take left.length).length := by
    rw [List.length_take]
    omega
  obtain ⟨low, high, tail⟩ : ∃ low high, corrupted.drop left.length = [low, high] := by
    rw [← List.length_eq_two, List.length_drop]
    omega
  refine ⟨corrupted.take left.length, front, ?_⟩
  rw [← List.take_append_drop left.length corrupted, tail, crcSealed,
    difference_append _ _ _ _ front] at changed
  have regrouped : difference left (corrupted.take left.length) ++
      [Bytes.low (crc16 left) ^^^ low, Bytes.high (crc16 left) ^^^ high] =
      (List.replicate (left.length - 2) 0 ++ [Bytes.high word, Bytes.low word]) ++
        [Bytes.low (crcBits 16 word), Bytes.high (crcBits 16 word)] := by
    rw [List.append_assoc]
    exact changed
  obtain ⟨body, field⟩ := List.append_inj regrouped (by
    rw [difference_length front, List.length_append, List.length_replicate]
    exact (Nat.sub_add_cancel long).symm)
  rw [← crc_difference front (left.length - 2) word body, Bytes.low_xor, Bytes.high_xor] at field
  obtain ⟨lows, rest⟩ := List.cons.inj field
  have highs := (List.cons.inj rest).1
  rw [crcSealed, ← (UInt8.xor_right_inj _).mp lows, ← (UInt8.xor_right_inj _).mp highs, ← tail,
    List.take_append_drop]

theorem difference_entry {packet corrupted : List UInt8}
    (same : packet.length = corrupted.length) (index : Nat) :
    (difference packet corrupted).getD index 0 =
      packet.getD index 0 ^^^ corrupted.getD index 0 := by
  by_cases inside : index < packet.length
  · rw [List.getD_eq_getElem _ _ (by rw [difference_length same]; exact inside),
      List.getD_eq_getElem _ _ inside, List.getD_eq_getElem _ _ (same ▸ inside)]
    exact List.getElem_zipWith
  · rw [List.getD_eq_default _ _ (by rw [difference_length same]; omega),
      List.getD_eq_default _ _ (by omega), List.getD_eq_default _ _ (by omega)]
    rfl

/-- The checks read nothing of the body but bytes 0 to 4 and the length byte. -/
theorem resealed_accepted {left right : List UInt8} (accepted : Accepted (crcSealed left))
    (same : left.length = right.length)
    (header : ∀ index < 5, (crcSealed right).getD index 0 = (crcSealed left).getD index 0)
    (length : (crcSealed right).getD offsetPayloadLength 0 =
      (crcSealed left).getD offsetPayloadLength 0) : Accepted (crcSealed right) := by
  have total : (crcSealed right).length = (crcSealed left).length := by
    rw [crcSealed_length, crcSealed_length, same]
  obtain ⟨body, equal, bodyLength⟩ := accepted_sealed accepted
  have covered : right.length =
      headerSize + ((crcSealed right).getD offsetPayloadLength 0).toNat := by
    have sizes := congrArg List.length equal
    rw [crcSealed_length, crcSealed_length] at sizes
    rw [length, ← bodyLength]
    omega
  refine ⟨total ▸ accepted.long, (header 0 (by decide)).trans accepted.magic0,
    (header 1 (by decide)).trans accepted.magic1, (header 2 (by decide)).trans accepted.version,
    ?_, ?_, length ▸ accepted.payload, ?_, ?_⟩
  · rw [header offsetType (by decide)]
    exact accepted.type
  · rw [header offsetFlags (by decide)]
    exact accepted.flags
  · rw [total, length]
    exact accepted.length
  · rw [← covered]
    exact (crc_read right _).trans (calculateCrc16_front right _).symm

/-- Of the packets that differ from an accepted one of their length by a burst of
up to 16 bits, `decode` accepts exactly those that leave the length byte alone and
end in one of the listed patterns. -/
theorem burst_accepted_iff (packet corrupted : List UInt8) (before before' : Message)
    (accepted : (decode (some packet) before).1 = .ok)
    (same : corrupted.length = packet.length) (differ : corrupted ≠ packet)
    (burst : Burst 16 (flips packet corrupted)) :
    (decode (some corrupted) before').1 = .ok ↔
      corrupted.getD offsetPayloadLength 0 = packet.getD offsetPayloadLength 0 ∧
        ∃ pattern ∈ silentBursts,
          difference packet corrupted = List.replicate (packet.length - 4) 0 ++ pattern := by
  obtain ⟨valid, _⟩ := decode_ok packet before _ (Prod.ext accepted rfl)
  constructor
  · intro again
    obtain ⟨valid', _⟩ := decode_ok corrupted before' _ (Prod.ext again rfl)
    obtain ⟨left, right, lengths, rfl, rfl, long⟩ := accepted_pair valid valid' same.symm
    simp only [headerSize] at long
    obtain ⟨pattern, member, changed⟩ := burst_listed lengths (by omega)
      (fun equal => differ (congrArg crcSealed equal.symm)) burst
    refine ⟨?_, pattern, member, ?_⟩
    · have bytes := accepted_size valid' valid same
      exact UInt8.toNat_inj.mp bytes
    · rw [changed, crcSealed_length]
      rfl
  · rintro ⟨length, pattern, member, changed⟩
    obtain ⟨left, rfl, long⟩ := accepted_sealed valid
    rw [crcSealed_length] at changed
    obtain ⟨right, lengths, rfl⟩ := silent_resealed (by simp only [headerSize] at long; omega) same
      pattern member changed
    have again := resealed_accepted valid lengths (fun index early => ?_) length
    · rw [decode_accepted _ before' again]
    · have entry := difference_entry same.symm index
      simp only [headerSize] at long
      rw [changed, List.getD_append _ _ _ _ (by rw [List.length_replicate]; omega),
        List.getD_eq_getElem _ _ (by rw [List.length_replicate]; omega),
        List.getElem_replicate] at entry
      exact (UInt8.xor_eq_zero_iff.mp entry.symm).symm

/-- A command with the one payload byte 0. -/
def plainPacket : List UInt8 := [0x52, 0x43, 1, 1, 0, 0, 0, 0, 0, 1, 0x00, 0x40, 0x39]

/-- The last bit of its payload and three bits of its CRC flipped, within 13 bits. -/
def burstPacket : List UInt8 := [0x52, 0x43, 1, 1, 0, 0, 0, 0, 0, 1, 0x01, 0x61, 0x29]

/-- Both are accepted, so not every burst of 16 bits is noticed. -/
theorem burst_unnoticed :
    ¬ ∀ (packet corrupted : List UInt8) (before before' : Message),
      (decode (some packet) before).1 = .ok → corrupted.length = packet.length →
        corrupted ≠ packet → Burst 16 (flips packet corrupted) →
          (decode (some corrupted) before').1 ≠ .ok := by
  intro noticed
  exact noticed plainPacket burstPacket {} {} (by decide +kernel) rfl (by decide)
    (by decide +kernel) (by decide +kernel)

theorem burst_accepted_iff_burstPacket :
    (decode (some burstPacket) {}).1 = .ok ↔
      burstPacket.getD offsetPayloadLength 0 = plainPacket.getD offsetPayloadLength 0 ∧
        ∃ pattern ∈ silentBursts, difference plainPacket burstPacket =
          List.replicate (plainPacket.length - 4) 0 ++ pattern :=
  burst_accepted_iff plainPacket burstPacket {} {} (by decide +kernel) rfl (by decide)
    (by decide +kernel)

end RemoteProtocol
