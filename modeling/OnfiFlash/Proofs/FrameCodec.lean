import OnfiFlash.Frame
import OnfiFlash.Opcode

/-! The frame codec. A well-formed frame survives its way over the wire, and whatever is read as a
frame is just what that frame is written as; so frames and their wire forms are in bijection. -/
namespace OnfiFlash.Frame

private theorem ofLittleEndian_pair (value : Nat) :
    ofLittleEndian [UInt8.ofNat value, UInt8.ofNat (value / 256)] = value % 65536 := by
  have read := ofLittleEndian_littleEndian 2 value
  simpa [littleEndian, byteRange] using read

theorem wire_eq (frame : Frame) : frame.wire =
    frame.opcode :: UInt8.ofNat frame.address.length
      :: UInt8.ofNat frame.data.length :: UInt8.ofNat (frame.data.length / 256)
      :: UInt8.ofNat frame.readLength.toNat :: UInt8.ofNat (frame.readLength.toNat / 256)
      :: (frame.address ++ frame.data) := by
  simp [wire, header, littleEndian]

theorem decode_wire (frame : Frame) (wellFormed : frame.WellFormed) :
    decode frame.wire = .ok frame := by
  obtain ⟨fewCycles, littleData⟩ := wellFormed
  simp only [maxAddressLength, maxDataLength] at fewCycles littleData
  have addressLength : (UInt8.ofNat frame.address.length).toNat = frame.address.length := by
    rw [UInt8.toNat_ofNat']
    omega
  have dataLength : frame.data.length % 65536 = frame.data.length := by omega
  have readLength : frame.readLength.toNat % 65536 = frame.readLength.toNat :=
    Nat.mod_eq_of_lt frame.readLength.toNat_lt
  rw [wire_eq, decode]
  simp only [addressLength, ofLittleEndian_pair, dataLength, readLength, List.length_append]
  rw [if_pos ⟨fewCycles, trivial⟩]
  simp

/-- The length of the response can be read off the wire. -/
theorem readLength_wire (frame : Frame) :
    ofLittleEndian ((frame.wire.drop 4).take 2) = frame.readLength.toNat := by
  rw [wire_eq]
  exact (ofLittleEndian_pair _).trans (Nat.mod_eq_of_lt frame.readLength.toNat_lt)

theorem encode_eq (frame : Frame) (wellFormed : frame.WellFormed) :
    frame.encode = .ok frame.wire := by
  simp [encode, validate, wellFormed, bind, Except.bind, pure, Except.pure]

theorem encode_error (frame : Frame) (malformed : ¬ frame.WellFormed) :
    frame.encode = .error .frameTooLarge := by
  simp [encode, validate, malformed, bind, Except.bind]

theorem wellFormed_simple (opcode : UInt8) : (simple opcode).WellFormed :=
  ⟨Nat.zero_le _, Nat.zero_le _⟩

theorem wellFormed_read (opcode : UInt8) (readLength : UInt16) :
    (read opcode readLength).WellFormed :=
  ⟨Nat.zero_le _, Nat.zero_le _⟩

theorem wellFormed_withAddress (opcode : UInt8) {address : List UInt8}
    (few : address.length ≤ maxAddressLength) : (withAddress opcode address).WellFormed :=
  ⟨few, Nat.zero_le _⟩

/-- The lengths in the header account for every byte behind it, and there are no more address cycles
than a frame can carry. -/
def IsWire (bytes : List UInt8) : Prop :=
  headerLength ≤ bytes.length ∧ (bytes.getD 1 0).toNat ≤ maxAddressLength ∧
    bytes.length = headerLength + (bytes.getD 1 0).toNat + ofLittleEndian ((bytes.drop 2).take 2)

theorem isWire_iff (opcode addressLength d0 d1 r0 r1 : UInt8) (body : List UInt8) :
    IsWire (opcode :: addressLength :: d0 :: d1 :: r0 :: r1 :: body) ↔
      addressLength.toNat ≤ maxAddressLength ∧
        body.length = addressLength.toNat + ofLittleEndian [d0, d1] := by
  simp only [IsWire, headerLength, List.length_cons, List.getD_cons_succ, List.getD_cons_zero,
    List.drop_succ_cons, List.drop_zero, List.take_succ_cons, List.take_zero]
  omega

/-- Bytes as long as a header begin with one. -/
theorem exists_header {bytes : List UInt8} (long : headerLength ≤ bytes.length) :
    ∃ opcode addressLength d0 d1 r0 r1 body,
      bytes = opcode :: addressLength :: d0 :: d1 :: r0 :: r1 :: body := by
  rcases bytes with
    _ | ⟨opcode, _ | ⟨addressLength, _ | ⟨d0, _ | ⟨d1, _ | ⟨r0, _ | ⟨r1, body⟩⟩⟩⟩⟩⟩
  iterate 6 exact absurd long (by simp [headerLength])
  exact ⟨_, _, _, _, _, _, _, rfl⟩

theorem decode_error {bytes : List UInt8} (malformed : ¬ IsWire bytes) :
    decode bytes = .error .protocol := by
  unfold decode
  split
  · rw [isWire_iff] at malformed
    exact if_neg malformed
  · rfl

/-- What is read as a frame is the wire form of that frame. -/
theorem exists_of_isWire {bytes : List UInt8} (isWire : IsWire bytes) :
    ∃ frame, decode bytes = .ok frame ∧ frame.WellFormed ∧ frame.wire = bytes := by
  obtain ⟨opcode, addressLength, d0, d1, r0, r1, body, rfl⟩ := exists_header isWire.1
  obtain ⟨few, accounted⟩ := (isWire_iff ..).mp isWire
  have dataLength : (body.drop addressLength.toNat).length = ofLittleEndian [d0, d1] := by
    rw [List.length_drop, accounted, Nat.add_sub_cancel_left]
  have cycles : (body.take addressLength.toNat).length = addressLength.toNat :=
    List.length_take_of_le (accounted ▸ Nat.le_add_right _ _)
  have readLength : (UInt16.ofNat (ofLittleEndian [r0, r1])).toNat = ofLittleEndian [r0, r1] := by
    rw [UInt16.toNat_ofNat']
    exact Nat.mod_eq_of_lt (ofLittleEndian_lt [r0, r1])
  refine ⟨_, if_pos ⟨few, accounted⟩, ⟨?_, ?_⟩, ?_⟩
  · rw [cycles]
    exact few
  · rw [dataLength]
    exact Nat.le_of_lt_succ (ofLittleEndian_lt [d0, d1])
  · rw [wire, header, cycles, dataLength, readLength, UInt8.ofNat_toNat]
    have written (low high : UInt8) : littleEndian 2 (ofLittleEndian [low, high]) = [low, high] :=
      littleEndian_ofLittleEndian [low, high]
    rw [written, written]
    simp

theorem length_wire (frame : Frame) : frame.wire.length = frame.encodedLength := by
  simp only [wire_eq, List.length_cons, List.length_append, encodedLength, headerLength]
  omega

/-- What is written to the buffer in place is the wire form as a whole. -/
theorem overwritten_sections (frame : Frame) (buffer : List UInt8) :
    overwritten (headerLength + frame.address.length) frame.data
        (overwritten headerLength frame.address (overwritten 0 frame.header buffer))
      = overwritten 0 frame.wire buffer := by
  have header : headerLength = 0 + frame.header.length := by
    simp [Frame.header, headerLength]
  have front : headerLength + frame.address.length
      = 0 + (frame.header ++ frame.address).length := by
    rw [List.length_append, ← Nat.add_assoc, ← header]
  rw [front, header, overwritten_append (Nat.zero_le _), overwritten_append (Nat.zero_le _), wire]

/-- What is left to do once the frame is found to be well formed. -/
theorem runOn_store_wellFormed {frame : Frame} (wellFormed : frame.WellFormed)
    (buffer : List UInt8) :
    frame.store.runOn buffer = if buffer.length < frame.encodedLength
      then (.error .frameTooLarge, buffer)
      else (.ok frame.encodedLength, overwritten 0 frame.wire buffer) := by
  rw [store, validate, if_pos wellFormed, Writing.runOn_lift_bind, Writing.runOn_get_bind]
  dsimp only
  split
  · rfl
  · rw [Writing.runOn_put_bind, Writing.runOn_put_bind, Writing.runOn_put_bind,
      overwritten_sections]
    rfl

/-- A frame that finds room is written as a whole to the front of the buffer. -/
theorem runOn_store {frame : Frame} {buffer : List UInt8} (wellFormed : frame.WellFormed)
    (room : frame.encodedLength ≤ buffer.length) :
    frame.store.runOn buffer = (.ok frame.encodedLength, overwritten 0 frame.wire buffer) := by
  rw [runOn_store_wellFormed wellFormed, if_neg (Nat.not_lt.mpr room)]

/-- A frame that is refused leaves the buffer alone. -/
theorem runOn_store_error {frame : Frame} {buffer : List UInt8}
    (refused : ¬ (frame.WellFormed ∧ frame.encodedLength ≤ buffer.length)) :
    frame.store.runOn buffer = (.error .frameTooLarge, buffer) := by
  by_cases wellFormed : frame.WellFormed
  · have tight : buffer.length < frame.encodedLength :=
      Nat.lt_of_not_le fun room => refused ⟨wellFormed, room⟩
    rw [runOn_store_wellFormed wellFormed, if_pos tight]
  · unfold store validate
    rw [if_neg wellFormed]
    rfl

/-- What goes out over a link is what the frame writes to a buffer of just its size. -/
theorem encode_eq_encodeInto (frame : Frame) :
    frame.encode = Prod.fst <$> frame.encodeInto (List.replicate frame.encodedLength 0) := by
  have size : (List.replicate frame.encodedLength (0 : UInt8)).length = frame.encodedLength :=
    List.length_replicate
  unfold encodeInto Writing.into
  by_cases wellFormed : frame.WellFormed
  · rw [encode_eq frame wellFormed, runOn_store wellFormed (Nat.le_of_eq size.symm),
      overwritten_front, length_wire, List.drop_of_length_le (Nat.le_of_eq size), List.append_nil]
    rfl
  · rw [encode_error frame wellFormed, runOn_store_error fun fits => wellFormed fits.1]
    rfl

/-- Writing and reading frames are inverse to each other. A well-formed frame that finds room is
written in just its length, the rest of the buffer stays, and it is read back; bytes that make up
a frame are read as one that is written as these bytes. Any other frame leaves the buffer alone, and
any other bytes are refused. -/
theorem store_decode_inverse :
    (∀ (frame : Frame) (buffer : List UInt8), frame.WellFormed →
      frame.encodedLength ≤ buffer.length →
      ∃ after, frame.store.runOn buffer = (.ok frame.encodedLength, after) ∧
        after.length = buffer.length ∧
        after.drop frame.encodedLength = buffer.drop frame.encodedLength ∧
        decode (after.take frame.encodedLength) = .ok frame) ∧
    (∀ (frame : Frame) (buffer : List UInt8),
      ¬ (frame.WellFormed ∧ frame.encodedLength ≤ buffer.length) →
      frame.store.runOn buffer = (.error .frameTooLarge, buffer)) ∧
    (∀ bytes : List UInt8, IsWire bytes →
      ∃ frame, decode bytes = .ok frame ∧ frame.WellFormed ∧ frame.encode = .ok bytes ∧
        ∀ buffer : List UInt8, bytes.length ≤ buffer.length →
          frame.store.runOn buffer
            = (.ok bytes.length, bytes ++ buffer.drop bytes.length)) ∧
    ∀ bytes : List UInt8, ¬ IsWire bytes → decode bytes = .error .protocol := by
  refine ⟨?_, fun _ _ => runOn_store_error, ?_, fun _ => decode_error⟩
  · intro frame buffer wellFormed room
    have size := length_wire frame
    refine ⟨_, runOn_store wellFormed room, ?_, ?_, ?_⟩
    · exact length_overwritten (by omega)
    · rw [overwritten_front, List.drop_left' size, size]
    · rw [overwritten_front, List.take_left' size]
      exact decode_wire frame wellFormed
  · intro bytes isWire
    obtain ⟨frame, decoded, wellFormed, rfl⟩ := exists_of_isWire isWire
    refine ⟨frame, decoded, wellFormed, encode_eq frame wellFormed, fun buffer room => ?_⟩
    rw [length_wire] at room
    rw [runOn_store wellFormed room, overwritten_front, length_wire]

/-- A program frame finds room in a buffer with three bytes to spare, and not in one a byte too
short; its bytes are read back, and not without the last one. -/
theorem store_decode_inverse_program :
    let frame := write Opcode.programSetup [1, 2] [0xAB]
    let bytes : List UInt8 := [0x80, 2, 1, 0, 0, 0, 1, 2, 0xAB]
    (frame.WellFormed ∧ frame.encodedLength = 9 ∧ ∃ after,
      frame.store.runOn (List.replicate 12 0x55) = (.ok 9, after) ∧ after.length = 12 ∧
        after.drop 9 = List.replicate 3 0x55 ∧ decode (after.take 9) = .ok frame) ∧
    frame.store.runOn (List.replicate 8 0x55) = (.error .frameTooLarge, List.replicate 8 0x55) ∧
    (IsWire bytes ∧ ∃ found, decode bytes = .ok found ∧ found.encode = .ok bytes) ∧
    ¬ IsWire (bytes.take 8) ∧ decode (bytes.take 8) = .error .protocol := by
  intro frame bytes
  obtain ⟨stores, refuses, reads, rejects⟩ := store_decode_inverse
  have wellFormed : frame.WellFormed := by decide
  have room : frame.encodedLength ≤ (List.replicate 12 (0x55 : UInt8)).length := by decide
  have short : ¬ (frame.WellFormed ∧
      frame.encodedLength ≤ (List.replicate 8 (0x55 : UInt8)).length) := by decide
  have isWire : IsWire bytes := by
    unfold IsWire
    decide
  have cut : ¬ IsWire (bytes.take 8) := by
    unfold IsWire
    decide
  obtain ⟨found, decoded, -, encoded, -⟩ := reads bytes isWire
  exact ⟨⟨wellFormed, rfl, stores frame _ wellFormed room⟩, refuses frame _ short,
    ⟨isWire, found, decoded, encoded⟩, cut, rejects _ cut⟩

end OnfiFlash.Frame
