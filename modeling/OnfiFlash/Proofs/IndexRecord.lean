import OnfiFlash.Image.Index
import OnfiFlash.Proofs.Pieces

/-! The index record: whatever the page held before, decoding it gives back the blocks that were
encoded, since the sentinel ends the record before the bytes that are kept. The other way round,
storing what a page decodes to touches only the entry at which the decoding stopped. -/
namespace OnfiFlash.Index

variable {blocks : List Nat} {page contents : List UInt8}

theorem encode_error (long : page.length < (blocks.length + 1) * entrySize) :
    encode blocks page = .error .indexOverflow := by
  rw [encode_eq, if_pos long]

theorem encode_ok (fits : (blocks.length + 1) * entrySize ≤ page.length) :
    encode blocks page = .ok (record blocks ++ page.drop ((blocks.length + 1) * entrySize)) := by
  rw [encode_eq, if_neg (Nat.not_lt.mpr fits)]

theorem listing_fits (entry : entrySize ≤ page.length)
    (few : blocks.length ≤ capacity page.length) :
    (blocks.length + 1) * entrySize ≤ page.length := by
  simp only [capacity, entrySize] at *
  omega

theorem of_encode (encoded : encode blocks page = .ok contents) :
    (blocks.length + 1) * entrySize ≤ page.length ∧
      contents = record blocks ++ page.drop ((blocks.length + 1) * entrySize) := by
  rcases Nat.lt_or_ge page.length ((blocks.length + 1) * entrySize) with long | fits
  · rw [encode_error long] at encoded
    cases encoded
  · rw [encode_ok fits] at encoded
    cases encoded
    exact ⟨fits, rfl⟩

theorem length_encode (encoded : encode blocks page = .ok contents) :
    contents.length = page.length := by
  obtain ⟨fits, rfl⟩ := of_encode encoded
  rw [List.length_append, length_record, List.length_drop]
  omega

/-- What a page holds at its very front does not show in it once a record is put there. -/
theorem encode_congr {other : List UInt8} (length : other.length = page.length)
    (tails : ∀ count, 0 < count → other.drop count = page.drop count) (blocks : List Nat) :
    encode blocks other = encode blocks page := by
  have positive : 0 < (blocks.length + 1) * entrySize := Nat.mul_pos (Nat.succ_pos _) (by decide)
  rw [encode_eq, encode_eq, length, tails _ positive]

/-- The entries of a page that starts with the stored form of some numbers. -/
theorem entries_append (numbers : List Nat) (rest : List UInt8) :
    entries (numbers.flatMap (littleEndian entrySize) ++ rest)
      = numbers.map (· % byteRange entrySize) ++ entries rest := by
  induction numbers with
  | nil => rfl
  | cons number others ih =>
    have whole : (littleEndian entrySize number).length = entrySize := length_littleEndian _ _
    rw [List.flatMap_cons, List.append_assoc, entries, chunks_append (by decide) whole,
      List.filter_cons_of_pos (by simp [whole]), List.map_cons, ofLittleEndian_littleEndian,
      List.map_cons, List.cons_append, ← ih, entries]

/-- Blocks of a device with fewer than 2³² blocks are decoded as they were encoded. -/
theorem decode_encode {total : Nat} (encoded : encode blocks page = .ok contents)
    (small : total ≤ sentinel) (listed : ∀ block ∈ blocks, block < total) :
    decode contents total = blocks := by
  obtain ⟨-, rfl⟩ := of_encode encoded
  have exact : ∀ number, number ≤ sentinel → number % byteRange entrySize = number :=
    fun number least => Nat.mod_eq_of_lt (Nat.lt_of_le_of_lt least (by decide))
  have kept : (blocks ++ [sentinel]).map (· % byteRange entrySize) = blocks ++ [sentinel] := by
    refine (List.map_congr_left fun number inList => exact number ?_).trans (List.map_id _)
    rcases List.mem_append.mp inList with block | last
    · exact Nat.le_trans (Nat.le_of_lt (listed number block)) small
    · exact Nat.le_of_eq (List.mem_singleton.mp last)
  rw [decode, record, entries_append, kept, List.append_assoc,
    List.takeWhile_append_of_pos (fun block inList => ?_)]
  · simp
  · have below := listed block inList
    simp only [bne_iff_ne, Bool.and_eq_true, decide_eq_true_eq, ne_eq]
    omega

theorem lt_of_mem_decode {total block : Nat} (listed : block ∈ decode page total) :
    block < total := by
  have passed := List.all_eq_true.mp List.all_takeWhile block listed
  simp only [Bool.and_eq_true, decide_eq_true_eq] at passed
  exact passed.2

theorem entries_cons (whole : entrySize ≤ page.length) :
    entries page = ofLittleEndian (page.take entrySize) :: entries (page.drop entrySize) := by
  have nonempty : page ≠ [] := List.ne_nil_of_length_pos (Nat.lt_of_lt_of_le (by decide) whole)
  have width : (page.take entrySize).length = entrySize := List.length_take_of_le whole
  rw [entries, chunks_cons (by decide) nonempty, List.filter_cons_of_pos (by simp [width]),
    List.map_cons, entries]

/-- Fewer bytes than make an entry are none. -/
theorem entries_short (short : page.length < entrySize) : entries page = [] := by
  by_cases empty : page = []
  · rw [empty]
    rfl
  · have all := Nat.le_of_lt short
    rw [entries, chunks_cons (by decide) empty, List.take_of_length_le all,
      List.drop_of_length_le all, List.filter_cons_of_neg (by simpa using Nat.ne_of_lt short)]
    rfl

theorem length_entries (page : List UInt8) : (entries page).length = page.length / entrySize := by
  induction length : page.length using Nat.strongRecOn generalizing page with
  | ind _ ih =>
    subst length
    rcases Nat.lt_or_ge page.length entrySize with short | whole
    · rw [entries_short short, Nat.div_eq_of_lt short]
      rfl
    · have less : (page.drop entrySize).length < page.length := by
        rw [List.length_drop]
        exact Nat.sub_lt (Nat.lt_of_lt_of_le (by decide) whole) (by decide)
      rw [entries_cons whole, List.length_cons, ih _ less _ rfl, List.length_drop,
        Nat.div_eq_sub_div (by decide) whole]

theorem lt_length_entries_iff {slot : Nat} :
    slot < (entries page).length ↔ (slot + 1) * entrySize ≤ page.length := by
  rw [length_entries, ← Nat.succ_le_iff, Nat.le_div_iff_mul_le (by decide)]

/-- Entries that a page holds are stored the way they stand there. -/
theorem flatMap_take_entries {count : Nat} (within : count ≤ (entries page).length) :
    ((entries page).take count).flatMap (littleEndian entrySize)
      = page.take (count * entrySize) := by
  induction count generalizing page with
  | zero => rw [Nat.zero_mul]; rfl
  | succ count ih =>
    have whole : entrySize ≤ page.length := by
      rw [length_entries, Nat.succ_le_iff] at within
      exact (Nat.div_pos_iff.mp (Nat.zero_lt_of_lt within)).2
    have width : (page.take entrySize).length = entrySize := List.length_take_of_le whole
    have front := littleEndian_ofLittleEndian (page.take entrySize)
    rw [width] at front
    rw [entries_cons whole, List.length_cons, Nat.succ_le_succ_iff] at within
    rw [entries_cons whole, List.take_succ_cons, List.flatMap_cons, ih within, front, Nat.succ_mul,
      Nat.add_comm, List.take_add]

theorem decode_eq_take (page : List UInt8) (total : Nat) :
    decode page total = (entries page).take (decode page total).length :=
  List.prefix_iff_eq_take.mp (List.takeWhile_prefix _)

/-- What ends the decoding is the sentinel or no block of the device. -/
theorem stopped_of_decode {total stopped : Nat}
    (found : (entries page)[(decode page total).length]? = some stopped) :
    stopped = sentinel ∨ total ≤ stopped := by
  have ended := List.head?_dropWhile_not (fun entry => entry != sentinel && entry < total)
    (entries page)
  rw [← List.takeWhile_append_dropWhile
      (p := fun entry => entry != sentinel && entry < total) (l := entries page), decode,
    List.getElem?_append_right (Nat.le_refl _), Nat.sub_self, ← List.head?_eq_getElem?] at found
  rw [found] at ended
  simp only [Bool.and_eq_false_iff, bne_eq_false_iff_eq, decide_eq_false_iff_not, Nat.not_lt]
    at ended
  exact ended

/-- Storing what was decoded puts back the entries before the one that ended the decoding. -/
theorem store_decode {total : Nat} (room : (decode page total).length < (entries page).length) :
    (store (decode page total)).runOn page
      = (.ok (), overwritten ((decode page total).length * entrySize)
          (littleEndian entrySize sentinel) page) := by
  have fits := lt_length_entries_iff.mp room
  have front : (decode page total).flatMap (littleEndian entrySize)
      = page.take ((decode page total).length * entrySize) := by
    conv => lhs; rw [decode_eq_take, flatMap_take_entries (Nat.le_of_lt room)]
  rw [runOn_store fits, overwritten_front, length_record, record, List.flatMap_append, front,
    List.flatMap_singleton, overwritten, length_littleEndian, Nat.succ_mul]

/-- If the entry that ended the decoding is the sentinel, the page is the stored form already. -/
theorem store_decode_sentinel {total : Nat}
    (found : (entries page)[(decode page total).length]? = some sentinel) :
    overwritten ((decode page total).length * entrySize) (littleEndian entrySize sentinel) page
      = page := by
  obtain ⟨room, isSentinel⟩ := List.getElem?_eq_some_iff.mp found
  have front := flatMap_take_entries room
  rw [List.take_succ_eq_append_getElem room, isSentinel, List.flatMap_append,
    flatMap_take_entries (Nat.le_of_lt room), List.flatMap_singleton, Nat.succ_mul] at front
  rw [overwritten, front, length_littleEndian, List.take_append_drop]

theorem length_le_capacity_iff (whole : entrySize ≤ page.length) :
    blocks.length ≤ capacity page.length ↔ (blocks.length + 1) * entrySize ≤ page.length := by
  simp only [capacity, entrySize] at *
  omega

/-- The record and the page. A list of a device's blocks goes on a page exactly if the page has
entries for them and for the sentinel; decoding then gives the list back and the bytes behind the
sentinel stand. Storing what a page decodes to changes no byte but those of the entry that ended
the decoding, and none if that is the sentinel. -/
theorem record_codec {total : Nat} (small : total < limit32) (page : List UInt8) :
    (entrySize ≤ page.length → ∀ blocks : List Nat, (∀ block ∈ blocks, block < total) →
      if blocks.length ≤ capacity page.length then
        ∃ after, (store blocks).runOn page = (.ok (), after) ∧
          after.length = page.length ∧
          decode after total = blocks ∧
          after.drop ((blocks.length + 1) * entrySize)
            = page.drop ((blocks.length + 1) * entrySize)
      else (store blocks).runOn page = (.error .indexOverflow, page)) ∧
    match (entries page)[(decode page total).length]? with
    | none => (store (decode page total)).runOn page = (.error .indexOverflow, page)
    | some stopped =>
      (stopped = sentinel ∨ total ≤ stopped) ∧
        ∃ after, (store (decode page total)).runOn page = (.ok (), after) ∧
          after.length = page.length ∧
          (∀ place, ¬ ((decode page total).length * entrySize ≤ place ∧
              place < ((decode page total).length + 1) * entrySize) →
            after[place]? = page[place]?) ∧
          (stopped = sentinel → after = page) := by
  refine ⟨fun whole blocks listed => ?_, ?_⟩
  · split
    next listable =>
      have fits := (length_le_capacity_iff whole).mp listable
      refine ⟨_, runOn_store fits, length_overwritten ?_, ?_, ?_⟩
      · rw [length_record, Nat.zero_add]
        exact fits
      · rw [overwritten_front, length_record]
        exact decode_encode (encode_ok fits) (Nat.le_of_lt_succ small) listed
      · rw [← length_record, ← Nat.zero_add (record blocks).length]
        exact drop_overwritten (Nat.zero_le _)
    next long =>
      exact runOn_store_error
        (Nat.lt_of_not_le fun fits => long ((length_le_capacity_iff whole).mpr fits))
  · split
    next none =>
      refine runOn_store_error (Nat.lt_of_not_le fun fits => ?_)
      exact Nat.not_lt.mpr (List.getElem?_eq_none_iff.mp none) (lt_length_entries_iff.mpr fits)
    next stopped found =>
      have room := (List.getElem?_eq_some_iff.mp found).1
      have within : (decode page total).length * entrySize + (littleEndian entrySize sentinel).length
          ≤ page.length := by
        rw [length_littleEndian, ← Nat.succ_mul]
        exact lt_length_entries_iff.mp room
      refine ⟨stopped_of_decode found, _, store_decode room, length_overwritten within, ?_, ?_⟩
      · intro place outside
        refine getElem?_overwritten within fun inside => outside ?_
        rw [length_littleEndian, ← Nat.succ_mul] at inside
        exact inside
      · rintro rfl
        exact store_decode_sentinel found

/-- Two whole entries, one of them no block of a device with five blocks, then an odd rest. -/
theorem record_codec_foreign_entry :
    5 < limit32 ∧
      (∃ after, (store [3]).runOn [4, 0, 0, 0, 9, 0, 0, 0, 7, 7] = (.ok (), after) ∧
        decode after 5 = [3] ∧ after.drop 8 = [7, 7]) ∧
      ∃ after, (store (decode [4, 0, 0, 0, 9, 0, 0, 0, 7, 7] 5)).runOn
          [4, 0, 0, 0, 9, 0, 0, 0, 7, 7] = (.ok (), after) ∧
        ∀ place, ¬ (4 ≤ place ∧ place < 8) →
          after[place]? = ([4, 0, 0, 0, 9, 0, 0, 0, 7, 7] : List UInt8)[place]? := by
  have small : 5 < limit32 := by decide
  obtain ⟨stored, restored⟩ := record_codec small [4, 0, 0, 0, 9, 0, 0, 0, 7, 7]
  have decoded : decode [4, 0, 0, 0, 9, 0, 0, 0, 7, 7] 5 = [4] := by decide
  have stopped : (entries [4, 0, 0, 0, 9, 0, 0, 0, 7, 7])[1]? = some 9 := by decide
  rw [decoded] at restored ⊢
  rw [List.length_singleton, stopped] at restored
  obtain ⟨after, written, -, listed, kept⟩ := stored (by decide) [3] (by decide)
  obtain ⟨-, again, rewritten, -, outside, -⟩ := restored
  exact ⟨small, ⟨after, written, listed, kept⟩, again, rewritten, outside⟩

end OnfiFlash.Index
