import OnfiFlash.Error
import OnfiFlash.Bytes.Buffer
import OnfiFlash.Bytes.Chunks
import OnfiFlash.Bytes.LittleEndian

/-! The index record: the blocks an image occupies, as little-endian 32-bit entries that a
sentinel ends. The record lies at the start of the index page; the rest of the page is kept. -/
namespace OnfiFlash.Index

/-- The entry that ends the record. -/
def sentinel : Nat := 0xFFFFFFFF

def entrySize : Nat := 4

/-- The most blocks that an index page of `bytesPerPage` bytes can list. -/
def capacity (bytesPerPage : Nat) : Nat := bytesPerPage / entrySize - 1

def record (blocks : List Nat) : List UInt8 :=
  (blocks ++ [sentinel]).flatMap (littleEndian entrySize)

/-- Write entries to the slots of a page from `slot` on. -/
def storeEntries : (slot : Nat) → (entries : List Nat) → Writing Error Unit
  | _, [] => return ()
  | slot, entry :: rest => do
    Writing.put (slot * entrySize) (littleEndian entrySize entry)
    storeEntries (slot + 1) rest

/-- Put a block list and the sentinel at the start of a page, over what was there. A list that does
not fit is refused before anything is written. -/
def store (blocks : List Nat) : Writing Error Unit := do
  if (← get).length < (blocks.length + 1) * entrySize then
    throw .indexOverflow
  storeEntries 0 (blocks ++ [sentinel])

def encode (blocks : List Nat) (page : List UInt8) : Except Error (List UInt8) :=
  Prod.fst <$> (store blocks).into page

/-- The whole entries of a page, read as numbers. -/
def entries (page : List UInt8) : List Nat :=
  ((chunks entrySize page).filter fun entry => entry.length == entrySize).map ofLittleEndian

/-- The block list at the start of a page: the entries up to the first that is the sentinel or
no block of a device with `totalBlocks` blocks. -/
def decode (page : List UInt8) (totalBlocks : Nat) : List Nat :=
  (entries page).takeWhile fun entry => entry != sentinel && entry < totalBlocks

theorem length_record (blocks : List Nat) :
    (record blocks).length = (blocks.length + 1) * entrySize := by
  simp only [record, List.length_flatMap, length_littleEndian, List.map_const',
    List.sum_replicate_nat, List.length_append, List.length_singleton]

/-- Entries are written one behind the other. -/
theorem runOn_storeEntries (slot : Nat) (entries : List Nat) {page : List UInt8}
    (room : (slot + entries.length) * entrySize ≤ page.length) :
    (storeEntries slot entries).runOn page
      = (.ok (), overwritten (slot * entrySize) (entries.flatMap (littleEndian entrySize)) page) := by
  induction entries generalizing slot page with
  | nil => rw [List.flatMap_nil, overwritten_nil]; rfl
  | cons entry rest ih =>
    have width : (littleEndian entrySize entry).length = entrySize := length_littleEndian _ _
    have next : (slot + 1) * entrySize = slot * entrySize + (littleEndian entrySize entry).length := by
      rw [width, Nat.succ_mul]
    rw [List.length_cons, ← Nat.add_assoc, Nat.add_right_comm, Nat.add_mul] at room
    have within : slot * entrySize ≤ page.length := by omega
    have kept : (overwritten (slot * entrySize) (littleEndian entrySize entry) page).length
        = page.length := length_overwritten (by omega)
    rw [storeEntries, Writing.runOn_put_bind, ih _ (by rw [kept, Nat.add_mul]; exact room), next,
      overwritten_append within, List.flatMap_cons]

/-- A list that does not fit leaves the page alone. -/
theorem runOn_store_error {blocks : List Nat} {page : List UInt8}
    (long : page.length < (blocks.length + 1) * entrySize) :
    (store blocks).runOn page = (.error .indexOverflow, page) := by
  rw [store, Writing.runOn_get_bind]
  dsimp only
  rw [if_pos long, Writing.runOn_throw_bind]

theorem runOn_store {blocks : List Nat} {page : List UInt8}
    (fits : (blocks.length + 1) * entrySize ≤ page.length) :
    (store blocks).runOn page = (.ok (), overwritten 0 (record blocks) page) := by
  have room : (0 + (blocks ++ [sentinel]).length) * entrySize ≤ page.length := by
    rw [Nat.zero_add, List.length_append, List.length_singleton]
    exact fits
  rw [store, Writing.runOn_get_bind]
  dsimp only
  rw [if_neg (Nat.not_lt.mpr fits), runOn_storeEntries 0 _ room, Nat.zero_mul, record]

theorem encode_eq (blocks : List Nat) (page : List UInt8) :
    encode blocks page = if page.length < (blocks.length + 1) * entrySize
      then .error .indexOverflow
      else .ok (record blocks ++ page.drop ((blocks.length + 1) * entrySize)) := by
  rcases Nat.lt_or_ge page.length ((blocks.length + 1) * entrySize) with long | fits
  · rw [encode, Writing.into, runOn_store_error long, if_pos long]
    rfl
  · rw [encode, Writing.into, runOn_store fits, if_neg (Nat.not_lt.mpr fits), overwritten_front,
      length_record]
    rfl

end OnfiFlash.Index
