import OnfiFlash.Proofs.PageWriting

/-! Searching a block to write to. A search erases the block it finds and no other: a block it
passes over is a block that it did not try to erase, or one that cannot be erased. -/
namespace OnfiFlash

namespace Flash

theorem cells_erase_of_ne (flash : Flash) {page block : Nat}
    (different : page / flash.config.pagesPerBlock ≠ block) :
    (flash.erase block).cells page = flash.cells page := by
  unfold erase
  split
  · rfl
  · exact if_neg different

theorem cells_erase {flash : Flash} {page block : Nat} (accepted : flash.refuses block = false)
    (inBlock : page / flash.config.pagesPerBlock = block) :
    (flash.erase block).cells page = flash.config.erasedPage := by
  rw [erase_of_accepts accepted]
  exact if_pos inBlock

/-- How a search from a block up to another comes out: the block found was erased, or at most one
block was erased and is lost. -/
def Searched (first last : Nat) (flash after : Flash) : Except Error (Nat × WriteStats) → Prop
  | .ok (block, _) =>
    first ≤ block ∧ block < last ∧ flash.refuses block = false ∧ after = flash.erase block
  | .error _ => after = flash ∨ ∃ block, first ≤ block ∧ block < last ∧ after = flash.erase block

theorem Searched.widen {first last : Nat} {flash after : Flash}
    {result : Except Error (Nat × WriteStats)}
    (searched : Searched (first + 1) last flash after result) :
    Searched first last flash after result := by
  cases result with
  | ok found => exact ⟨Nat.le_of_succ_le searched.1, searched.2⟩
  | error e =>
    rcases searched with same | ⟨block, behind, lost⟩
    · exact .inl same
    · exact .inr ⟨block, Nat.le_of_succ_le behind, lost⟩

end Flash

namespace Operation

variable {base : Session} {d : Device}

theorem findBlock_searches (valid : base.geometry.Valid) (covers : base.geometry.RowsCover)
    (start count block : Nat) (stats : WriteStats)
    (onDevice : block + count ≤ base.geometry.totalBlocks) :
    (findBlock start count block stats).Effects base d fun result after said =>
      Flash.Searched block (block + count) d.flash after.flash result ∧
        said.countP Progress.isWritten = 0 := by
  induction count generalizing d block stats with
  | zero => exact effects_note_bind (effects_throw ⟨.inl rfl, rfl⟩)
  | succ count ih =>
    have skip : ∀ {d' : Device} stats, d'.flash = d.flash →
        (findBlock start count (block + 1) stats).Effects base d' fun result after said =>
          Flash.Searched block (block + (count + 1)) d.flash after.flash result ∧
            said.countP Progress.isWritten = 0 := by
      intro d' stats same
      refine (ih (block + 1) stats (by omega)).mono fun result after said reached => ?_
      obtain ⟨searched, uncounted⟩ := reached
      rw [same, Nat.add_right_comm] at searched
      exact ⟨searched.widen, uncounted⟩
    refine .bind (reads_reading.isKnownBad block d) ?_ ?_
    · rintro e after said ⟨same, rfl⟩
      exact ⟨.inl same, rfl⟩
    · rintro bad after said ⟨same, rfl⟩
      cases bad with
      | true => exact effects_note_bind (skip _ same)
      | false =>
        refine effects_progress_bind (effects_bind ?_)
        refine .eraseBlock valid covers (by omega) (fun _ => ?_) fun _ status reports => ?_
        · rw [same]
          exact ⟨.inr ⟨block, Nat.le_refl _, by omega, rfl⟩, rfl⟩
        · rw [same] at reports
          dsimp only
          split
          · next refused =>
            have unchanged := Flash.erase_of_refuses (reports ▸ refused)
            refine effects_note_bind ((skip _ ?_).mono ?_)
            · rw [same]
              exact unchanged
            · exact fun _ _ _ reached => reached
          · next accepted =>
            have found : d.flash.refuses block = false :=
              reports ▸ Bool.eq_false_iff.mpr accepted
            refine effects_pure ?_
            rw [same]
            exact ⟨⟨Nat.le_refl _, by omega, found, rfl⟩, rfl⟩

theorem nextGoodBlock_searches (valid : base.geometry.Valid) (covers : base.geometry.RowsCover)
    {start : Nat} (stats : WriteStats) (onDevice : start ≤ base.geometry.totalBlocks) :
    (nextGoodBlock start stats).Effects base d fun result after said =>
      Flash.Searched start base.geometry.totalBlocks d.flash after.flash result ∧
        said.countP Progress.isWritten = 0 := by
  have whole : start + (base.geometry.totalBlocks - start) = base.geometry.totalBlocks := by omega
  have searched := findBlock_searches (d := d) valid covers start
    (base.geometry.totalBlocks - start) start stats (Nat.le_of_eq whole)
  rw [whole] at searched
  exact .geometry_bind searched

end Operation
end OnfiFlash
