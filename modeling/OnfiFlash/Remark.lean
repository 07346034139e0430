import OnfiFlash.Error

/-! What an operation says while it runs: notices for the log, steps of
its progress and text for the user. -/
namespace OnfiFlash

inductive Severity where
  | warning
  | error
deriving DecidableEq, Repr

structure Notice where
  severity : Severity
  text : String
deriving DecidableEq, Repr

def Notice.warning (text : String) : Notice := ⟨.warning, text⟩

def Notice.error (text : String) : Notice := ⟨.error, text⟩

structure WriteStats where
  /-- Blocks erased, the index block included. -/
  erased : Nat := 0
  /-- Blocks passed over because they were bad or failed to erase. -/
  skipped : Nat := 0
  /-- Pages programmed and verified. -/
  written : Nat := 0
  /-- Page writes that had to be repeated. -/
  retries : Nat := 0
deriving DecidableEq, Repr

inductive Progress where
  /-- A write of `pages` pages begins. -/
  | writing (pages : Nat)
  /-- `block` is about to be erased. -/
  | erasing (block : Nat)
  /-- `pages` pages have been verified so far. -/
  | written (pages : Nat)
  /-- Writing `page` failed and is tried again. -/
  | retry (page attempt : Nat) (cause : Error)
  /-- A read of `pages` pages begins. -/
  | reading (pages : Nat)
  /-- `pages` pages have been read so far. -/
  | read (pages : Nat)
  /-- The write is complete. -/
  | complete (stats : WriteStats)
deriving DecidableEq, Repr

/-- Something said while an operation runs. -/
inductive Remark where
  | notice (notice : Notice)
  | progress (step : Progress)
  /-- Text for the user. -/
  | printed (text : String)
deriving DecidableEq, Repr

end OnfiFlash
