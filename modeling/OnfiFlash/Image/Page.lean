import OnfiFlash.BadBlock.Scan

/-! Pages of an image. Each carries its data, filled up with zeros, and a mark in the spare area
clear of the bad-block marker, so that an image that ends in erased-looking pages keeps its
length. A device with too little spare area does without the mark. -/
namespace OnfiFlash

def erasedByte : UInt8 := 0xFF

namespace Image

def markOffset : Nat := 2

def mark : UInt8 := 0x00

/-- The bytes programmed for a page: the main area, then the spare area up to the mark. -/
def markedLength (g : Geometry) : Nat :=
  if markOffset < g.sparePerPage then g.bytesPerPage + markOffset + 1 else g.bytesPerPage

/-- Data filled up with zeros to `size` bytes. -/
def zeroPadded (size : Nat) (data : List UInt8) : List UInt8 :=
  data ++ List.replicate (size - data.length) 0

/-- What the spare area of an image page is programmed to. -/
def markBytes (g : Geometry) : List UInt8 :=
  if markOffset < g.sparePerPage then List.replicate markOffset erasedByte ++ [mark] else []

/-- The bytes programmed for a piece of an image. -/
def pageContents (g : Geometry) (piece : List UInt8) : List UInt8 :=
  zeroPadded g.bytesPerPage piece ++ markBytes g

/-- Does a page read back as `raw` carry the mark? Up to half of its bits may have flipped. -/
def isMarked (g : Geometry) (raw : List UInt8) : Bool :=
  match raw[g.bytesPerPage + markOffset]? with
  | some byte => bitCount (byte ^^^ mark) ≤ 4
  | none => false

def isErased (data : List UInt8) : Bool := data.all (· == erasedByte)

end Image
end OnfiFlash
