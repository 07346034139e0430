import OnfiFlash.Geometry
import OnfiFlash.Bytes.LittleEndian
import OnfiFlash.Text.Hex

/-! Address cycles. A full address sends the column, then the row, each little-endian and cut
to the cycle count of the device. The row is the page number itself. -/
namespace OnfiFlash.Geometry

/-- The row cycles of a page, sent alone to erase its block. -/
def rowAddress (g : Geometry) (page : Nat) : List UInt8 :=
  littleEndian g.rowCycles page

/-- The full address of byte `column` of a page. -/
def pageAddressAt (g : Geometry) (page column : Nat) : List UInt8 :=
  littleEndian g.columnCycles column ++ g.rowAddress page

/-- The full address of the start of a page. -/
def pageAddress (g : Geometry) (page : Nat) : List UInt8 :=
  g.pageAddressAt page 0

/-- The 32-bit page number carried by row cycles, of which at most eight count. -/
def decodeRow (row : List UInt8) : Nat :=
  ofLittleEndian (row.take maxCycles) % pageLimit

def addressText (cycles : List UInt8) : String :=
  "NandAddress(" ++ bytesHex cycles ++ ")"

end OnfiFlash.Geometry
