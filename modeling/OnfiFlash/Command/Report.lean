import OnfiFlash.Bytes.Chunks
import OnfiFlash.Remark
import OnfiFlash.Session.Basic
import OnfiFlash.Status
import OnfiFlash.Text.Quoted

/-! What commands print: sizes, hex dumps and reports on a device. -/
namespace OnfiFlash.Report

/-- A byte count in the largest binary unit it reaches, rounded down. -/
def sizeText (bytes : Nat) : String :=
  let kilo := 1024
  let mega := 1024 * kilo
  let giga := 1024 * mega
  if giga ≤ bytes then toString (bytes / giga) ++ " GiB"
  else if mega ≤ bytes then toString (bytes / mega) ++ " MiB"
  else if kilo ≤ bytes then toString (bytes / kilo) ++ " KiB"
  else toString bytes ++ " B"

/-- A printable ASCII byte as it is, any other as a dot. -/
def visibleChar (byte : UInt8) : Char :=
  if 0x20 ≤ byte ∧ byte ≤ 0x7E then Char.ofNat byte.toNat else '.'

/-- One line of a hex dump, for up to sixteen bytes. -/
def hexdumpLine (offset : Nat) (bytes : List UInt8) : String :=
  let hex := padRight 47 (" ".intercalate (bytes.map fun byte => lowerHex 2 byte.toNat))
  let visible := String.ofList (bytes.map visibleChar)
  let label := lowerHex 8 offset
  s!"{label}  {hex}  |{visible}|"

/-- Bytes as lines of a hex dump, labelled from `offset` on. -/
def hexdump (offset : Nat) (bytes : List UInt8) : List String :=
  (chunks 16 bytes).mapIdx fun i line => hexdumpLine (offset + i * 16) line

def info (session : Session) (status : Status) : List String :=
  let g := session.geometry
  let field (label value : String) : String := padRight 17 (label ++ ":") ++ value
  let jedec := match session.jedecId with
    | some (manufacturer, device) => byteHex manufacturer ++ " " ++ byteHex device
    | none => "unknown"
  let total := sizeText g.totalSize
  let block := sizeText g.blockSize
  [ "NAND Flash Information", "======================", "",
    field "Vendor" g.vendor,
    field "Model" g.model,
    field "JEDEC ID" jedec,
    field "On-die ECC" (if session.internalEcc then "enabled" else "off"),
    field "Size" (toString g.totalSize ++ s!" bytes ({total})"),
    field "Page size" (toString g.bytesPerPage ++ " + " ++ toString g.sparePerPage
      ++ " bytes spare"),
    field "Block size" (toString g.pagesPerBlock ++ s!" pages ({block})"),
    field "Blocks" (toString g.totalBlocks ++ " (" ++ toString g.blocksPerUnit
      ++ " per unit x " ++ toString g.unitCount ++ " unit(s))"),
    field "Address cycles" (toString g.rowCycles ++ " row, " ++ toString g.columnCycles
      ++ " column"),
    field "Write protect" (if status.isWriteEnabled then "disabled" else "enabled") ]

def badBlocks (table : BadBlockTable) : List String :=
  if table.isEmpty then
    ["No bad blocks found"]
  else
    let count := table.size
    let total := table.total
    s!"{count} bad block(s) of {total}:" :: table.toList.map fun block =>
      "  block " ++ padLeft 5 ' ' (toString block) ++ " (0x" ++ upperHex 4 block ++ ")"

/-- The report on a raw page, main and spare area apart. -/
def page (number mainSize : Nat) (data : List UInt8) : List String :=
  let label := upperHex 1 number
  let main := s!"Page {number} (0x{label}):" :: hexdump 0 (data.take mainSize)
  let spare := data.drop mainSize
  if spare.isEmpty then main else main ++ "Spare:" :: hexdump mainSize spare

def numbers (ns : List Nat) : String := "[" ++ ", ".intercalate (ns.map toString) ++ "]"

def writeStats (stats : WriteStats) : String :=
  toString stats.written ++ " pages written, " ++ toString stats.erased ++ " blocks erased, "
    ++ toString stats.skipped ++ " blocks skipped, " ++ toString stats.retries ++ " retries"

/-- What a remark adds to a command's output. -/
def shown : Remark → String
  | .printed text => text
  | .progress (.complete stats) => writeStats stats ++ "\n"
  | _ => ""

/-- The output of a command by its transcript. -/
def output (transcript : List Dialogue.Entry) : String :=
  String.join <| transcript.map fun entry => match entry with
    | .remarked said => shown said
    | .exchanged _ _ => ""

end OnfiFlash.Report
