import OnfiFlash.Proofs.AddressFidelity
import OnfiFlash.Proofs.Exchanges

/-! What a session exchanges with a device to load a page and to program one. Each way to end is a
case of its own: what it comes to, where it leaves the chip and what was exchanged until then. -/
namespace OnfiFlash

namespace Frame

def latch (g : Geometry) (page : Nat) : Frame :=
  .withAddress Opcode.readMode (g.pageAddress page)

def load : Frame := .simple Opcode.readStart

/-- Hand over the data of a page. -/
def setup (g : Geometry) (page : Nat) (data : List UInt8) : Frame :=
  .write Opcode.programSetup (g.pageAddress page) data

/-- Program the data handed over. -/
def confirm : Frame := .simple Opcode.programConfirm

variable {g : Geometry}

theorem wellFormed_latch (valid : g.Valid) (page : Nat) : (latch g page).WellFormed :=
  wellFormed_withAddress _ (valid.dimensions.pageAddress_le page)

theorem wellFormed_setup (valid : g.Valid) (page : Nat) {data : List UInt8}
    (fits : data.length ≤ g.rawPageSize) : (setup g page data).WellFormed :=
  ⟨valid.dimensions.pageAddress_le page, Nat.le_trans fits valid.dimensions.rawPageSize⟩

end Frame

/-- How loading a page ends: what it comes to, where the chip is taken to be afterwards and what was
exchanged. -/
inductive Loading (g : Geometry) (page : Nat) (before : ChipState) :
    Except Error Status → ChipState → List Exchange → Prop where
  /-- The address is not sent; nothing becomes of the chip. -/
  | unlatched (e : Error) : Loading g page before (.error e) before [⟨.latch g page, .error e⟩]
  | unstarted (e : Error) :
      Loading g page before (.error e) .addressLoaded
        [.sent (.latch g page), ⟨.load, .error e⟩]
  | unsettled {e : Error} {waited : List Exchange} (waits : Waits (.error e) waited) :
      Loading g page before (.error e) .idle (.sent (.latch g page) :: .sent .load :: waited)
  /-- The device reports the error bit. -/
  | failed (wait : Wait) (isError : wait.ready.isError = true) :
      Loading g page before (.error (.read page)) .idle
        (.sent (.latch g page) :: .sent .load :: wait.exchanges)
  | loaded (wait : Wait) (noError : wait.ready.isError = false) :
      Loading g page before (.ok wait.ready) .reading
        (.sent (.latch g page) :: .sent .load :: wait.exchanges)

/-- How programming a page ends: what it comes to and what was exchanged. -/
inductive Programming (g : Geometry) (page : Nat) (data : List UInt8) :
    Except Error Status → List Exchange → Prop where
  /-- It is not known whether the device may be written to. -/
  | unasked (e : Error) : Programming g page data (.error e) [⟨Exchange.statusFrame, .error e⟩]
  | refused {shown : Status} (locked : shown.isWriteEnabled = false) :
      Programming g page data (.error .writeProtected) [.status shown]
  | unsent {shown : Status} (permits : shown.isWriteEnabled = true) (e : Error) :
      Programming g page data (.error e) [.status shown, ⟨.setup g page data, .error e⟩]
  | unconfirmed {shown : Status} (permits : shown.isWriteEnabled = true) (e : Error) :
      Programming g page data (.error e)
        [.status shown, .sent (.setup g page data), ⟨.confirm, .error e⟩]
  | waited {shown : Status} (permits : shown.isWriteEnabled = true)
      {result : Except Error Status} {waited : List Exchange} (waits : Waits result waited) :
      Programming g page data result
        (.status shown :: .sent (.setup g page data) :: .sent .confirm :: waited)

namespace Operation

variable {session : Session} {page : Nat}

theorem trades_loadPage (inRange : page < session.geometry.totalPages) :
    (loadPage page).Trades session fun result left said =>
      left.geometry = session.geometry ∧
        Loading session.geometry page session.state result left.state said := by
  refine trades_geometry_bind (trades_require_bind (Geometry.checkPage_eq inRange) ?_)
  refine trades_send_bind (Frame.wellFormed_latch session.valid page) rfl
    (fun e => ⟨rfl, .unlatched e⟩) (trades_enter_bind ?_)
  refine trades_send_bind (Frame.wellFormed_simple _) rfl
    (fun e => ⟨rfl, .unstarted e⟩) (trades_enter_bind ?_)
  refine trades_waitReady_bind (fun _ _ waits => ⟨rfl, .unsettled waits⟩) fun wait => ?_
  dsimp only
  split
  · next isError =>
    refine trades_throw_bind ⟨rfl, ?_⟩
    rw [List.append_nil]
    exact .failed wait isError
  · next noError =>
    refine trades_enter_bind (trades_pure ⟨rfl, ?_⟩)
    rw [List.append_nil]
    exact .loaded wait (Bool.eq_false_iff.mpr noError)

theorem trades_programPage {data : List UInt8} (inRange : page < session.geometry.totalPages)
    (fits : data.length ≤ session.geometry.rawPageSize) :
    (programPage page data).Trades session fun result left said =>
      left.geometry = session.geometry ∧
        Programming session.geometry page data result said := by
  refine trades_geometry_bind (trades_require_bind (Geometry.checkPage_eq inRange) ?_)
  dsimp only
  rw [if_neg (Nat.not_lt.mpr fits)]
  refine trades_readStatus_bind (fun e => ⟨rfl, .unasked e⟩) fun shown => ?_
  split
  · next locked => exact trades_throw_bind ⟨rfl, .refused (by simpa using locked)⟩
  · next permits =>
    replace permits : shown.isWriteEnabled = true := by simpa using permits
    refine trades_enter_bind ?_
    refine trades_send_bind (Frame.wellFormed_setup session.valid page fits) rfl
      (fun e => ⟨rfl, .unsent permits e⟩) ?_
    refine trades_send_bind (Frame.wellFormed_simple _) rfl
      (fun e => ⟨rfl, .unconfirmed permits e⟩) ?_
    refine trades_waitReady_bind (fun _ _ waits => ⟨rfl, .waited permits waits⟩) fun wait => ?_
    refine trades_enter_bind (trades_pure ⟨rfl, ?_⟩)
    rw [List.append_nil]
    exact .waited permits (.settled wait)

end Operation
end OnfiFlash
