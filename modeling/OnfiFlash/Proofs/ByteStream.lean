import Mathlib.Algebra.GroupWithZero.Nat
import Mathlib.Data.List.SplitLengths
import OnfiFlash.Usb.Bridge

/-! The byte stream that a USB bridge reads. Packets and requests do not line up, so a transfer may
bring more than is missing and leave a packet half taken; but what is stashed and what has yet to
arrive make up one stream, and reads take it from the front without loss. -/
namespace OnfiFlash.Usb

/-- The packets that stay when a transfer has taken up to `request` bytes of the first. -/
def takenFrom (request : Nat) (packet : List UInt8) (rest : List (List UInt8)) :
    List (List UInt8) :=
  match packet.drop request with
  | [] => rest
  | excess => excess :: rest

theorem take_append_takenFrom (request : Nat) (packet : List UInt8) (rest : List (List UInt8)) :
    packet.take request ++ (takenFrom request packet rest).flatten = (packet :: rest).flatten := by
  have whole := List.take_append_drop request packet
  unfold takenFrom
  split
  · next used =>
    rw [used, List.append_nil] at whole
    rw [whole, List.flatten_cons]
  · rw [List.flatten_cons, List.flatten_cons, ← List.append_assoc, whole]

theorem takenFrom_nonempty {rest : List (List UInt8)} (nonempty : ∀ other ∈ rest, other ≠ [])
    (request : Nat) (packet : List UInt8) :
    ∀ other ∈ takenFrom request packet rest, other ≠ [] := by
  unfold takenFrom
  split
  · exact nonempty
  · next excess remains =>
    intro other among
    rcases List.mem_cons.mp among with rfl | later
    · exact remains
    · exact nonempty other later

/-- A request that is submitted to an idle endpoint is settled by the packet that arrives next. -/
theorem Pipes.waitIn_submitIn {pipes : Pipes} {packet : List UInt8} {rest : List (List UInt8)}
    (arrives : pipes.inward = { events := (packet :: rest).map .data })
    (request milliseconds : Nat) :
    (pipes.submitIn request).waitIn milliseconds = (some (.ok (packet.take request)), { pipes with
      inward := { events := (takenFrom request packet rest).map .data }
      calls := .wait inEndpoint milliseconds :: .submitIn request :: pipes.calls }) := by
  simp only [submitIn, waitIn, called, arrives, Endpoint.submit, Endpoint.settle, List.map_cons,
    List.nil_append, Nat.lt_irrefl, if_false, List.headD_cons, List.tail_cons, takenFrom]
  cases remains : packet.drop request with
  | nil =>
    have short := List.take_append_drop request packet
    rw [remains, List.append_nil] at short
    simp only [short]
  | cons first excess => rfl

namespace Bridge

variable {bridge after : Bridge} {bytes : List UInt8} {packets : List (List UInt8)}

/-- No request is in flight, and these packets, none of them empty, have yet to be taken. -/
structure Holds (bridge : Bridge) (packets : List (List UInt8)) : Prop where
  inward : bridge.pipes.inward = { events := packets.map .data }
  nonempty : ∀ packet ∈ packets, packet ≠ []

/-- What reading may change: the stash, the inward endpoint and the calls made. -/
def OnlyRead (bridge after : Bridge) : Prop :=
  after = { bridge with
    stash := after.stash
    pipes := { bridge.pipes with inward := after.pipes.inward, calls := after.pipes.calls } }

theorem OnlyRead.trans {second third : Bridge} (first : bridge.OnlyRead second)
    (next : second.OnlyRead third) : bridge.OnlyRead third := by
  unfold OnlyRead at *
  rw [next, first]

/-- These bytes can be read: first the stash, then what the packets bring. -/
def Offers (bridge : Bridge) (bytes : List UInt8) : Prop :=
  ∃ packets, bridge.Holds packets ∧ bridge.stash ++ packets.flatten = bytes

theorem Offers.nothing (offers : bridge.Offers []) :
    bridge.stash = [] ∧ bridge.pipes.inward = {} := by
  obtain ⟨packets, holds, nothing⟩ := offers
  obtain ⟨stashed, arriving⟩ := List.append_eq_nil_iff.mp nothing
  cases packets with
  | nil => exact ⟨stashed, holds.inward⟩
  | cons packet rest =>
    obtain ⟨empty, -⟩ := List.append_eq_nil_iff.mp arriving
    exact absurd empty (holds.nonempty packet List.mem_cons_self)

theorem le_requestSize (missing maxPacket : Nat) : missing ≤ requestSize missing maxPacket := by
  unfold requestSize
  have positive : 0 < max 1 maxPacket := by omega
  have enough := Nat.lt_div_mul_add positive (a := missing + max 1 maxPacket - 1)
  dsimp only
  omega

section Front

variable (count : Nat) (front rest : List UInt8)

theorem sub_length_take : count - (front.take count).length = count - front.length := by
  rw [List.length_take]
  omega

theorem take_front_append :
    (front.take count ++ rest).take count
      = front.take count ++ rest.take (count - front.length) := by
  have whole : (front.take count).take count = front.take count := by
    rw [List.take_take, Nat.min_self]
  rw [List.take_append, whole, sub_length_take]

theorem drop_front_append :
    (front.take count ++ rest).drop count = rest.drop (count - front.length) := by
  have used : (front.take count).drop count = [] :=
    List.drop_eq_nil_of_le (List.length_take_le count front)
  rw [List.drop_append, used, List.nil_append, sub_length_take]

end Front

/-- One round of collecting takes what is missing out of the next packet and stashes the rest of the
transfer. -/
theorem collect_packet {missing : Nat} (wanted : 0 < missing) {packet : List UInt8}
    {rest : List (List UInt8)} (holds : bridge.Holds (packet :: rest))
    (drained : bridge.stash = []) (want : Nat) (got : List UInt8) :
    ∃ after left, bridge.OnlyRead after ∧ after.Holds left ∧
      collect want missing got bridge
        = collect want (missing - packet.length) (got ++ packet.take missing) after ∧
      (missing - packet.length = 0 ∨ after.stash = []) ∧
      packet.take missing ++ (after.stash ++ left.flatten) = (packet :: rest).flatten := by
  have enough := le_requestSize missing bridge.pipes.maxPacket
  generalize requested : requestSize missing bridge.pipes.maxPacket = request at enough
  have settled := Pipes.waitIn_submitIn holds.inward request bridge.timeout
  have something : packet.take request ≠ [] := by
    rw [ne_eq, List.take_eq_nil_iff, not_or]
    exact ⟨by omega, holds.nonempty packet List.mem_cons_self⟩
  obtain ⟨first, others, received⟩ := List.exists_cons_of_ne_nil something
  have taken : (packet.take request).take missing = packet.take missing := by
    rw [List.take_take, Nat.min_eq_left enough]
  have restNonempty : ∀ other ∈ rest, other ≠ [] := fun other later =>
    holds.nonempty other (List.mem_cons_of_mem _ later)
  refine ⟨{ bridge with
      stash := bridge.stash ++ (packet.take request).drop missing
      pipes := { bridge.pipes with
        inward := { events := (takenFrom request packet rest).map .data }
        calls := .wait inEndpoint bridge.timeout :: .submitIn request :: bridge.pipes.calls } },
    takenFrom request packet rest, rfl, ⟨rfl, takenFrom_nonempty restNonempty _ _⟩, ?_, ?_, ?_⟩
  · rw [collect, if_neg (by omega)]
    simp only [requested, settled, received]
    rw [← received, taken, sub_length_take]
  · -- a packet that is too short leaves nothing to stash
    rcases Nat.lt_or_ge packet.length missing with short | long
    · right
      simp only [drained, List.nil_append, List.drop_eq_nil_iff, List.length_take]
      omega
    · exact .inl (Nat.sub_eq_zero_of_le long)
  · simp only [drained, List.nil_append]
    rw [← taken, ← List.append_assoc, List.take_append_drop, take_append_takenFrom]

/-- By induction on what is missing: while anything is, the stash is empty and the next packet is
the front of the stream. -/
theorem collect_offers (want : Nat) {missing : Nat} (got : List UInt8)
    (offers : bridge.Offers bytes) (stashed : missing = 0 ∨ bridge.stash = [])
    (enough : missing ≤ bytes.length) :
    ∃ after, collect want missing got bridge = (.ok (got ++ bytes.take missing), after) ∧
      bridge.OnlyRead after ∧ after.Offers (bytes.drop missing) := by
  induction missing using Nat.strongRecOn generalizing got bridge bytes with
  | ind missing ih =>
    by_cases complete : missing = 0
    · refine ⟨bridge, ?_, rfl, by rwa [complete]⟩
      rw [collect, if_pos complete, complete, List.take_zero, List.append_nil]
    · have drained := stashed.resolve_left complete
      obtain ⟨packets, holds, rfl⟩ := offers
      rw [drained, List.nil_append] at enough ⊢
      cases packets with
      | nil => exact absurd (Nat.le_zero.mp enough) complete
      | cons packet rest =>
        obtain ⟨between, left, read, holdsAfter, collected, stashedAfter, same⟩ :=
          collect_packet (Nat.pos_of_ne_zero complete) holds drained want got
        have filled := List.length_pos_iff.mpr (holds.nonempty packet List.mem_cons_self)
        have tail : missing - packet.length ≤ (between.stash ++ left.flatten).length := by
          rw [← same, List.length_append, List.length_take] at enough
          omega
        obtain ⟨after, collectedAfter, readAfter, offersAfter⟩ := ih (missing - packet.length)
          (by omega) (got ++ packet.take missing) ⟨left, holdsAfter, rfl⟩ stashedAfter tail
        refine ⟨after, ?_, read.trans readAfter, ?_⟩
        · rw [collected, collectedAfter, ← same, take_front_append, List.append_assoc]
        · rw [← same, drop_front_append]
          exact offersAfter

/-- A read takes the front of the stream. -/
theorem Offers.receive (offers : bridge.Offers bytes) {want : Nat}
    (enough : want ≤ bytes.length) :
    ∃ after, bridge.receive want = (.ok (bytes.take want), after) ∧ bridge.OnlyRead after ∧
      after.Offers (bytes.drop want) := by
  obtain ⟨packets, holds, rfl⟩ := offers
  have same : bridge.stash ++ packets.flatten
      = bridge.stash.take want ++ (bridge.stash.drop want ++ packets.flatten) := by
    rw [← List.append_assoc, List.take_append_drop]
  have rest : ({ bridge with stash := bridge.stash.drop want } : Bridge).Offers
      (bridge.stash.drop want ++ packets.flatten) :=
    ⟨packets, ⟨holds.inward, holds.nonempty⟩, rfl⟩
  have stashed : want - bridge.stash.length = 0 ∨ bridge.stash.drop want = [] := by
    rw [List.drop_eq_nil_iff]
    omega
  have missing : want - bridge.stash.length
      ≤ (bridge.stash.drop want ++ packets.flatten).length := by
    rw [List.length_append] at enough ⊢
    omega
  obtain ⟨after, collected, read, offers⟩ :=
    collect_offers want (bridge.stash.take want) rest stashed missing
  refine ⟨after, ?_, read, ?_⟩
  · rw [receive, sub_length_take, collected, same, take_front_append]
  · rw [same, drop_front_append]
    exact offers

def receiveAll : List Nat → Bridge → List (Except UsbError (List UInt8)) × Bridge
  | [], bridge => ([], bridge)
  | want :: rest, bridge =>
    let (received, bridge) := bridge.receive want
    let (later, bridge) := receiveAll rest bridge
    (received :: later, bridge)

theorem flatten_splitLengths_eq_take (lengths : List Nat) (bytes : List UInt8) :
    (lengths.splitLengths bytes).flatten = bytes.take lengths.sum := by
  induction lengths generalizing bytes with
  | nil => rfl
  | cons want rest ih =>
    rw [List.splitLengths_cons, List.flatten_cons, ih, List.sum_cons, List.take_add]

/-- By induction on the reads: each leaves the rest of the stream to the next. -/
theorem receiveAll_offers (offers : bridge.Offers bytes) {lengths : List Nat}
    (enough : lengths.sum ≤ bytes.length) :
    (bridge.receiveAll lengths).1 = (lengths.splitLengths bytes).map .ok ∧
      (bridge.receiveAll lengths).2.Offers (bytes.drop lengths.sum) := by
  induction lengths generalizing bridge bytes with
  | nil => exact ⟨rfl, offers⟩
  | cons want rest ih =>
    rw [List.sum_cons] at enough ⊢
    have enoughFirst : want ≤ bytes.length := by omega
    obtain ⟨between, received, -, offersAfter⟩ := offers.receive enoughFirst
    have restEnough : rest.sum ≤ (bytes.drop want).length := by
      rw [List.length_drop]
      omega
    obtain ⟨later, offersLast⟩ := ih offersAfter restEnough
    rw [List.drop_drop] at offersLast
    rw [List.splitLengths_cons, List.map_cons, ← later]
    rw [receiveAll, received]
    exact ⟨rfl, offersLast⟩

/-- However the stream is cut into packets and whatever their largest size, all reads succeed as
long as there are bytes enough: together they return the front of the stream, and the rest of it can
still be read. -/
theorem receiveAll_stream (offers : bridge.Offers bytes) (lengths : List Nat)
    (enough : lengths.sum ≤ bytes.length) :
    let received := bridge.receiveAll lengths
    (∃ pieces : List (List UInt8), received.1 = pieces.map .ok ∧
      pieces.map List.length = lengths ∧ pieces.flatten = bytes.take lengths.sum) ∧
    received.2.Offers (bytes.drop lengths.sum) ∧
    ∀ other : Bridge, other.Offers bytes → (other.receiveAll lengths).1 = received.1 := by
  intro received
  obtain ⟨results, rest⟩ := receiveAll_offers offers enough
  refine ⟨⟨lengths.splitLengths bytes, results, List.map_splitLengths_length bytes lengths enough,
    flatten_splitLengths_eq_take lengths bytes⟩, rest, fun other offersOther => ?_⟩
  rw [(receiveAll_offers offersOther enough).1]
  exact results.symm

/-- Ten bytes, once partly stashed and cut into small packets, once in a single large one. -/
theorem receiveAll_stream_ten :
    let lengths := [1, 4, 0, 3]
    let cut : Bridge :=
      { stash := [1, 2]
        timeout := 5000
        pipes := {
          inward := { events := [.data [3, 4, 5], .data [6], .data [7, 8, 9, 10]] }
          maxPacket := 2 } }
    let whole : Bridge :=
      { timeout := 1, pipes := { inward := { events := [.data [1, 2, 3, 4, 5, 6, 7, 8, 9, 10]] } } }
    (∃ pieces : List (List UInt8), (cut.receiveAll lengths).1 = pieces.map .ok ∧
      pieces.map List.length = lengths ∧ pieces.flatten = [1, 2, 3, 4, 5, 6, 7, 8]) ∧
    (cut.receiveAll lengths).2.Offers [9, 10] ∧
    (whole.receiveAll lengths).1 = (cut.receiveAll lengths).1 := by
  intro lengths cut whole
  have offers : cut.Offers [1, 2, 3, 4, 5, 6, 7, 8, 9, 10] :=
    ⟨[[3, 4, 5], [6], [7, 8, 9, 10]], ⟨rfl, by decide⟩, rfl⟩
  have offersWhole : whole.Offers [1, 2, 3, 4, 5, 6, 7, 8, 9, 10] :=
    ⟨[[1, 2, 3, 4, 5, 6, 7, 8, 9, 10]], ⟨rfl, by decide⟩, rfl⟩
  obtain ⟨pieces, rest, same⟩ := receiveAll_stream offers lengths (by decide)
  exact ⟨pieces, rest, same whole offersWhole⟩

end Bridge
end OnfiFlash.Usb
