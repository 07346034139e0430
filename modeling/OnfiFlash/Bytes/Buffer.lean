/-! Buffers that are written in place. Main statement: what is written at one place and then right
behind it is written as one piece. -/
namespace OnfiFlash

/-- The buffer with bytes copied over it from `offset` on. -/
def overwritten (offset : Nat) (bytes buffer : List α) : List α :=
  buffer.take offset ++ bytes ++ buffer.drop (offset + bytes.length)

/-- A step that writes to a buffer. If it fails, the buffer is left as it was written so far. -/
abbrev Writing (ε α : Type) : Type := ExceptT ε (StateM (List UInt8)) α

namespace Writing

/-- Copy bytes over the buffer from `offset` on. -/
def put (offset : Nat) (bytes : List UInt8) : Writing ε Unit := modify (overwritten offset bytes)

/-- Take the step on a buffer: the result and the buffer afterwards. -/
def runOn (writing : Writing ε α) (buffer : List UInt8) : Except ε α × List UInt8 :=
  writing.run buffer

/-- The buffer afterwards and the result, unless the step fails. -/
def into (writing : Writing ε α) (buffer : List UInt8) : Except ε (List UInt8 × α) :=
  match writing.runOn buffer with
  | (.ok value, after) => .ok (after, value)
  | (.error e, _) => .error e

theorem runOn_get_bind (next : List UInt8 → Writing ε α) (buffer : List UInt8) :
    (get >>= next).runOn buffer = (next buffer).runOn buffer := rfl

theorem runOn_lift_bind (value : β) (next : β → Writing ε α) (buffer : List UInt8) :
    ((Except.ok value : Except ε β) >>= next : Writing ε α).runOn buffer
      = (next value).runOn buffer := rfl

theorem runOn_throw_bind (e : ε) (next : β → Writing ε α) (buffer : List UInt8) :
    (throw e >>= next).runOn buffer = (.error e, buffer) := rfl

theorem runOn_put_bind (offset : Nat) (bytes : List UInt8) (next : Unit → Writing ε α)
    (buffer : List UInt8) :
    (put offset bytes >>= next).runOn buffer
      = (next ()).runOn (overwritten offset bytes buffer) := rfl

end Writing

variable {offset : Nat} {bytes first second buffer : List α}

@[simp] theorem overwritten_nil (offset : Nat) (buffer : List α) :
    overwritten offset [] buffer = buffer := by
  simp [overwritten]

theorem overwritten_front (bytes buffer : List α) :
    overwritten 0 bytes buffer = bytes ++ buffer.drop bytes.length := by
  simp [overwritten]

theorem length_overwritten (room : offset + bytes.length ≤ buffer.length) :
    (overwritten offset bytes buffer).length = buffer.length := by
  simp only [overwritten, List.length_append, List.length_take, List.length_drop]
  omega

theorem length_front (within : offset ≤ buffer.length) :
    (buffer.take offset ++ bytes).length = offset + bytes.length := by
  rw [List.length_append, List.length_take_of_le within]

theorem take_overwritten (within : offset ≤ buffer.length) :
    (overwritten offset bytes buffer).take offset = buffer.take offset := by
  rw [overwritten, List.append_assoc, List.take_left' (List.length_take_of_le within)]

theorem drop_overwritten (within : offset ≤ buffer.length) :
    (overwritten offset bytes buffer).drop (offset + bytes.length)
      = buffer.drop (offset + bytes.length) := by
  rw [overwritten, List.drop_left' (length_front within)]

/-- Bytes elsewhere stand. -/
theorem getElem?_overwritten (room : offset + bytes.length ≤ buffer.length) {place : Nat}
    (outside : ¬ (offset ≤ place ∧ place < offset + bytes.length)) :
    (overwritten offset bytes buffer)[place]? = buffer[place]? := by
  have within : offset ≤ buffer.length := Nat.le_trans (Nat.le_add_right _ _) room
  rcases Nat.lt_or_ge place offset with before | behind
  · rw [← List.getElem?_take_of_lt before, take_overwritten within,
      List.getElem?_take_of_lt before]
  · have beyond : offset + bytes.length ≤ place :=
      Nat.le_of_not_lt fun inside => outside ⟨behind, inside⟩
    obtain ⟨more, rfl⟩ := Nat.exists_eq_add_of_le beyond
    rw [← List.getElem?_drop, drop_overwritten within, List.getElem?_drop]

theorem overwritten_append (within : offset ≤ buffer.length) :
    overwritten (offset + first.length) second (overwritten offset first buffer)
      = overwritten offset (first ++ second) buffer := by
  have behind : (overwritten offset first buffer).drop (offset + first.length + second.length)
      = buffer.drop (offset + (first ++ second).length) := by
    rw [← List.drop_drop, drop_overwritten within, List.drop_drop, List.length_append,
      Nat.add_assoc]
  have front : (overwritten offset first buffer).take (offset + first.length)
      = buffer.take offset ++ first := by
    rw [overwritten, List.take_left' (length_front within)]
  rw [overwritten, front, behind, overwritten, List.append_assoc (buffer.take offset)]

end OnfiFlash
