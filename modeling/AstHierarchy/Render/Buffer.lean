import AstHierarchy.Text.Basic

/-!
# Buffers

A buffer holds what has been written so far, write by write, and knows how many bytes it still has
room for. A write either fits as a whole and is kept, or is refused as a whole and changes
nothing; a write of nothing always fits.
-/

namespace AstHierarchy

/-- A place to write to. -/
structure Buffer where
  /-- The writes that were kept, latest first. -/
  kept : List Text := []
  /-- The number of bytes for which there is room, if it is limited. -/
  room : Option Nat := none
  deriving DecidableEq, Repr, Inhabited

namespace Buffer

/-- An empty buffer, with room for so many bytes if that is limited. -/
def empty (room : Option Nat) : Buffer := { room }

/-- An empty buffer that has room for everything. -/
def unlimited : Buffer := empty none

/-- The writes that were kept, in the order in which they came. -/
def writes (b : Buffer) : List Text := b.kept.reverse

/-- Everything that has been written. -/
def content (b : Buffer) : Text := b.writes.flatten

/-- The buffer after a write, unless there is no room for it. -/
def push? (b : Buffer) (t : Text) : Option Buffer :=
  match b.room with
  | none => some { b with kept := t :: b.kept }
  | some bytes =>
    if t.utf8Size ≤ bytes then
      some { kept := t :: b.kept, room := some (bytes - t.utf8Size) }
    else none

/-! ## Small laws -/

@[simp] theorem content_empty (room : Option Nat) : (empty room).content = [] := rfl

/-- A write that fits is added at the end. -/
theorem writes_of_push? {b b' : Buffer} {t : Text} (h : b.push? t = some b') :
    b'.writes = b.writes ++ [t] := by
  unfold push? at h
  split at h
  · obtain rfl := Option.some.inj h
    simp [writes]
  · split at h
    · obtain rfl := Option.some.inj h
      simp [writes]
    · cases h

/-- Where the room is not limited, every write fits. -/
theorem push?_of_room_eq_none {b : Buffer} (h : b.room = none) (t : Text) :
    b.push? t = some { b with kept := t :: b.kept } := by
  simp [push?, h]

/-- What has been written and what there is room for make up the same limit after a write as
before it. -/
theorem size_add_room_of_push? {b b' : Buffer} {t : Text} {bytes : Nat}
    (hroom : b.room = some bytes) (h : b.push? t = some b') :
    ∃ left, b'.room = some left ∧ b'.content.utf8Size + left = b.content.utf8Size + bytes := by
  have hw := writes_of_push? h
  unfold push? at h
  rw [hroom] at h
  simp only at h
  split at h
  · rename_i hle
    refine ⟨bytes - t.utf8Size, ?_, ?_⟩
    · rw [← Option.some.inj h]
    · rw [content, content, hw]
      simp only [List.flatten_append, List.flatten_singleton, Text.utf8Size_append]
      omega
  · cases h

end Buffer

end AstHierarchy
