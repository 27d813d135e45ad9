import Ddcutil.Status
/-!
# Buffer — the byte buffer with length management

`data_structures.c`'s `Buffer` and its functions, under their names less the prefix `buffer_`.  The allocation is
`bytes`; `buffer_new` allocates 16 bytes more than it admits to, and `buffer_append` wants two bytes of slack.
-/
namespace Ddc

open Kit List

structure Buffer where
  bytes : List Byte
  len : Nat
  bufferSize : Nat
  sizeIncrement : Nat
  hlen : len ≤ bufferSize
  hsize : bufferSize ≤ bytes.length

namespace Buffer

def contents (b : Buffer) : List Byte := b.bytes.take b.len

def new (size : Nat) : Buffer :=
  ⟨List.replicate (size + 16) 0, 0, size, 0, Nat.zero_le _, by rw [length_replicate]; omega⟩

def setLength (b : Buffer) (bytect : Nat) : Exec Buffer :=
  if h : bytect ≤ b.bufferSize then .ok { b with len := bytect, hlen := h } else .error .assertFailed

def setByte (b : Buffer) (offset : Nat) (byte : Byte) : Exec Buffer :=
  if offset < b.bufferSize then
    .ok { b with bytes := b.bytes.set offset byte, hsize := by rw [length_set]; exact b.hsize }
  else .error .assertFailed

def setBytes (b : Buffer) (offset : Nat) (bytes : List Byte) : Exec Buffer :=
  if h : offset + bytes.length ≤ b.bufferSize then
    .ok { b with
      bytes := overwrite b.bytes offset bytes
      hsize := by rw [length_overwrite (Nat.le_trans h b.hsize)]; exact b.hsize }
  else .error .assertFailed

/-- A store through a pointer into the allocation, not checked against the admitted size. -/
def poke (b : Buffer) (offset : Nat) (byte : Byte) : Exec Buffer :=
  if offset < b.bytes.length then
    .ok { b with bytes := b.bytes.set offset byte, hsize := by rw [length_set]; exact b.hsize }
  else .error .outOfBounds

def extend (b : Buffer) (addlSize : Nat) : Buffer :=
  { b with
    bytes := (b.bytes ++ List.replicate addlSize 0).take (b.bufferSize + addlSize)
    bufferSize := b.bufferSize + addlSize
    hlen := Nat.le_trans b.hlen (Nat.le_add_right _ _)
    hsize := by
      have := b.hsize
      simp only [length_take, length_append, length_replicate]
      omega }

def growFor (b : Buffer) (requiredSize : Nat) : Buffer :=
  if requiredSize > b.bufferSize ∧ b.sizeIncrement > 0 then
    b.extend (max requiredSize (b.bufferSize + b.sizeIncrement) - b.bufferSize)
  else b

def append (buffer : Buffer) (bytes : List Byte) : Exec Buffer :=
  let b := buffer.growFor (buffer.len + 2 + bytes.length)
  if h : b.len + 2 + bytes.length ≤ b.bufferSize then
    .ok { b with
      bytes := overwrite b.bytes b.len bytes
      len := b.len + bytes.length
      hlen := by omega
      hsize := by rw [length_overwrite (by have := b.hsize; omega)]; exact b.hsize }
  else .error .assertFailed

/-! ## What the setters do -/

@[simp] theorem new_bufferSize (size : Nat) : (new size).bufferSize = size := rfl

theorem length_contents (b : Buffer) : b.contents.length = b.len := by
  have h1 := b.hlen
  have h2 := b.hsize
  rw [contents, length_take]; omega

theorem setLength_of_le {b : Buffer} {n : Nat} (h : n ≤ b.bufferSize) :
    ∃ b', b.setLength n = .ok b' ∧ b'.bytes = b.bytes ∧ b'.len = n ∧ b'.bufferSize = b.bufferSize ∧
      b'.sizeIncrement = b.sizeIncrement :=
  ⟨_, dif_pos h, rfl, rfl, rfl, rfl⟩

theorem setByte_of_lt {b : Buffer} {i : Nat} {x : Byte} (h : i < b.bufferSize) :
    ∃ b', b.setByte i x = .ok b' ∧ b'.bytes = b.bytes.set i x ∧ b'.len = b.len ∧ b'.bufferSize = b.bufferSize :=
  ⟨_, if_pos h, rfl, rfl, rfl⟩

theorem setBytes_of_le {b : Buffer} {i : Nat} {l : List Byte} (h : i + l.length ≤ b.bufferSize) :
    ∃ b', b.setBytes i l = .ok b' ∧ b'.bytes = overwrite b.bytes i l ∧ b'.len = b.len ∧
      b'.bufferSize = b.bufferSize :=
  ⟨_, dif_pos h, rfl, rfl, rfl⟩

theorem poke_of_lt {b : Buffer} {i : Nat} {x : Byte} (h : i < b.bytes.length) :
    ∃ b', b.poke i x = .ok b' ∧ b'.bytes = b.bytes.set i x ∧ b'.len = b.len ∧ b'.bufferSize = b.bufferSize :=
  ⟨_, if_pos h, rfl, rfl, rfl⟩

theorem growFor_fixed {b : Buffer} (hinc : b.sizeIncrement = 0) (n : Nat) : b.growFor n = b :=
  if_neg (by omega)

theorem append_of_le {b : Buffer} {xs : List Byte} (hinc : b.sizeIncrement = 0)
    (h : b.len + 2 + xs.length ≤ b.bufferSize) :
    ∃ b', b.append xs = .ok b' ∧ b'.contents = b.contents ++ xs ∧ b'.len = b.len + xs.length ∧
      b'.bufferSize = b.bufferSize ∧ b'.sizeIncrement = 0 := by
  simp only [append, growFor_fixed hinc]
  refine ⟨_, dif_pos h, ?_, rfl, rfl, hinc⟩
  exact take_overwrite (Nat.le_trans b.hlen b.hsize)

theorem append_of_lt {b : Buffer} {xs : List Byte} (hinc : b.sizeIncrement = 0)
    (h : b.bufferSize < b.len + 2 + xs.length) : b.append xs = .error .assertFailed := by
  simp only [append, growFor_fixed hinc]; exact dif_neg (by omega)

end Buffer
end Ddc
