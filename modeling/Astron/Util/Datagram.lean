import Mathlib.Data.List.Basic

set_option autoImplicit false

/- Datagrams and their iterators. `Datagram` and `DatagramIterator` (util/Datagram.h,
util/DatagramIterator.h) are not under src/; what the modelled code uses of them is taken from
the wire format the spec gives (§3, §6): a datagram is a byte buffer, multi-byte integers are
little-endian, and a read past the end raises `DatagramIteratorEOF`. -/

namespace Astron

/-- A byte buffer: a datagram's bytes, `m_data_buf`, or a `recv` chunk. -/
abbrev Bytes := List UInt8

/-- The unsigned value of little-endian bytes. -/
def leValue : Bytes → Nat
  | [] => 0
  | b :: rest => b.toNat + 256 * leValue rest

/-- `sizeof(channel_t)` for the default 64-bit channels (core/types.h). -/
def channelSize : Nat := 8

/-- Modelled from the spec: `DatagramIterator::read_uint8` at `offset`, returning the value and
the offset after it; `none` is `DatagramIteratorEOF`. -/
def readUint8 (dg : Bytes) (offset : Nat) : Option (Nat × Nat) :=
  match dg.drop offset with
  | b :: _ => some (b.toNat, offset + 1)
  | [] => none

/-- Modelled from the spec: `DatagramIterator::read_channel`, a little-endian `channel_t`. -/
def readChannel (dg : Bytes) (offset : Nat) : Option (Nat × Nat) :=
  if offset + channelSize ≤ dg.length then
    some (leValue ((dg.drop offset).take channelSize), offset + channelSize)
  else none

theorem readUint8_eq_some {dg : Bytes} {offset : Nat} (inside : offset < dg.length) :
    ∃ value, readUint8 dg offset = some (value, offset + 1) := by
  unfold readUint8
  match after : dg.drop offset with
  | b :: _ => exact ⟨b.toNat, rfl⟩
  | [] =>
    have := congrArg List.length after
    simp only [List.length_drop, List.length_nil] at this
    omega

theorem readUint8_eq_none {dg : Bytes} {offset : Nat} (past : dg.length ≤ offset) :
    readUint8 dg offset = none := by
  simp [readUint8, List.drop_eq_nil_of_le past]

end Astron
