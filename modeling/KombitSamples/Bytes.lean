import KombitSamples.Platform

/-!
# KombitSamples.Bytes

Arrays of bytes, segments of them and the buffers that a `BufferManager` hands
out, with the `Int32` arithmetic of their indices.

A segment lies inside its array by construction, and a buffer is at least as
long as was asked for.

* `bytes_of_copied` — a segment at the place that an array was copied to has
  the bytes of that array.
-/

namespace KombitSamples

open Fallible

/-! ## Indices -/

/-- What `Int32` arithmetic, which is not checked, makes of a number. -/
def toInt32 (n : Int) : Int := Int.bmod n 4294967296

theorem toInt32_of_fits {n : Int} (h0 : 0 ≤ n) (h : n < 2147483648) : toInt32 n = n := by
  rw [toInt32, Int.bmod_def]
  omega

/-- An index or a length is negative. -/
def nonNegativeRequired (paramName : String) : Exception :=
  .argument ("Non-negative number required.\r\nParameter name: " ++ paramName)

def invalidOffsetOrLength : Exception :=
  .argument ("Offset and length were out of bounds for the array or count is greater than " ++
    "the number of elements from index to the end of the source collection.")

/-! ## Segments -/

/-- `ArraySegment<byte>`.  Only the default one has no array. -/
structure ArraySegment where
  array : Option (List UInt8)
  offset : Nat
  count : Nat
  offset_add_count_le : offset + count ≤ (array.getD []).length

namespace ArraySegment

/-- The bytes of the segment. -/
def bytes (segment : ArraySegment) : List UInt8 :=
  ((segment.array.getD []).drop segment.offset).take segment.count

/-- `new ArraySegment<byte>(array, offset, count)`. -/
def create (array : List UInt8) (offset count : Int) : Except Exception ArraySegment := do
  ensure (nonNegativeRequired "offset") (0 ≤ offset)
  ensure (nonNegativeRequired "count") (0 ≤ count)
  if h : offset.toNat + count.toNat ≤ array.length then
    pure ⟨some array, offset.toNat, count.toNat, h⟩
  else .error invalidOffsetOrLength

theorem create_natCast {array : List UInt8} {offset count : Nat}
    (h : offset + count ≤ array.length) :
    create array offset count = .ok ⟨some array, offset, count, h⟩ := by
  simp [create, h, pure, Except.pure]

end ArraySegment

/-! ## Buffers -/

/-- `BufferManager`: what it hands out depends on what it was handed back. -/
structure BufferManager where
  buffer : Nat → List UInt8
  length_le : ∀ bufferSize, bufferSize ≤ (buffer bufferSize).length

namespace BufferManager

/-- `TakeBuffer`. -/
def takeBuffer (bufferManager : BufferManager) (bufferSize : Int) :
    Except Exception (List UInt8) :=
  if bufferSize < 0 then .error (nonNegativeRequired "bufferSize")
  else .ok (bufferManager.buffer bufferSize.toNat)

theorem takeBuffer_natCast (bufferManager : BufferManager) (bufferSize : Nat) :
    bufferManager.takeBuffer bufferSize = .ok (bufferManager.buffer bufferSize) := by
  simp [takeBuffer]

end BufferManager

/-- `Array.Copy`, from the start of an array. -/
def arrayCopy (sourceArray destinationArray : List UInt8) (destinationIndex length : Int) :
    Except Exception (List UInt8) := do
  ensure (nonNegativeRequired "length") (0 ≤ length)
  ensure (nonNegativeRequired "destinationIndex") (0 ≤ destinationIndex)
  ensure invalidOffsetOrLength (length ≤ sourceArray.length)
  ensure invalidOffsetOrLength (destinationIndex + length ≤ destinationArray.length)
  pure (destinationArray.take destinationIndex.toNat ++ sourceArray.take length.toNat ++
    destinationArray.drop (destinationIndex.toNat + length.toNat))

/-- The destination, with a whole array copied to an index. -/
def copied (sourceArray destinationArray : List UInt8) (index : Nat) : List UInt8 :=
  destinationArray.take index ++ sourceArray ++ destinationArray.drop (index + sourceArray.length)

section Copied

variable {sourceArray destinationArray : List UInt8} {index : Nat}

/-- A whole array is copied where there is place for it. -/
theorem arrayCopy_natCast (h : index + sourceArray.length ≤ destinationArray.length) :
    arrayCopy sourceArray destinationArray index sourceArray.length =
      .ok (copied sourceArray destinationArray index) := by
  have hle : (index : Int) + sourceArray.length ≤ destinationArray.length := by omega
  simp [arrayCopy, copied, hle, pure, Except.pure]

theorem length_copied (h : index + sourceArray.length ≤ destinationArray.length) :
    (copied sourceArray destinationArray index).length = destinationArray.length := by
  rw [copied, List.length_append, List.length_append, List.length_take, List.length_drop]
  omega

/-- The segment that was copied to has the bytes of the source. -/
theorem bytes_of_copied {segment : ArraySegment}
    (h : index + sourceArray.length ≤ destinationArray.length)
    (harray : segment.array = some (copied sourceArray destinationArray index))
    (hoffset : segment.offset = index) (hcount : segment.count = sourceArray.length) :
    segment.bytes = sourceArray := by
  have hindex : (destinationArray.take index).length = index := by
    rw [List.length_take]
    omega
  rw [ArraySegment.bytes, harray, hoffset, hcount, Option.getD_some, copied, List.append_assoc,
    List.drop_left' hindex, List.take_left' rfl]

end Copied

end KombitSamples
