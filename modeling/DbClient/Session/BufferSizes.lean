/-! Sizes of the buffers of a session. A size that is zero or negative is unset and falls back
to the next more general one; a positive maximum caps all of them. -/

namespace DbClient

/-- A configured size, or the fallback if it is unset, capped at a positive maximum. -/
def bufferSize (configured fallback maximum : Int32) : Int32 :=
  let size := if 0 < configured then configured else fallback
  if 0 < maximum ∧ maximum < size then maximum else size

/-- The sizes in bytes of the buffers of a session. -/
structure BufferSizes where
  maximum : Int32
  buffer : Int32
  read : Int32
  write : Int32
  requestChunk : Int32
  deriving DecidableEq, Repr

/-- The effective sizes: each unset one takes the effective size that it falls back to, and
`-1` stands for no size at all. -/
def BufferSizes.resolve (configured : BufferSizes) : BufferSizes :=
  let maximum := bufferSize configured.maximum (-1) (-1)
  let buffer := bufferSize configured.buffer maximum maximum
  let read := bufferSize configured.read buffer maximum
  let write := bufferSize configured.write buffer maximum
  let requestChunk := bufferSize configured.requestChunk write maximum
  ⟨maximum, buffer, read, write, requestChunk⟩

end DbClient
