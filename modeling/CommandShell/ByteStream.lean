import CommandShell.Text.Utf8

/-!
# Streams in memory

A reader hands out the bytes that it was made from, piece by piece; a writer keeps what it is given
in a buffer. A copy of a writer refers to the same buffer, so what is written through the one is
seen through the other.
-/

namespace CommandShell

structure ByteSource where
  remaining : List UInt8
  deriving DecidableEq, Repr

namespace ByteSource

/-- Takes as many bytes as fit into the buffer and are left. -/
def read (r : ByteSource) (size : Nat) : List UInt8 × ByteSource :=
  (r.remaining.take size, ⟨r.remaining.drop size⟩)

def readAll : ByteSource → List Nat → List (List UInt8)
  | _, [] => []
  | r, n :: ns => (r.read n).1 :: readAll (r.read n).2 ns

end ByteSource

structure ByteBuffer where
  bytes : List UInt8
  deriving DecidableEq, Repr

namespace ByteBuffer

def empty : ByteBuffer := ⟨[]⟩

/-- Takes all bytes, and says how many there were. -/
def write (w : ByteBuffer) (data : List UInt8) : Nat × ByteBuffer :=
  (data.length, ⟨w.bytes ++ data⟩)

/-- Everything written so far, read as text. -/
def contents (w : ByteBuffer) : Text := Text.ofUtf8Lossy w.bytes

/-- After each write, the number of bytes taken and the contents. -/
def writeAll : ByteBuffer → List (List UInt8) → List (Nat × Text)
  | _, [] => []
  | w, d :: ds => ((w.write d).1, (w.write d).2.contents) :: writeAll (w.write d).2 ds

end ByteBuffer

/-- The buffers of all writers, each at its place. -/
structure BufferPool where
  buffers : List ByteBuffer
  deriving DecidableEq, Repr

/-- A writer refers to the place of a buffer. -/
structure ByteWriter where
  place : Nat
  deriving DecidableEq, Repr

/-- A copy of a writer refers to the same buffer. -/
def ByteWriter.clone (w : ByteWriter) : ByteWriter := ⟨w.place⟩

namespace BufferPool

/-- A writer with an empty buffer of its own. -/
def create (p : BufferPool) : ByteWriter × BufferPool :=
  (⟨p.buffers.length⟩, ⟨p.buffers ++ [.empty]⟩)

def buffer? (p : BufferPool) (w : ByteWriter) : Option ByteBuffer := p.buffers[w.place]?

/-- Writes to the buffer of a writer, and says how many bytes it has taken. -/
def write (p : BufferPool) (w : ByteWriter) (data : List UInt8) : Option Nat × BufferPool :=
  ((p.buffer? w).map fun b => (b.write data).1,
    ⟨p.buffers.modify w.place fun b => (b.write data).2⟩)

def contents? (p : BufferPool) (w : ByteWriter) : Option Text :=
  (p.buffer? w).map ByteBuffer.contents

end BufferPool

end CommandShell
