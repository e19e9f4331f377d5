/-
Bytes that grow at their end.

What is put behind the others stays a piece of its own until all of them are looked at, so that
adding little by little costs no more than adding at once.
-/
namespace CheckMatrix

/-- Bytes: those in front, the pieces behind them, the last one first, and how many there are. -/
structure Buffer where
  front : List UInt8
  back : List (List UInt8)
  size : Nat
  deriving DecidableEq, Repr

namespace Buffer

/-- A buffer that holds some bytes. -/
def ofBytes (bytes : List UInt8) : Buffer :=
  ⟨bytes, [], bytes.length⟩

/-- The buffer with more bytes behind the others. -/
def push (b : Buffer) (bytes : List UInt8) : Buffer :=
  { b with back := bytes :: b.back, size := b.size + bytes.length }

/-- All bytes. -/
def content (b : Buffer) : List UInt8 :=
  if b.back.isEmpty then b.front else b.front ++ b.back.reverse.flatten

/-- The buffer without so many bytes in front. -/
def drop (b : Buffer) (count : Nat) : Buffer :=
  ⟨b.content.drop count, [], b.size - count⟩

end Buffer

end CheckMatrix
