/-
Where a report is written to.

A sink takes bytes.  It may take only so many and then fail, accepting what still fits of the text
that crosses the limit, and it may fail when it is flushed.
-/
import CheckMatrix.Text.Utf8

namespace CheckMatrix

/-- What went wrong with a sink, in its own words. -/
structure SinkError where
  reason : String
  deriving DecidableEq, Repr

/-- What is reported about it. -/
def SinkError.message (e : SinkError) : String :=
  "failed to write the report: " ++ e.reason

/-- A sink with what it has received so far. -/
structure Sink where
  limit : Option Nat
  flushFails : Bool
  received : List UInt8
  deriving DecidableEq, Repr

namespace Sink

/-- A sink that takes everything. -/
def unlimited : Sink := ⟨none, false, []⟩

/-- The bytes that fit in. -/
def accepted (s : Sink) (bytes : List UInt8) : List UInt8 :=
  match s.limit with
  | none => bytes
  | some limit => bytes.take (limit - s.received.length)

/-- The sink after a text was written to it, and whether all of it fitted in. -/
def write (s : Sink) (text : String) : Sink × Except SinkError Unit :=
  let bytes := Text.encode text.toList
  let fitting := s.accepted bytes
  ({ s with received := s.received ++ fitting },
    if fitting.length = bytes.length then .ok () else .error ⟨"disk full"⟩)

/-- Whether the sink can be flushed. -/
def flush (s : Sink) : Except SinkError Unit :=
  if s.flushFails then .error ⟨"flush failed"⟩ else .ok ()

end Sink

end CheckMatrix
