/-! Where output goes: a sequence of bytes that may have a limit. -/

set_option autoImplicit false

namespace QueryLint

/-- Bytes taken so far, and how many in all the sink takes, if not any number. -/
structure Sink where
  written : List UInt8 := []
  limit : Option Nat := none
  deriving DecidableEq, Repr

namespace Sink

/-- Appends bytes as far as the limit allows; tells whether all of them were taken. -/
def write (s : Sink) (bytes : List UInt8) : Bool × Sink :=
  match s.limit with
  | none => (true, { s with written := s.written ++ bytes })
  | some n =>
    let room := n - s.written.length
    (bytes.length ≤ room, { s with written := s.written ++ bytes.take room })

theorem write_of_unlimited {s : Sink} (unlimited : s.limit = none) (bytes : List UInt8) :
    s.write bytes = (true, { s with written := s.written ++ bytes }) := by
  simp [write, unlimited]

/-- A sink that holds the front part of another takes what makes it the front part again. -/
theorem write_take (n : Nat) (written bytes : List UInt8) :
    (⟨written.take n, some n⟩ : Sink).write bytes =
      (decide (bytes.length ≤ n - written.length), ⟨(written ++ bytes).take n, some n⟩) := by
  have room : n - (written.take n).length = n - written.length := by
    rw [List.length_take]
    omega
  simp only [write, room, List.take_append]

def writeText (s : Sink) (text : String) : Bool × Sink :=
  s.write text.toUTF8.toList

end Sink

end QueryLint
