/-! Byte offsets in a text given as a list of characters.

Offsets count the bytes of the UTF-8 form; an offset inside a character is no place to cut. -/

set_option autoImplicit false

namespace QueryLint.Text

/-- Number of bytes of the UTF-8 form. -/
def byteSize : List Char → Nat
  | [] => 0
  | c :: cs => c.utf8Size + byteSize cs

@[simp] theorem byteSize_append (xs ys : List Char) :
    byteSize (xs ++ ys) = byteSize xs + byteSize ys := by
  induction xs with
  | nil => simp [byteSize]
  | cons c xs ih => simp [byteSize, ih, Nat.add_assoc]

/-- The characters before and after a byte offset, if it lies between two characters. -/
def cutAt? : Nat → List Char → Option (List Char × List Char)
  | 0, cs => some ([], cs)
  | _ + 1, [] => none
  | n + 1, c :: cs =>
    if c.utf8Size ≤ n + 1 then
      (cutAt? (n + 1 - c.utf8Size) cs).map fun (before, after) => (c :: before, after)
    else none

/-- The characters of a byte range whose ends lie between characters, in order. -/
def slice? (start stop : Nat) (cs : List Char) : Option (List Char) := do
  if stop < start then none else
  let (_, after) ← cutAt? start cs
  let (inside, _) ← cutAt? (stop - start) after
  pure inside

end QueryLint.Text
