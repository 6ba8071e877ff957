

/-!
# Bytes, positions and lines

Offsets and lengths are counted in the bytes of the UTF-8 form of a text. A position names the same
place by its line and its column, as messages do.
-/

namespace Phrasebook.Text

/-- The number of bytes of the UTF-8 form. -/
def byteSize (cs : List Char) : Nat :=
  cs.foldr (fun c others => c.utf8Size + others) 0

/-- The empty text has no bytes. -/
@[simp] theorem byteSize_nil : byteSize [] = 0 := rfl

/-- The bytes of a text are those of its first character and those of the rest. -/
@[simp] theorem byteSize_cons (c : Char) (cs : List Char) :
    byteSize (c :: cs) = c.utf8Size + byteSize cs := rfl

/-- The bytes of two texts, one after the other, are the bytes of both. -/
@[simp] theorem byteSize_append (xs ys : List Char) :
    byteSize (xs ++ ys) = byteSize xs + byteSize ys := by
  induction xs with
  | nil => simp
  | cons x xs ih => rw [List.cons_append, byteSize_cons, byteSize_cons, ih, Nat.add_assoc]

/-- The byte count of a list of characters is that of the string they make. -/
theorem utf8ByteSize_ofList (cs : List Char) : (String.ofList cs).utf8ByteSize = byteSize cs := by
  induction cs with
  | nil => rfl
  | cons c cs ih =>
    rw [show c :: cs = [c] ++ cs from rfl, String.ofList_append, String.utf8ByteSize_append, ih,
      byteSize_append]
    congr 1
    rw [show String.ofList [c] = String.singleton c from rfl, String.utf8ByteSize_singleton]
    simp

/-- A half-open range of byte offsets. -/
structure Span where
  start : Nat
  stop : Nat
  deriving DecidableEq, Repr

namespace Span

/-- The number of bytes inside. -/
def size (s : Span) : Nat :=
  s.stop - s.start

end Span

/-- A place in a text: its line, counted from one, and the bytes of that line before it. -/
structure Position where
  line : Nat
  column : Nat
  deriving DecidableEq, Repr

namespace Position

/-- The position reached from `p` by passing over `offset` bytes of a text. An offset may fall
inside a character; only a line feed begins a line. -/
def advance : Position → Nat → List Char → Position
  | p, _, [] => p
  | p, offset, c :: cs =>
    if offset < c.utf8Size then { p with column := p.column + offset }
    else
      advance (if c = '\n' then ⟨p.line + 1, 0⟩ else { p with column := p.column + c.utf8Size })
        (offset - c.utf8Size) cs

/-- The position of a byte offset of a text. -/
def ofOffset (offset : Nat) (cs : List Char) : Position :=
  advance ⟨1, 0⟩ offset cs

end Position

/-! ## Lines

The lines of a text, without what ends them: a line feed, and a carriage return right before one. A
text that ends with a line feed has no further line after it.
-/

/-- A line without the carriage return at its end. -/
def dropReturn (line : List Char) : List Char :=
  if line.getLast? = some '\r' then line.dropLast else line

/-- The lines of the parts of a text between its line feeds; the last part is a line of its own only
if there is something in it, and keeps its carriage return. -/
def linesOfParts : List (List Char) → List (List Char)
  | [] => []
  | [last] => if last.isEmpty then [] else [last]
  | part :: next :: rest => dropReturn part :: linesOfParts (next :: rest)

/-- The lines of a text. -/
def lines (cs : List Char) : List (List Char) :=
  linesOfParts (cs.splitOn '\n')

/-- The byte at which a line begins if each line before it ends with one byte. -/
def lineStart (cs : List Char) (line : Nat) : Nat :=
  ((lines cs).take (line - 1)).foldr (fun l others => byteSize l + 1 + others) 0

end Phrasebook.Text
