import Mathlib.Data.List.DropRight
import Phrasebook.Proofs.Text.Split
import Phrasebook.Text.Bytes

/-!
# Positions among the bytes of a text

A position is told from the bytes before it: its line from the line feeds among them, its column from
the bytes after the last line feed (`Position.after`). The bytes before a position may end inside a
character. That does no harm, since a byte that looks like an ASCII character is one, also where
other characters take several bytes (`mem_utf8EncodeChar_iff`). So to pass over a number of bytes of
a text leads to the position after these bytes (`Position.ofOffset_eq_after`).
-/

namespace Phrasebook.Text

/-! ### Bytes -/

/-- The bytes of the UTF-8 form. -/
def bytes (cs : List Char) : List UInt8 :=
  cs.flatMap String.utf8EncodeChar

/-- The byte of a line feed. -/
def lineFeed : UInt8 := 10

/-- The byte of a carriage return. -/
def carriageReturn : UInt8 := 13

@[simp] theorem bytes_nil : bytes [] = [] := rfl

@[simp] theorem bytes_cons (c : Char) (cs : List Char) :
    bytes (c :: cs) = String.utf8EncodeChar c ++ bytes cs := rfl

/-- The bytes of two texts follow each other. -/
@[simp] theorem bytes_append (xs ys : List Char) : bytes (xs ++ ys) = bytes xs ++ bytes ys :=
  List.flatMap_append

/-- A text has as many bytes as its size says. -/
@[simp] theorem length_bytes (cs : List Char) : (bytes cs).length = byteSize cs := by
  induction cs with
  | nil => rfl
  | cons c cs ih => rw [bytes_cons, List.length_append, String.length_utf8EncodeChar, ih,
      byteSize_cons]

/-- All bytes of a character that takes more than one are beyond ASCII. -/
theorem eq_singleton_of_mem_utf8EncodeChar {c : Char} {b : UInt8}
    (h : b ∈ String.utf8EncodeChar c) (hb : b.toNat < 128) :
    String.utf8EncodeChar c = [b] ∧ c.toNat = b.toNat := by
  have hvalue : c.val.toNat = c.toNat := rfl
  unfold String.utf8EncodeChar at h ⊢
  simp only at h ⊢
  split at h
  · next hascii =>
    obtain rfl := List.mem_singleton.mp h
    rw [if_pos hascii]
    exact ⟨rfl, by rw [UInt8.toNat_ofNat']; omega⟩
  · -- the leading byte has an offset of 192 or more, the others one of 128
    exfalso
    split at h
    · simp only [List.mem_cons, List.not_mem_nil, or_false] at h
      rcases h with rfl | rfl <;> simp only [UInt8.toNat_ofNat'] at hb <;> omega
    · split at h
      · simp only [List.mem_cons, List.not_mem_nil, or_false] at h
        rcases h with rfl | rfl | rfl <;> simp only [UInt8.toNat_ofNat'] at hb <;> omega
      · simp only [List.mem_cons, List.not_mem_nil, or_false] at h
        rcases h with rfl | rfl | rfl | rfl <;> simp only [UInt8.toNat_ofNat'] at hb <;> omega

/-- The byte of an ASCII character stands for that character alone. -/
theorem mem_utf8EncodeChar_iff {c d : Char} (hd : d.toNat < 128) :
    UInt8.ofNat d.toNat ∈ String.utf8EncodeChar c ↔ c = d := by
  have hbyte : (UInt8.ofNat d.toNat).toNat = d.toNat := by
    rw [UInt8.toNat_ofNat']
    omega
  constructor
  · intro h
    have hcode := (eq_singleton_of_mem_utf8EncodeChar h (by rwa [hbyte])).2
    rw [hbyte] at hcode
    exact Char.toNat_inj.mp hcode
  · rintro rfl
    have hvalue : c.val.toNat ≤ 0x7f := Nat.le_of_lt_succ hd
    rw [String.utf8EncodeChar]
    simp only [if_pos hvalue]
    exact List.mem_singleton.mpr rfl

/-- The byte of an ASCII character is among the bytes of the texts that hold the character. -/
theorem mem_bytes_iff {cs : List Char} {d : Char} (hd : d.toNat < 128) :
    UInt8.ofNat d.toNat ∈ bytes cs ↔ d ∈ cs := by
  simp only [bytes, List.mem_flatMap, mem_utf8EncodeChar_iff hd, exists_eq_right]

/-- A line feed is among the bytes of a text exactly if it is among the characters. -/
theorem lineFeed_mem_bytes_iff {cs : List Char} : lineFeed ∈ bytes cs ↔ '\n' ∈ cs :=
  mem_bytes_iff (d := '\n') (by decide)

/-- A text ends with the byte of a carriage return just when it ends with a carriage return. -/
theorem getLast?_bytes_iff {cs : List Char} :
    (bytes cs).getLast? = some carriageReturn ↔ cs.getLast? = some '\r' := by
  rcases List.eq_nil_or_concat cs with rfl | ⟨init, c, rfl⟩
  · simp
  · have hlast : (bytes (init ++ [c])).getLast? = (String.utf8EncodeChar c).getLast? := by
      rw [bytes_append, bytes_cons, bytes_nil, List.append_nil,
        List.getLast?_append_of_ne_nil _ String.utf8EncodeChar_ne_nil]
    rw [List.concat_eq_append, hlast, List.getLast?_concat, Option.some.injEq]
    constructor
    · intro h
      exact (mem_utf8EncodeChar_iff (by decide)).mp (List.mem_of_getLast? h)
    · rintro rfl
      decide

/-! ### Positions -/

namespace Position

/-- The position that is reached after some bytes. -/
def after (before : List UInt8) : Position :=
  ⟨before.count lineFeed + 1, (before.rtakeWhile (· ≠ lineFeed)).length⟩

/-- Bytes without a line feed stay on the line. -/
theorem after_append_of_not_mem {ys : List UInt8} (h : lineFeed ∉ ys) (xs : List UInt8) :
    after (xs ++ ys) = ⟨(after xs).line, (after xs).column + ys.length⟩ := by
  have hkept : ∀ b ∈ ys.reverse, decide (b ≠ lineFeed) = true := by
    intro b hb
    exact decide_eq_true fun heq => h (heq ▸ List.mem_reverse.mp hb)
  simp only [after, List.rtakeWhile, List.count_append, List.count_eq_zero.mpr h,
    List.reverse_append, List.takeWhile_append_of_pos hkept, List.length_reverse,
    List.length_append, Nat.add_zero, Nat.add_comm]

/-- After a line feed the column is counted anew. -/
theorem after_append_lineFeed (xs ys : List UInt8) :
    after (xs ++ lineFeed :: ys) = ⟨xs.count lineFeed + 1 + (after ys).line, (after ys).column⟩ := by
  have hstop : decide (lineFeed ≠ lineFeed) = false := by decide
  have hcount : (xs ++ lineFeed :: ys).count lineFeed =
      xs.count lineFeed + (ys.count lineFeed + 1) := by
    rw [List.count_append, List.count_cons_self]
  simp only [after, List.rtakeWhile, hcount, List.reverse_append, List.reverse_cons,
    List.append_assoc, List.singleton_append, takeWhile_append_stop (p := (· ≠ lineFeed)) hstop]
  congr 1
  omega

/-- Passing over bytes of a text, after others that were passed over before. -/
theorem advance_after (seen : List UInt8) (offset : Nat) (cs : List Char) :
    advance (after seen) offset cs = after (seen ++ (bytes cs).take offset) := by
  induction cs generalizing seen offset with
  | nil => simp [advance]
  | cons c cs ih =>
    have hlength := String.length_utf8EncodeChar c
    rw [advance, bytes_cons]
    split
    · next hinside =>
      -- the place is inside a character, none of whose bytes is a line feed unless there is one only
      have hno : lineFeed ∉ (String.utf8EncodeChar c).take offset := by
        intro hmem
        have hone := (eq_singleton_of_mem_utf8EncodeChar (List.mem_of_mem_take hmem) (by decide)).1
        rw [hone, List.length_singleton] at hlength
        obtain rfl : offset = 0 := by omega
        exact List.not_mem_nil hmem
      rw [List.take_append_of_le_length (by omega), after_append_of_not_mem hno,
        List.length_take_of_le (by omega)]
    · next hpast =>
      have htake : (String.utf8EncodeChar c ++ bytes cs).take offset =
          String.utf8EncodeChar c ++ (bytes cs).take (offset - c.utf8Size) := by
        rw [List.take_append, List.take_of_length_le (by omega), hlength]
      rw [htake, ← List.append_assoc, ← ih]
      congr 1
      split
      · next hfeed =>
        subst hfeed
        exact (after_append_lineFeed seen []).symm
      · next hfeed =>
        have hno : lineFeed ∉ String.utf8EncodeChar c := fun hmem =>
          hfeed ((mem_utf8EncodeChar_iff (by decide)).mp hmem)
        rw [after_append_of_not_mem hno, hlength]

/-- The position of an offset is the one after the bytes before it. -/
theorem ofOffset_eq_after (offset : Nat) (cs : List Char) :
    ofOffset offset cs = after ((bytes cs).take offset) :=
  advance_after [] offset cs

end Position

end Phrasebook.Text
