import Phrasebook.Diagnostic
import Phrasebook.Proofs.Text.Bytes

/-!
# Where a syntax error is labelled

The report of an error in a catalog's text gets a line and a column, and finds the byte again by
adding up the lines before it, each with one byte for its end. A line that ends with a carriage
return and a line feed has two. So the label stands on the byte before the position, and on the
first byte of the line where the column is zero, but too early by one byte for each such line end
before it (`labels_behind_by_returns`); the first text that shows it has a single one
(`label_before_its_byte`).
-/

namespace Phrasebook

namespace Text

/-! ### Line ends of two bytes -/

/-- The line feeds that have a carriage return right before them. -/
def returnEnds (bs : List UInt8) : Nat :=
  (bs.zip bs.tail).count (carriageReturn, lineFeed)

/-- Bytes without a line feed hold no line end of two bytes. -/
theorem returnEnds_of_not_mem {bs : List UInt8} (h : lineFeed ∉ bs) : returnEnds bs = 0 := by
  refine List.count_eq_zero.mpr fun hmem => h ?_
  exact List.mem_of_mem_tail (List.of_mem_zip hmem).2

/-- The line ends of a text are that of its first line and those of the others. -/
theorem returnEnds_append_lineFeed {line : List UInt8} (h : lineFeed ∉ line) (rest : List UInt8) :
    returnEnds (line ++ lineFeed :: rest) =
      (if line.getLast? = some carriageReturn then 1 else 0) + returnEnds rest := by
  induction line with
  | nil =>
    cases rest with
    | nil => rfl
    | cons b rest =>
      have hpair : ((lineFeed, b) == (carriageReturn, lineFeed)) = false :=
        beq_false_of_ne fun heq => absurd (Prod.mk.inj heq).1 (by decide)
      simp [returnEnds, List.count_cons, hpair]
  | cons a line ih =>
    obtain ⟨-, hline⟩ := List.ne_and_not_mem_of_not_mem_cons h
    have hnext := ih hline
    cases line with
    | nil =>
      have hpair : ((a, lineFeed) == (carriageReturn, lineFeed)) = (a == carriageReturn) := by
        rw [Bool.eq_iff_iff]
        simp
      simp only [returnEnds, List.nil_append, List.cons_append, List.tail_cons, List.zip_cons_cons,
        List.count_cons, hpair] at hnext ⊢
      by_cases ha : a = carriageReturn
      · simp_all [Nat.add_comm]
      · simp_all
    | cons b line =>
      obtain ⟨hb, -⟩ := List.ne_and_not_mem_of_not_mem_cons hline
      have hpair : ((a, b) == (carriageReturn, lineFeed)) = false :=
        beq_false_of_ne fun heq => hb (Prod.mk.inj heq).2.symm
      have hfront : returnEnds (a :: b :: line ++ lineFeed :: rest) =
          returnEnds (b :: line ++ lineFeed :: rest) := by
        simp [returnEnds, List.count_cons, hpair]
      rw [hfront, hnext, List.getLast?_cons_cons]

/-! ### Lines -/

/-- The lines of a text are its first one, without a carriage return at its end, and those of the
rest. -/
theorem lines_append_lineFeed {line : List Char} (h : '\n' ∉ line) (rest : List Char) :
    lines (line ++ '\n' :: rest) = dropReturn line :: lines rest := by
  unfold lines
  rw [List.splitOn_append_cons_self_of_not_mem h]
  cases hrest : rest.splitOn '\n' with
  | nil => exact absurd hrest (List.splitOn_ne_nil _ _)
  | cons next others => rfl

/-- A line is as long as what is kept of it and the carriage return at its end, if there is one. -/
theorem byteSize_dropReturn (line : List Char) :
    byteSize (dropReturn line) + (if line.getLast? = some '\r' then 1 else 0) = byteSize line := by
  unfold dropReturn
  split
  · next hlast =>
    obtain ⟨init, rfl⟩ := List.getLast?_eq_some_iff.mp hlast
    rw [List.dropLast_concat, byteSize_append]
    rfl
  · rfl

/-- Each line before a line adds what is kept of it and one byte for its end. -/
theorem lineStart_append_lineFeed {line : List Char} (h : '\n' ∉ line) (rest : List Char)
    (k : Nat) :
    lineStart (line ++ '\n' :: rest) (k + 2) =
      byteSize (dropReturn line) + 1 + lineStart rest (k + 1) := by
  unfold lineStart
  rw [lines_append_lineFeed h]
  rfl

/-- Bytes that go past the first line of a text. -/
theorem take_bytes_append_lineFeed (line rest : List Char) (left : Nat) :
    (bytes (line ++ '\n' :: rest)).take (byteSize line + left + 1) =
      bytes line ++ lineFeed :: (bytes rest).take left := by
  have hbytes : bytes (line ++ '\n' :: rest) = bytes line ++ lineFeed :: bytes rest := by
    rw [bytes_append]
    rfl
  rw [hbytes, Nat.add_assoc, ← length_bytes, List.take_length_add_append, List.take_succ_cons]

/-- Bytes with a line feed among them go past the first line of the text. -/
theorem exists_line_of_lineFeed_mem {cs : List Char} {offset : Nat}
    (h : lineFeed ∈ (bytes cs).take offset) :
    ∃ line rest left, cs = line ++ '\n' :: rest ∧ '\n' ∉ line ∧
      offset = byteSize line + left + 1 := by
  have hfeed : '\n' ∈ cs := lineFeed_mem_bytes_iff.mp (List.mem_of_mem_take h)
  obtain ⟨line, rest, rfl, hline⟩ := List.eq_append_cons_of_mem hfeed
  have hlong : byteSize line < offset := by
    by_contra hshort
    rw [bytes_append, List.take_append_of_le_length (by rw [length_bytes]; omega)] at h
    exact hline (lineFeed_mem_bytes_iff.mp (List.mem_of_mem_take h))
  obtain ⟨left, hleft⟩ := Nat.exists_eq_add_of_lt hlong
  exact ⟨line, rest, left, rfl, hline, hleft⟩

/-- What the lines before a position add up to, the column, and the carriage returns that the lines
lost make up the bytes before the position. The induction takes off one line after another. -/
theorem lineStart_add_column (cs : List Char) (offset : Nat) (h : offset ≤ byteSize cs) :
    lineStart cs (Position.after ((bytes cs).take offset)).line +
      (Position.after ((bytes cs).take offset)).column +
      returnEnds ((bytes cs).take offset) = offset := by
  induction hn : cs.length using Nat.strong_induction_on generalizing cs offset with
  | _ n ih =>
    by_cases hmem : lineFeed ∈ (bytes cs).take offset
    · obtain ⟨line, rest, left, rfl, hline, rfl⟩ := exists_line_of_lineFeed_mem hmem
      have hno : lineFeed ∉ bytes line := mt lineFeed_mem_bytes_iff.mp hline
      have hleft : left ≤ byteSize rest := by
        have hone : '\n'.utf8Size = 1 := rfl
        rw [byteSize_append, byteSize_cons] at h
        omega
      have hshorter : rest.length < n := by
        rw [← hn, List.length_append, List.length_cons]
        omega
      have hrest := ih rest.length hshorter rest left hleft rfl
      have hkept := byteSize_dropReturn line
      have hstart := lineStart_append_lineFeed hline rest (((bytes rest).take left).count lineFeed)
      rw [take_bytes_append_lineFeed, Position.after_append_lineFeed,
        returnEnds_append_lineFeed hno, List.count_eq_zero.mpr hno]
      simp only [getLast?_bytes_iff, Position.after] at hrest ⊢
      rw [show 0 + 1 + (((bytes rest).take left).count lineFeed + 1) =
        ((bytes rest).take left).count lineFeed + 2 by omega, hstart]
      omega
    · have hstay := Position.after_append_of_not_mem hmem []
      rw [List.nil_append, List.length_take_of_le (by rwa [length_bytes])] at hstay
      rw [hstay, returnEnds_of_not_mem hmem]
      calc lineStart cs 1 + (0 + offset) + 0 = 0 + (0 + offset) + 0 := rfl
        _ = offset := by omega

end Text

open Text (Position byteSize bytes returnEnds)

/-- An error in the text of a catalog is reported at the position after some of its bytes. -/
theorem Catalog.exists_offset_of_ofText {content : String} {e : Json.SyntaxError}
    (h : Catalog.ofText content = .error e) :
    ∃ offset ≤ content.utf8ByteSize,
      e.position = Position.after ((bytes content.toList).take offset) := by
  have hsize : byteSize content.toList = content.utf8ByteSize := by
    rw [← Text.utf8ByteSize_ofList, String.ofList_toList]
  unfold ofText Json.Reader.runAll at h
  simp only at h
  split at h
  · cases h
  · next failure _ =>
    obtain rfl := Except.error.inj h
    refine ⟨min (byteSize content.toList)
      (byteSize content.toList - byteSize failure.unread + failure.past), ?_, ?_⟩
    · rw [← hsize]
      exact Nat.min_le_left _ _
    · rw [← Position.ofOffset_eq_after]
      rfl

namespace Diagnostic

/-- The byte that is found for a position, the line ends that were taken for shorter than they are,
and the byte that the column itself counts, make up the bytes before the position. -/
theorem offsetOf_after {content : String} {offset : Nat} (h : offset ≤ content.utf8ByteSize) :
    offsetOf content (Position.after ((bytes content.toList).take offset)).line
        (Position.after ((bytes content.toList).take offset)).column +
      returnEnds ((bytes content.toList).take offset) =
    if (Position.after ((bytes content.toList).take offset)).column = 0 then offset
    else offset - 1 := by
  have hsize : byteSize content.toList = content.utf8ByteSize := by
    rw [← Text.utf8ByteSize_ofList, String.ofList_toList]
  have hsum := Text.lineStart_add_column content.toList offset (by rwa [hsize])
  unfold offsetOf
  split <;> omega

/-- The report of an error labels one byte. Where the error is reported at the position after some
bytes of the text, as errors in catalogs are, the label is meant for the last of these bytes, or for
the first byte of the line if none of them is on it. It stands there just when each line before ends
with a line feed alone, and otherwise as many bytes before it as there are carriage returns in the
ends of these lines. -/
theorem labels_behind_by_returns (content : String) :
    (∀ offset ≤ content.utf8ByteSize,
      let before := (bytes content.toList).take offset
      let p := Position.after before
      let due := if p.column = 0 then offset else offset - 1
      ∀ path message, ∃ found,
        (ofPosition path content p.line p.column message).labels = [⟨here, found, 1⟩] ∧
          found + returnEnds before = due ∧ (found = due ↔ returnEnds before = 0)) ∧
    (∀ e, Catalog.ofText content = .error e → ∃ offset ≤ content.utf8ByteSize,
      e.position = Position.after ((bytes content.toList).take offset)) := by
  refine ⟨fun offset hoffset => ?_, fun e he => Catalog.exists_offset_of_ofText he⟩
  intro before p due path message
  have hfound : offsetOf content p.line p.column + returnEnds before = due :=
    offsetOf_after hoffset
  refine ⟨offsetOf content p.line p.column, rfl, hfound, ?_⟩
  omega

/-- A list whose item is missing on its third line: of the two line ends before, the second one has a
carriage return, and the label stands one byte before the fifth and last byte. -/
theorem labels_behind_by_returns_mixed :
    5 ≤ "\n[\r\n@".utf8ByteSize ∧
    (∃ e, Catalog.ofText "\n[\r\n@" = .error e ∧ e.position = ⟨3, 1⟩ ∧
      ∃ offset ≤ "\n[\r\n@".utf8ByteSize,
        e.position = Position.after ((bytes "\n[\r\n@".toList).take offset)) ∧
    (ofPosition "c.json" "\n[\r\n@" 3 1 "expected value").labels = [⟨here, 3, 1⟩] := by
  have hsize : 5 ≤ "\n[\r\n@".utf8ByteSize := by decide +kernel
  have herror : Catalog.ofText "\n[\r\n@" = .error ⟨.expectedValue, ⟨3, 1⟩⟩ := by rfl
  obtain ⟨hlabels, hpositions⟩ := labels_behind_by_returns "\n[\r\n@"
  obtain ⟨found, hlabel, hfound, -⟩ := hlabels 5 hsize "c.json" "expected value"
  have hplace : found + 1 = 4 := hfound
  obtain rfl : found = 3 := by omega
  exact ⟨hsize, ⟨_, herror, rfl, hpositions _ herror⟩, hlabel⟩

/-- A member whose name is no string, on the second line of a text whose first line ends with a
carriage return and a line feed: the fourth byte is to blame, and the label stands on the third. -/
theorem label_before_its_byte :
    (∃ e, Catalog.ofText "\x7b\r\n@\x7d" = .error e ∧ e.position = ⟨2, 1⟩) ∧
      Position.after ((bytes "\x7b\r\n@\x7d".toList).take 4) = ⟨2, 1⟩ ∧
      ∀ message, (ofPosition "c.json" "\x7b\r\n@\x7d" 2 1 message).labels = [⟨here, 2, 1⟩] := by
  have herror : Catalog.ofText "\x7b\r\n@\x7d" = .error ⟨.keyNotString, ⟨2, 1⟩⟩ := by rfl
  have hfound : offsetOf "\x7b\r\n@\x7d" 2 1 = 2 := by decide +kernel
  refine ⟨⟨_, herror, rfl⟩, by decide +kernel, fun message => ?_⟩
  calc (ofPosition "c.json" "\x7b\r\n@\x7d" 2 1 message).labels
      = [⟨here, offsetOf "\x7b\r\n@\x7d" 2 1, 1⟩] := rfl
    _ = [⟨here, 2, 1⟩] := by rw [hfound]

end Diagnostic

end Phrasebook
