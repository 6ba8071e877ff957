import Phrasebook.Text.Emoji
import Phrasebook.Text.Extending

/-!
# Display width

How many terminal columns a line of text takes. A character takes columns by itself, but characters
that are drawn together as one picture or one ligature take the columns of one sign. So what a
character adds depends on what stands to the right of it: `Surroundings` is as much of that as
matters, and a text is measured from its end.
-/

/-! ## The columns of a character

How many terminal columns a character takes by itself: none if it is drawn upon a neighbour or not
at all, two if it is East Asian wide or fullwidth, and otherwise one.
-/

namespace Phrasebook.Text

/-- The code points of characters that are drawn upon a neighbour without extending it: the vowels
and finals of Hangul syllables written in parts, the marks that span the digits or the letter after
them, and the caret. -/
def attachedRanges : List (Nat × Nat) :=
  [(0x605, 0x605), (0x70F, 0x70F), (0x890, 0x891), (0x8E2, 0x8E2), (0xD4E, 0xD4E),
   (0x1160, 0x11FF), (0xA8FA, 0xA8FA), (0xD7B0, 0xD7C6), (0xD7CB, 0xD7FB), (0x111C2, 0x111C3),
   (0x113D1, 0x113D1), (0x1193F, 0x1193F), (0x11941, 0x11941), (0x11A3A, 0x11A3A),
   (0x11A84, 0x11A89), (0x11D46, 0x11D46), (0x11F02, 0x11F02)]

/-- The code points of wide and fullwidth characters. -/
def wideRanges : List (Nat × Nat) :=
  [(0x1100, 0x115F), (0x231A, 0x231B), (0x2329, 0x232A), (0x23E9, 0x23EC), (0x23F0, 0x23F0),
   (0x23F3, 0x23F3), (0x25FD, 0x25FE), (0x2614, 0x2615), (0x2630, 0x2637), (0x2648, 0x2653),
   (0x267F, 0x267F), (0x268A, 0x268F), (0x2693, 0x2693), (0x26A1, 0x26A1), (0x26AA, 0x26AB),
   (0x26BD, 0x26BE), (0x26C4, 0x26C5), (0x26CE, 0x26CE), (0x26D4, 0x26D4), (0x26EA, 0x26EA),
   (0x26F2, 0x26F3), (0x26F5, 0x26F5), (0x26FA, 0x26FA), (0x26FD, 0x26FD), (0x2705, 0x2705),
   (0x270A, 0x270B), (0x2728, 0x2728), (0x274C, 0x274C), (0x274E, 0x274E), (0x2753, 0x2755),
   (0x2757, 0x2757), (0x2795, 0x2797), (0x27B0, 0x27B0), (0x27BF, 0x27BF), (0x2B1B, 0x2B1C),
   (0x2B50, 0x2B50), (0x2B55, 0x2B55), (0x2E80, 0x2E99), (0x2E9B, 0x2EF3), (0x2F00, 0x2FD5),
   (0x2FF0, 0x303E), (0x3041, 0x3096), (0x3099, 0x30FF), (0x3105, 0x312F), (0x3131, 0x318E),
   (0x3190, 0x31E5), (0x31EF, 0x321E), (0x3220, 0x3247), (0x3250, 0xA48C), (0xA490, 0xA4C6),
   (0xA960, 0xA97C), (0xAC00, 0xD7A3), (0xF900, 0xFAFF), (0xFE10, 0xFE19), (0xFE30, 0xFE52),
   (0xFE54, 0xFE66), (0xFE68, 0xFE6B), (0xFF01, 0xFF60), (0xFFE0, 0xFFE6), (0x16FE0, 0x16FE4),
   (0x16FF0, 0x16FF6), (0x17000, 0x18CD5), (0x18CFF, 0x18D1E), (0x18D80, 0x18DF2),
   (0x1AFF0, 0x1AFF3), (0x1AFF5, 0x1AFFB), (0x1AFFD, 0x1AFFE), (0x1B000, 0x1B122),
   (0x1B132, 0x1B132), (0x1B150, 0x1B152), (0x1B155, 0x1B155), (0x1B164, 0x1B167),
   (0x1B170, 0x1B2FB), (0x1D300, 0x1D356), (0x1D360, 0x1D376), (0x1F004, 0x1F004),
   (0x1F0CF, 0x1F0CF), (0x1F18E, 0x1F18E), (0x1F191, 0x1F19A), (0x1F200, 0x1F202),
   (0x1F210, 0x1F23B), (0x1F240, 0x1F248), (0x1F250, 0x1F251), (0x1F260, 0x1F265),
   (0x1F300, 0x1F320), (0x1F32D, 0x1F335), (0x1F337, 0x1F37C), (0x1F37E, 0x1F393),
   (0x1F3A0, 0x1F3CA), (0x1F3CF, 0x1F3D3), (0x1F3E0, 0x1F3F0), (0x1F3F4, 0x1F3F4),
   (0x1F3F8, 0x1F43E), (0x1F440, 0x1F440), (0x1F442, 0x1F4FC), (0x1F4FF, 0x1F53D),
   (0x1F54B, 0x1F54E), (0x1F550, 0x1F567), (0x1F57A, 0x1F57A), (0x1F595, 0x1F596),
   (0x1F5A4, 0x1F5A4), (0x1F5FB, 0x1F64F), (0x1F680, 0x1F6C5), (0x1F6CC, 0x1F6CC),
   (0x1F6D0, 0x1F6D2), (0x1F6D5, 0x1F6D9), (0x1F6DC, 0x1F6DF), (0x1F6EB, 0x1F6EC),
   (0x1F6F4, 0x1F6FC), (0x1F7E0, 0x1F7EB), (0x1F7F0, 0x1F7F0), (0x1F90C, 0x1F93A),
   (0x1F93C, 0x1F945), (0x1F947, 0x1F9FF), (0x1FA70, 0x1FA7C), (0x1FA80, 0x1FAC6),
   (0x1FAC8, 0x1FAC8), (0x1FACD, 0x1FADD), (0x1FADF, 0x1FAEB), (0x1FAEF, 0x1FAFA),
   (0x20000, 0x2FFFD), (0x30000, 0x3FFFD)]

/-- The characters whose columns their properties do not tell: the filler of a Hangul initial and a
Khmer vowel are as wide as a syllable, a Khmer sign stands for a whole phrase, and the joiner of
Tifinagh consonants shows when it joins nothing. -/
def exceptionalWidths : List (Nat × Nat) :=
  [(0x115F, 2), (0x17A4, 2), (0x17D8, 3), (0x2D7F, 1)]

/-- The columns of one character. -/
def charWidth (c : Char) : Nat :=
  if c.toNat ≤ 0xA0 then 1
  else
    match exceptionalWidths.lookup c.toNat with
    | some n => n
    | none =>
      if isHidden c || inRanges attachedRanges c then 0
      else if inRanges wideRanges c then 2
      else 1

/-! ## Ligatures of letters

Some scripts draw several letters as one sign that takes the columns of a single letter, or none. A
ligature is read from its end: `LigatureTail` is the part of one that has been read, and
`LigatureTail.before?` says what a further character to the left adds. Marks that are not drawn may
stand between the letters, and where the script asks for it a joiner must.
-/

/-- The code points of the Arabic letters with the shape of a lam. -/
def lamRanges : List (Nat × Nat) :=
  [(0x644, 0x644), (0x6B5, 0x6B8), (0x76A, 0x76A), (0x8A6, 0x8A6), (0x8C7, 0x8C7)]

/-- The code points of the Arabic letters with the shape of an alef. -/
def alefRanges : List (Nat × Nat) :=
  [(0x622, 0x623), (0x625, 0x625), (0x627, 0x627), (0x671, 0x673), (0x675, 0x675),
   (0x773, 0x774), (0x870, 0x882)]

/-- The code points of the Khmer letters that fit under another letter without taking a column. -/
def subscriptRanges : List (Nat × Nat) :=
  [(0x1780, 0x1782), (0x1784, 0x1787), (0x1789, 0x178C), (0x178E, 0x1793), (0x1795, 0x1798),
   (0x179B, 0x179D), (0x17A0, 0x17A0), (0x17A2, 0x17A2), (0x17A7, 0x17A7), (0x17AB, 0x17AC),
   (0x17AF, 0x17AF)]

/-- The code points of the Tifinagh consonants. -/
def tifinaghRanges : List (Nat × Nat) :=
  [(0x2D31, 0x2D65), (0x2D6F, 0x2D6F)]

/-- The code points of the Lisu tone letters that may stand first in a pair. -/
def lisuFirstRanges : List (Nat × Nat) :=
  [(0xA4F8, 0xA4FB)]

/-- The code points of the Lisu tone letters that may stand second in a pair. -/
def lisuSecondRanges : List (Nat × Nat) :=
  [(0xA4FC, 0xA4FD)]

/-- The code points of the marks that are not drawn and may stand between letters. -/
def unseenMarkRanges : List (Nat × Nat) :=
  [(0x34F, 0x34F), (0x17B4, 0x17B5), (0x180B, 0x180D), (0x180F, 0x180F), (0xFE00, 0xFE0F),
   (0xE0100, 0xE01EF)]

/-- The code points of characters that take no column and yet part the Arabic letters around
them. -/
def partingRanges : List (Nat × Nat) :=
  [(0x605, 0x605), (0x890, 0x891), (0x8E2, 0x8E2), (0x9BE, 0x9BE), (0x9D7, 0x9D7), (0xB3E, 0xB3E),
   (0xB57, 0xB57), (0xBBE, 0xBBE), (0xBD7, 0xBD7), (0xCC0, 0xCC0), (0xCC2, 0xCC2), (0xCC7, 0xCC8),
   (0xCCA, 0xCCB), (0xCD5, 0xCD6), (0xD3E, 0xD3E), (0xD4E, 0xD4E), (0xD57, 0xD57), (0xDCF, 0xDCF),
   (0xDDF, 0xDDF), (0x1160, 0x11FF), (0x1715, 0x1715), (0x1734, 0x1734), (0x180E, 0x180E),
   (0x1B35, 0x1B35), (0x1B3B, 0x1B3B), (0x1B3D, 0x1B3D), (0x1B43, 0x1B44), (0x1BAA, 0x1BAA),
   (0x1BF2, 0x1BF3), (0x200C, 0x200D), (0x2065, 0x2069), (0x302E, 0x302F), (0x3164, 0x3164),
   (0xA8FA, 0xA8FA), (0xA953, 0xA953), (0xA9C0, 0xA9C0), (0xD7B0, 0xD7C6), (0xD7CB, 0xD7FB),
   (0xFFA0, 0xFFA0), (0xFFF0, 0xFFF8), (0x111C0, 0x111C0), (0x111C2, 0x111C3), (0x11235, 0x11235),
   (0x1133E, 0x1133E), (0x1134D, 0x1134D), (0x11357, 0x11357), (0x113B8, 0x113B8),
   (0x113C2, 0x113C2), (0x113C5, 0x113C5), (0x113C7, 0x113C9), (0x113CF, 0x113CF),
   (0x113D1, 0x113D1), (0x114B0, 0x114B0), (0x114BD, 0x114BD), (0x115AF, 0x115AF),
   (0x116B6, 0x116B6), (0x11930, 0x11930), (0x1193D, 0x1193D), (0x1193F, 0x1193F),
   (0x11941, 0x11941), (0x11A3A, 0x11A3A), (0x11A84, 0x11A89), (0x11D46, 0x11D46),
   (0x11F02, 0x11F02), (0x11F41, 0x11F41), (0x16FF0, 0x16FF1), (0x1D165, 0x1D166),
   (0x1D16D, 0x1D172), (0xE0000, 0xE0000), (0xE0002, 0xE001F), (0xE0080, 0xE00FF),
   (0xE01F0, 0xE0FFF)]

/-- Whether Arabic letters join across a character: it takes no column and does not part them. -/
def isTransparent (c : Char) : Bool :=
  charWidth c == 0 && !inRanges partingRanges c

/-- The part of a ligature that stands to the right of a character. Where the ligature needs a
joiner, the flag says whether one has been read. -/
inductive LigatureTail where
  | alef
  | lamed (joined : Bool)
  | ya (joined : Bool)
  | vowelAndYa
  | tifinagh (joined : Bool)
  | joinedTifinagh
  | lisuTone
  | orkhonI (joined : Bool)
  | subscript
  | kiratE
  | kiratAi
  deriving DecidableEq, Repr

namespace LigatureTail

/-- The tail with a joiner before it. -/
def join : LigatureTail → LigatureTail
  | lamed _ => lamed true
  | ya _ => ya true
  | tifinagh _ => tifinagh true
  | orkhonI _ => orkhonI true
  | tail => tail

/-- The columns that a letter adds before a tail, and the tail that is left, if the letter goes on
with the ligature. A letter that is drawn into the sign takes nothing, and one that makes the letters
after it smaller takes back a column of theirs. -/
def letter? : LigatureTail → Char → Option (Int × Option LigatureTail)
  | alef, c => if inRanges lamRanges c then some (0, none) else none
  | lamed joined, c => if joined ∧ c = '\u05D0' then some (0, none) else none
  | ya joined, c => if joined ∧ c = '\u1A17' then some (0, some vowelAndYa) else none
  | vowelAndYa, c => if c = '\u1A15' then some (0, none) else none
  | tifinagh joined, c =>
    if c = '\u2D7F' then some (1, some joinedTifinagh)
    else if joined ∧ inRanges tifinaghRanges c then some (0, none)
    else none
  | joinedTifinagh, c => if inRanges tifinaghRanges c then some (-1, none) else none
  | lisuTone, c => if inRanges lisuFirstRanges c then some (0, none) else none
  | orkhonI joined, c => if joined ∧ c.toNat = 0x10C32 then some (0, none) else none
  | subscript, c => if c = '\u17D2' then some (-1, none) else none
  | kiratE, c =>
    if c.toNat = 0x16D63 ∨ c.toNat = 0x16D69 then some (0, none)
    else if c.toNat = 0x16D67 then some (0, some kiratAi)
    else if c.toNat = 0x16D68 then some (1, some kiratE)
    else none
  | kiratAi, c => if c.toNat = 0x16D63 then some (0, none) else none

/-- What may stand inside a ligature without ending it, with the tail that it makes. -/
def passes? : LigatureTail → Char → Option LigatureTail
  | alef, c => if isTransparent c then some alef else none
  | tail, c =>
    if c = joiner then some tail.join
    else if inRanges unseenMarkRanges c then some tail
    else none

/-- The columns that a character adds before a tail, and the tail that is left, if the character
belongs to the ligature. -/
def before? (tail : LigatureTail) (c : Char) : Option (Int × Option LigatureTail) :=
  match tail.passes? c with
  | some tail' => some (0, some tail')
  | none => tail.letter? c

/-- The tail that a character begins, if it may end a ligature. -/
def ofChar? (c : Char) : Option LigatureTail :=
  if inRanges alefRanges c then some alef
  else if c = '\u05DC' then some (lamed false)
  else if c = '\u1A10' then some (ya false)
  else if inRanges tifinaghRanges c then some (tifinagh false)
  else if inRanges lisuSecondRanges c then some lisuTone
  else if c.toNat = 0x10C03 then some (orkhonI false)
  else if inRanges subscriptRanges c then some subscript
  else if c.toNat = 0x16D67 then some kiratE
  else if c.toNat = 0x16D68 then some kiratAi
  else none

end LigatureTail

/-! ## The columns of a line -/

/-- The selectors that may follow a character. -/
inductive Selector where
  | picture
  | sign
  | wideQuote
  deriving DecidableEq, Repr

namespace Selector

/-- The selector that a character is. -/
def ofChar? (c : Char) : Option Selector :=
  if c = pictureSelector then some picture
  else if c = signSelector then some sign
  else if c = '\uFE01' then some wideQuote
  else none

end Selector

/-- The code points of the quotation marks that a selector makes wide. -/
def quoteRanges : List (Nat × Nat) :=
  [(0x2018, 0x2019), (0x201C, 0x201D)]

/-- The part of a sequence of characters drawn together that stands to the right of a character. -/
inductive Tail where
  | none
  | emoji (tail : EmojiTail)
  | ligature (tail : LigatureTail)
  deriving DecidableEq, Repr

namespace Tail

/-- What a selector before the tail leaves of it: ligatures go on, and a selector of pictures may
also stand before a joiner. -/
def afterSelector : Tail → Selector → Tail
  | ligature tail, _ => ligature tail
  | emoji tail, .picture => if tail.isJoined then emoji tail else none
  | _, _ => none

/-- What is left of the tail when its selector does not fit the character before it. -/
def afterMisfit : Tail → Tail
  | ligature tail => ligature tail
  | _ => none

end Tail

/-- What stands to the right of a character: the tail of a sequence, perhaps with a selector before
it. -/
structure Surroundings where
  tail : Tail
  selector : Option Selector
  deriving DecidableEq, Repr

namespace Surroundings

/-- Nothing that matters. -/
def empty : Surroundings := ⟨.none, none⟩

/-- The surroundings that a tail makes. -/
def ofTail (tail : Tail) : Surroundings := ⟨tail, none⟩

/-- The columns of a character that goes on with no sequence, and the tail that it begins. -/
def alone (c : Char) : Int × Surroundings :=
  match EmojiTail.ofChar? c, LigatureTail.ofChar? c with
  | some tail, _ => (charWidth c, ofTail (.emoji tail))
  | none, some tail => (charWidth c, ofTail (.ligature tail))
  | none, none => (charWidth c, empty)

/-- The columns that a character adds before a tail, and the surroundings that it makes. -/
def beforeTail (tail : Tail) (c : Char) : Int × Surroundings :=
  match Selector.ofChar? c with
  | some selector => (0, ⟨tail.afterSelector selector, some selector⟩)
  | none =>
    match tail with
    | .none => alone c
    | .emoji tail =>
      match tail.before? c with
      | some (columns, tail') => (columns, ofTail (.emoji tail'))
      | none => alone c
    | .ligature tail =>
      match tail.before? c with
      | some (columns, some tail') => (columns, ofTail (.ligature tail'))
      | some (columns, none) => (columns, empty)
      | none => alone c

/-- The columns that a character adds, and the surroundings that it makes. A selector comes first; if
it does not fit the character, it is as if it were not there. -/
def before (s : Surroundings) (c : Char) : Int × Surroundings :=
  match s.selector with
  | none => beforeTail s.tail c
  | some .picture =>
    if isSelectable c then
      (if s.tail matches .emoji _ then 0 else 2, ofTail (.emoji .picture))
    else beforeTail s.tail.afterMisfit c
  | some .sign =>
    if isNarrowable c then (1, empty) else beforeTail s.tail.afterMisfit c
  | some .wideQuote =>
    if inRanges quoteRanges c then (2, empty) else beforeTail s.tail.afterMisfit c

end Surroundings

/-- The columns of a line, together with what the line is to a character before it. -/
def measure : List Char → Int × Surroundings
  | [] => (0, .empty)
  | c :: rest =>
    let (columns, surroundings) := measure rest
    let (more, surroundings') := surroundings.before c
    (columns + more, surroundings')

/-- The columns of a line of text. -/
def width (line : List Char) : Nat :=
  (measure line).1.toNat

end Phrasebook.Text
