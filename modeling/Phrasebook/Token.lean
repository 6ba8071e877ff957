/-!
# Tokens of output text

The text that a clause puts out may mention parameters: a dollar sign followed by one or more ASCII
letters, digits or underscores. Scanning splits a text into such mentions, each as long as it can
be, and the runs of literal text between them; a dollar sign that no name follows is a run by
itself.
-/

namespace Phrasebook

/-- A piece of output text. -/
inductive Token where
  | literal (text : String)
  | parameter (name : String)
  deriving DecidableEq, Repr

namespace Token

/-- A character of a parameter's name. -/
def isWordChar (c : Char) : Bool :=
  ('a' ≤ c && c ≤ 'z') || ('A' ≤ c && c ≤ 'Z') || ('0' ≤ c && c ≤ '9') || c == '_'

/-- The mention that begins a text: its name, and the text after it. -/
def mentionAt? : List Char → Option (List Char × List Char)
  | '$' :: rest =>
    if (rest.takeWhile isWordChar).isEmpty then none
    else some (rest.takeWhile isWordChar, rest.dropWhile isWordChar)
  | _ => none

/-- The tokens of a text. -/
def scan : List Char → List Token
  | [] => []
  | c :: rest =>
    if c = '$' then
      if (rest.takeWhile isWordChar).isEmpty then .literal "$" :: scan rest
      else
        .parameter (String.ofList (rest.takeWhile isWordChar)) :: scan (rest.dropWhile isWordChar)
    else
      .literal (String.ofList (c :: rest.takeWhile (· ≠ '$'))) :: scan (rest.dropWhile (· ≠ '$'))
termination_by cs => cs.length
decreasing_by
  · simp
  · exact Nat.lt_succ_of_le (List.dropWhile_suffix _).length_le
  · exact Nat.lt_succ_of_le (List.dropWhile_suffix _).length_le

/-- The tokens of a string. -/
def ofString (text : String) : List Token :=
  scan text.toList

/-- The parameter that a text mentions if it is one mention and nothing else. -/
def lone? (cs : List Char) : Option String :=
  match mentionAt? cs with
  | some (name, []) => some (String.ofList name)
  | _ => none

/-- The text a token was written as. -/
def render : Token → String
  | literal text => text
  | parameter name => "$" ++ name

end Token

end Phrasebook
