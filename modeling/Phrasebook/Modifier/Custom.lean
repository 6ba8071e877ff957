import Phrasebook.Modifier

/-!
# Further modifiers

Modifiers that a host may register beside the built-in ones, mostly to see how a registry treats
modifiers it does not know.
-/

namespace Phrasebook.Modifier

/-- Accepts always, with the text of the clause. -/
def accepting : Modifier :=
  ofOutput fun call => some call.text

/-- Puts out one text always. -/
def constant (text : String) : Modifier :=
  ofOutput fun _ => some text

/-- Declines always. -/
def declining : Modifier :=
  ofOutput fun _ => none

/-- Accepts an even integer as reference value. -/
def even : Modifier :=
  ofOutput fun call =>
    match call.reference with
    | some (.number n) => if n.toInt % 2 = 0 then some call.text else none
    | _ => none

/-- Accepts when there is a reference value. -/
def present : Modifier :=
  ofOutput fun call => if call.reference.isSome then some call.text else none

/-- Puts out the text of the clause with its ASCII letters in upper case. -/
def upperCase : Modifier :=
  ofOutput fun call => some (String.ofList (call.text.toList.map Char.toUpper))

/-- Accepts when a parameter is set, and adds its text to the text of the clause. -/
def withParameter (name : String) : Modifier :=
  ofOutput fun call => (call.params.get? name).map fun value => call.text ++ " " ++ value.display

/-- A value with its kind. -/
def showKind : Value → String
  | .number n => "number:" ++ (Value.number n).display
  | .float x => "float:" ++ (Value.float x).display
  | .string s => "string:" ++ s
  | .bool b => "bool:" ++ (Value.bool b).display

/-- Puts out all it is asked, between angle brackets. -/
def echo : Modifier :=
  ofOutput fun call =>
    let reference := (call.reference.map showKind).getD "none"
    let params := call.params.entries.map fun (name, value) => name ++ "=" ++ showKind value
    let sorted := params.mergeSort fun a b => decide (a ≤ b)
    let parts := [reference, showKind call.value, call.text, String.intercalate "," sorted]
    some ("<" ++ String.intercalate "|" parts ++ ">")

/-- Accepts always, and installs under a name a modifier that puts out `late`. -/
def installing (name : String) : Modifier :=
  ⟨fun call => some call.text, fun _ => [(name, constant "late")]⟩

end Phrasebook.Modifier
