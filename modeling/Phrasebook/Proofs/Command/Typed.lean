import Phrasebook.Proofs.Block.Sections
import Phrasebook.Proofs.Command.Eval
import Phrasebook.Proofs.Decimal.Typed
import Phrasebook.Proofs.Template.Canonical

/-!
# Parameters as they are typed

A typed parameter falls apart at its first equals sign (`splitParam?_eq_some_iff`), and of several
values for one name the last one counts (`get?_paramsOfTyped`). The block that shows the parameter
becomes the value as it was typed, unless that is an integer of 64 bits: such a value is kept as a
number and shown as its decimal text. So a value loses a plus sign and needless zeros in front, and
nothing else (`shown_as_typed`); three digits of which two are zeros come out as one
(`shown_without_zeros`).
-/

namespace Phrasebook

/-! ### The value of a typed text -/

/-- A typed text that is no integer is shown as it is. -/
theorem Value.display_ofTyped_of_not_typed {s : String}
    (h : ∀ n : Int64, ¬ TypedInteger s.toList n.toInt) : (Value.ofTyped s).display = s := by
  have hnone : int64? s.toList = none :=
    Option.eq_none_iff_forall_ne_some.mpr fun n hn => h n (int64?_eq_some_iff.mp hn)
  rw [Value.ofTyped, hnone]
  rfl

/-- A typed integer is shown as its decimal text. -/
theorem Value.display_ofTyped_of_typed {s : String} {n : Int64}
    (h : TypedInteger s.toList n.toInt) : (Value.ofTyped s).display = toString n.toInt := by
  rw [Value.ofTyped, int64?_eq_some_iff.mpr h]
  rfl

/-- A typed text is shown as it is unless it is an integer with a plus sign or with needless zeros
in front. -/
theorem Value.display_ofTyped_eq_self_iff {s : String} :
    (Value.ofTyped s).display = s ↔
      ∀ n : Int64, TypedInteger s.toList n.toInt → isPadded s.toList = false := by
  by_cases hinteger : ∃ n : Int64, TypedInteger s.toList n.toInt
  · obtain ⟨n, hn⟩ := hinteger
    rw [Value.display_ofTyped_of_typed hn, ← String.toList_inj, toList_toString_eq_iff hn]
    exact ⟨fun h _ _ => h, fun h => h n hn⟩
  · have hnone := not_exists.mp hinteger
    exact iff_of_true (Value.display_ofTyped_of_not_typed hnone) fun n hn => absurd hn (hnone n)

/-! ### The block that shows a parameter -/

/-- A name that a block can show. -/
structure Showable (name : String) : Prop where
  ne_empty : name ≠ ""
  trimmed : Text.trim name.toList = name.toList
  no_equals : '=' ∉ name.toList
  no_bar : '|' ∉ name.toList
  no_brace : '\x7d' ∉ name.toList
  no_return : '\r' ∉ name.toList
  no_feed : '\n' ∉ name.toList

/-- What stands inside the block that shows a parameter. -/
def showContent (name : String) : String :=
  "var=" ++ name

/-- The template that is nothing but the block that shows a parameter. -/
def showTemplate (name : String) : String :=
  "@\x7b" ++ showContent name ++ "\x7d"

/-- The characters of the content: the mark, and the name after its equals sign. -/
theorem toList_showContent (name : String) :
    (showContent name).toList = "var".toList ++ '=' :: name.toList := by
  simp [showContent]

/-- A character of the content is one of the mark or of the name. -/
theorem not_mem_showContent {name : String} {c : Char} (hmark : c ∉ "var=".toList)
    (hname : c ∉ name.toList) : c ∉ (showContent name).toList := by
  simp only [showContent, String.toList_append, List.mem_append, not_or]
  exact ⟨hmark, hname⟩

namespace Showable

variable {name : String}

/-- Nothing in the content ends the block. -/
theorem inner_content (h : Showable name) : Template.Inner (showContent name).toList := by
  intro c hc
  rw [Template.endsContent_eq_false_iff]
  refine ⟨?_, ?_, ?_⟩
  · rintro rfl
    exact not_mem_showContent (by decide) h.no_brace hc
  · rintro rfl
    exact not_mem_showContent (by decide) h.no_feed hc
  · rintro rfl
    exact not_mem_showContent (by decide) h.no_return hc

/-- The content is one section, and it names the parameter. -/
theorem ofContent_content (h : Showable name) :
    BlockKind.ofContent (showContent name) = .ok (.parameter name) := by
  have hbars : ¬ "||".toList <:+: (showContent name).toList := fun hin =>
    not_mem_showContent (by decide) h.no_bar (hin.subset (by decide))
  have hmark : Sections.parameterMark.toList <:+: (showContent name).toList :=
    ⟨[], name.toList, by simp [showContent, Sections.parameterMark]⟩
  have hne : name.toList ≠ [] := by simpa using h.ne_empty
  have hassigned : Sections.assigned? (showContent name).toList = some name := by
    unfold Sections.assigned?
    rw [toList_showContent]
    simp only [Text.cutAt?_append_cons (show '=' ∉ "var".toList by decide), h.trimmed,
      h.no_equals, hne, or_self, if_false, String.ofList_toList]
  rw [BlockKind.ofContent, Sections.ofContent_eq_ofSection hbars, Sections.ofSection,
    if_pos hmark, hassigned]
  rfl

/-- The block that shows a parameter becomes the text of its value. -/
theorem tryExpand_template (h : Showable name) (r : Registry) {params : Params} {value : Value}
    (hvalue : params.get? name = some value) :
    r.tryExpand (showTemplate name) params = .ok value.display := by
  have hshow : ((Setting.mk r params).showParameter name).result = value.display := by
    unfold Setting.showParameter
    rw [hvalue]
    rfl
  unfold Registry.tryExpand Setting.expandText Setting.expandTemplate showTemplate
  rw [Template.parse_enclose h.inner_content, Setting.result_expandSegments_cons,
    Setting.expandSegment, Setting.expandBlock_of_parameter _ h.ofContent_content,
    Run.result_map, hshow]
  simp [Setting.expandSegments, Except.bind, Except.map]

end Showable

/-! ### Typed parameters -/

namespace Command

/-- A name without an equals sign is split from the value that is typed for it. -/
theorem splitParam?_append {name : String} (h : '=' ∉ name.toList) (value : String) :
    splitParam? (name ++ "=" ++ value) = some (name, value) := by
  have htext : (name ++ "=" ++ value).toList = name.toList ++ '=' :: value.toList := by simp
  unfold splitParam?
  rw [htext, Text.takeWhile_ne_append_cons h, Text.dropWhile_ne_append_cons h]
  simp

/-- A typed parameter falls apart at its first equals sign. -/
theorem splitParam?_eq_some_iff {argument name value : String} :
    splitParam? argument = some (name, value) ↔
      argument = name ++ "=" ++ value ∧ '=' ∉ name.toList := by
  constructor
  · intro h
    have hequals : '=' ∈ argument.toList := by
      by_contra hno
      rw [splitParam?, Text.dropWhile_ne_of_not_mem hno] at h
      cases h
    obtain ⟨first, rest, htext, hfirst⟩ := List.eq_append_cons_of_mem hequals
    have hargument : argument = String.ofList first ++ "=" ++ String.ofList rest := by
      rw [← String.toList_inj, htext]
      simp
    rw [hargument, splitParam?_append (by simpa using hfirst)] at h
    obtain ⟨rfl, rfl⟩ := Prod.mk.inj (Option.some.inj h)
    exact ⟨hargument, by simpa using hfirst⟩
  · rintro ⟨rfl, h⟩
    exact splitParam?_append h value

/-- Of several values for one name the last one counts. -/
theorem get?_paramsOfTyped {front back : List (String × String)} {name value : String}
    (h : ∀ p ∈ back, p.1 ≠ name) :
    (paramsOfTyped (front ++ (name, value) :: back)).get? name = some (Value.ofTyped value) := by
  have hnone : (back.map fun p => (p.1, Value.ofTyped p.2)).reverse.lookup name = none := by
    rw [List.lookup_eq_none_iff]
    intro p hp
    obtain ⟨q, hq, rfl⟩ := List.mem_map.mp (List.mem_reverse.mp hp)
    simpa using (h q hq).symm
  unfold paramsOfTyped
  rw [Keyed.get?_ofList, List.map_append, List.map_cons, List.reverse_append, List.reverse_cons,
    List.append_assoc, List.lookup_append, hnone]
  simp

/-- The last argument for a name gives the last pair for it. -/
theorem exists_last_pair {arguments before after : List String} {pairs : List (String × String)}
    {name value : String} (haccepted : arguments.map splitParam? = pairs.map some)
    (hlast : arguments = before ++ (name ++ "=" ++ value) :: after)
    (hafter : ∀ a ∈ after, ∀ other, a ≠ name ++ "=" ++ other) (hname : '=' ∉ name.toList) :
    ∃ front back, pairs = front ++ (name, value) :: back ∧ ∀ p ∈ back, p.1 ≠ name := by
  rw [hlast, List.map_append, List.map_cons, splitParam?_append hname] at haccepted
  obtain ⟨front, rest, rfl, -, hrest⟩ := List.map_eq_append_iff.mp haccepted.symm
  obtain ⟨pair, back, rfl, hpair, hback⟩ := List.map_eq_cons_iff.mp hrest
  obtain rfl := Option.some.inj hpair
  refine ⟨front, back, rfl, fun p hp heq => ?_⟩
  have hsome : some p ∈ after.map splitParam? := hback ▸ List.mem_map_of_mem hp
  obtain ⟨a, ha, hsplit⟩ := List.mem_map.mp hsome
  obtain ⟨htext, -⟩ := splitParam?_eq_some_iff.mp (show splitParam? a = some (p.1, p.2) from hsplit)
  exact hafter a ha p.2 (heq ▸ htext)

/-- The block that shows a typed parameter becomes the value that was typed last for its name. A
value that is an integer of 64 bits, with or without a sign, becomes the decimal text of the
integer, so it loses a plus sign and needless zeros in front, minus zero its sign with them; any
other value stays as it was typed. -/
theorem shown_as_typed {arguments before after : List String} {pairs : List (String × String)}
    {name value : String} (haccepted : arguments.map splitParam? = pairs.map some)
    (hlast : arguments = before ++ (name ++ "=" ++ value) :: after)
    (hafter : ∀ a ∈ after, ∀ other, a ≠ name ++ "=" ++ other) (hname : Showable name) :
    ∃ shown : String,
      (∀ r : Registry, r.tryExpand (showTemplate name) (paramsOfTyped pairs) = .ok shown) ∧
      (∀ verbose alt,
        let outcome := runEval verbose ⟨showTemplate name, pairs, alt, false⟩
        outcome.output = line shown ∧ outcome.code = codeOk) ∧
      ((∀ n : Int64, ¬ TypedInteger value.toList n.toInt) → shown = value) ∧
      (∀ n : Int64, TypedInteger value.toList n.toInt → shown = toString n.toInt) ∧
      (shown = value ↔
        ∀ n : Int64, TypedInteger value.toList n.toInt → isPadded value.toList = false) := by
  obtain ⟨front, back, rfl, hback⟩ := exists_last_pair haccepted hlast hafter hname.no_equals
  have hvalue : (paramsOfTyped (front ++ (name, value) :: back)).get? name =
      some (Value.ofTyped value) := get?_paramsOfTyped hback
  have hexpand (r : Registry) := hname.tryExpand_template r hvalue
  refine ⟨(Value.ofTyped value).display, hexpand, fun verbose alt => ⟨?_, ?_⟩,
    Value.display_ofTyped_of_not_typed, fun n => Value.display_ofTyped_of_typed,
    Value.display_ofTyped_eq_self_iff⟩
  · rw [output_runEval, Registry.expand_eq_of_tryExpand, hexpand]
    simp
  · rw [code_runEval, hexpand]

/-- Of two values for one name the second counts, a negative integer with a zero in front. -/
theorem shown_as_typed_last :
    let arguments := ["n=1=1", "m=2", "n=-08", "m=x"]
    let pairs := [("n", "1=1"), ("m", "2"), ("n", "-08"), ("m", "x")]
    arguments.map splitParam? = pairs.map some ∧
      arguments = ["n=1=1", "m=2"] ++ ("n" ++ "=" ++ "-08") :: ["m=x"] ∧
      (∀ a ∈ ["m=x"], ∀ other, a ≠ "n" ++ "=" ++ other) ∧
      Showable "n" ∧
      ∀ r : Registry, r.tryExpand "@\x7bvar=n\x7d" (paramsOfTyped pairs) = .ok "-8" := by
  have haccepted : ["n=1=1", "m=2", "n=-08", "m=x"].map splitParam? =
      [("n", "1=1"), ("m", "2"), ("n", "-08"), ("m", "x")].map some := by decide +kernel
  have hlast : ["n=1=1", "m=2", "n=-08", "m=x"] =
      ["n=1=1", "m=2"] ++ ("n" ++ "=" ++ "-08") :: ["m=x"] := by decide +kernel
  have hafter : ∀ a ∈ ["m=x"], ∀ other, a ≠ "n" ++ "=" ++ other := by
    intro a ha other h
    obtain rfl := List.mem_singleton.mp ha
    simpa using congrArg (fun s : String => s.toList.head?) h
  have hname : Showable "n" := by
    constructor <;> decide +kernel
  refine ⟨haccepted, hlast, hafter, hname, ?_⟩
  obtain ⟨shown, hexpand, -, -, hinteger, -⟩ :=
    shown_as_typed haccepted hlast hafter hname
  have hshown : shown = toString (-8 : Int64).toInt :=
    hinteger (-8) (int64?_eq_some_iff.mp (by decide +kernel))
  intro r
  rw [show "@\x7bvar=n\x7d" = showTemplate "n" by decide +kernel, hexpand r, hshown]
  rfl

/-- Three digits of which two are zeros in front are read as a number and shown as one digit. -/
theorem shown_without_zeros :
    splitParam? "n=007" = some ("n", "007") ∧
      Registry.builtin.tryExpand "@\x7bvar=n\x7d" (paramsOfTyped [("n", "007")]) = .ok "7" ∧
      "7" ≠ "007" := by
  decide +kernel

end Command

end Phrasebook
