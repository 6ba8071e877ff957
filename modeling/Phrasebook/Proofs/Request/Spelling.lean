import Mathlib.Data.List.Basic
import Phrasebook.Localizer

/-!
# The spellings of a request

A request can be written as a JSON object, and a query may hold that object in several ways: as it
is, as its text, in a wrapper, as a text in a wrapper, or as the text of such a wrapper. All of them
amount to the request and get its answer; and a text that is no JSON, bare or in a wrapper, is the
answer itself (`translate_spelling`).

What is read back is every field of the request. Only a double that is infinite or undefined cannot
be: JSON has no number for it, and `null` stands in its place.
-/

namespace Phrasebook

/-! ### Parameters as JSON -/

namespace Value

/-- The JSON of a value. A double that is no number in JSON becomes `null`. -/
def toJson : Value → Json
  | number n => .int n.toInt
  | float x => if Double.isFinite x then .float x else .null
  | string s => .string s
  | bool b => .bool b

/-- An integer of 64 bits is read as the number that it is. -/
theorem ofInt_toInt (n : Int64) : ofInt n.toInt = number n := by
  have hlow : minInt64 ≤ n.toInt := Int64.minValue_le_toInt n
  have hhigh : n.toInt ≤ maxInt64 := Int64.toInt_le n
  rw [ofInt, if_pos ⟨hlow, hhigh⟩, Int64.ofInt_toInt]

/-- A value is read back from its JSON, unless it is an infinite or undefined double. -/
theorem ofJson?_toJson {v : Value} (h : ∀ x, v = .float x → Double.isFinite x) :
    ofJson? v.toJson = some v := by
  cases v with
  | number n => exact congrArg some (ofInt_toInt n)
  | float x =>
    have hfinite : Double.isFinite x := h x rfl
    rw [toJson, if_pos hfinite, ofJson?]
  | string s => rfl
  | bool b => rfl

end Value

namespace Request

/-! ### Requests as JSON -/

/-- The fields of a request by name; one that is not set has no value. -/
def fields (r : Request) : List (String × Option Json) :=
  [("iso", r.iso.map .string), ("key", r.key.map .string), ("alt", r.alt.map .string),
    ("params", r.params.map fun params => .object (params.map Value.toJson).entries),
    ("force_iso", some (.bool r.forceIso))]

/-- The members that fields make: one for each that has a value. -/
def members (fields : List (String × Option Json)) : List (String × Json) :=
  fields.filterMap fun field => field.2.map fun json => (field.1, json)

/-- The object of a request. -/
def toJson (r : Request) : Json :=
  Json.ofMembers (members r.fields)

/-- Whether all doubles among the parameters are numbers in JSON. -/
def FiniteParams (r : Request) : Prop :=
  ∀ params, r.params = some params → ∀ name x,
    params.get? name = some (.float x) → Double.isFinite x

/-- A member is there under a name if the field of that name has a value. -/
theorem lookup_members {fields : List (String × Option Json)}
    (h : (fields.map Prod.fst).Nodup) (name : String) :
    (members fields).lookup name = (fields.lookup name).join := by
  induction fields with
  | nil => rfl
  | cons field rest ih =>
    obtain ⟨key, json?⟩ := field
    obtain ⟨hkey, hrest⟩ := List.nodup_cons.1 h
    have hih := ih hrest
    rw [Keyed.lookup_cons_eq]
    cases json? with
    | some json =>
      have hcons : members ((key, some json) :: rest) = (key, json) :: members rest := rfl
      rw [hcons, Keyed.lookup_cons_eq, hih]
      split <;> rfl
    | none =>
      have hcons : members ((key, none) :: rest) = members rest := rfl
      rw [hcons, hih]
      split
      · next heq =>
        -- names differ, so no later field stands in for the one without a value
        have hnone : rest.lookup key = none := by
          rw [List.lookup_eq_none_iff]
          intro later hlater
          have hmem : later.1 ∈ rest.map Prod.fst := List.mem_map_of_mem hlater
          have hne : key ≠ later.1 := fun e => hkey (e ▸ hmem)
          simpa using hne
        rw [heq, hnone]
        rfl
      · rfl

/-- A member of a request that is written as an object is its last field of that name. -/
theorem member?_toJson (r : Request) (name : String) :
    r.toJson.member? name = (r.fields.reverse.lookup name).join := by
  have hnames : r.fields.reverse.map Prod.fst = ["force_iso", "params", "alt", "key", "iso"] := rfl
  have hnodup : (r.fields.reverse.map Prod.fst).Nodup := by
    rw [hnames]
    decide
  have hreverse : members r.fields.reverse = (members r.fields).reverse := List.filterMap_reverse
  rw [← lookup_members hnodup, hreverse]
  exact Keyed.get?_ofList _ name

/-! ### Requests read back -/

/-- Parameters are read back from their members. -/
theorem paramsOfMembers_map {params : Params}
    (h : ∀ name x, params.get? name = some (.float x) → Double.isFinite x) :
    paramsOfMembers (params.map Value.toJson).entries = params := by
  have hread : ∀ e ∈ params.entries,
      (Value.ofJson? e.2.toJson).map (fun value => (e.1, value)) = some e := by
    intro e he
    have hvalue : Value.ofJson? e.2.toJson = some e.2 := by
      refine Value.ofJson?_toJson fun x hx => h e.1 x ?_
      rw [Keyed.get?_eq_some_iff, ← hx]
      exact he
    rw [hvalue]
    rfl
  have hentries : (params.map Value.toJson).entries.filterMap
      (fun member => (Value.ofJson? member.2).map fun value => (member.1, value)) =
      params.entries := by
    rw [Keyed.map, List.filterMap_map]
    exact (List.filterMap_congr hread).trans List.filterMap_some
  exact (congrArg Keyed.ofList hentries).trans params.ofList_entries

/-- A string that may be there is read back from its member. -/
theorem scalar?_of_member? {json : Json} {name : String} {s? : Option String}
    (h : json.member? name = s?.map .string) : scalar? json name = s? := by
  rw [scalar?, h]
  cases s? <;> rfl

/-- Parameters that may be there are read back from their member. -/
theorem params?_toJson {r : Request} (h : r.FiniteParams) : params? r.toJson = r.params := by
  have hmember : r.toJson.member? "params" =
      r.params.map fun params => .object (params.map Value.toJson).entries :=
    member?_toJson r "params"
  rw [params?, hmember]
  cases hparams : r.params with
  | none => rfl
  | some params => exact congrArg some (paramsOfMembers_map (h params hparams))

/-- A request is read back from its object. -/
theorem ofJson_toJson {r : Request} (h : r.FiniteParams) : ofJson r.toJson = r := by
  have hiso : scalar? r.toJson "iso" = r.iso := scalar?_of_member? (member?_toJson r "iso")
  have hkey : scalar? r.toJson "key" = r.key := scalar?_of_member? (member?_toJson r "key")
  have halt : scalar? r.toJson "alt" = r.alt := scalar?_of_member? (member?_toJson r "alt")
  have hforce : r.toJson.member? "force_iso" = some (.bool r.forceIso) :=
    member?_toJson r "force_iso"
  rw [ofJson, hiso, hkey, halt, params?_toJson h, hforce]
  rfl

end Request

namespace Query

/-! ### Queries that hold a value -/

/-- An object that wraps a value as its `text`, or a text of the value. Its other members may be
anything. -/
inductive Wraps (json : Json) : Json → Prop where
  | value {members : List (String × Json)} (h : members.lookup "text" = some json) :
      Wraps json (.object members)
  | text {members : List (String × Json)} {t : String}
      (h : members.lookup "text" = some (.string t)) (hread : Json.read? t = some json) :
      Wraps json (.object members)

/-- The queries that hold a value: the value itself, a wrapper of it, and a text of either. -/
inductive Spells (json : Json) : Json → Prop where
  | plain : Spells json json
  | wrapped {wrapper : Json} (h : Wraps json wrapper) : Spells json wrapper
  | text {t : String} (hread : Json.read? t = some json) : Spells json (.string t)
  | wrappedText {t : String} {wrapper : Json} (h : Wraps json wrapper)
      (hread : Json.read? t = some wrapper) : Spells json (.string t)

/-- An object holds what is left without its wrapper. -/
theorem ofJson_object (members : List (String × Json)) :
    ofJson (.object members) = unwrap (.object members) := rfl

/-- A text that is not empty holds what the JSON does that it reads as, or else itself. -/
theorem ofJson_string {s : String} (h : s ≠ "") : ofJson (.string s) = ofText s unwrap := by
  have htruthy : (Json.string s).isTruthy = true := by
    simpa [Json.isTruthy] using h
  rw [ofJson, if_pos htruthy]

/-- The empty text is no JSON. -/
theorem ne_empty_of_read? {t : String} {json : Json} (h : Json.read? t = some json) : t ≠ "" := by
  have hempty : Json.read? "" = none := by decide +kernel
  rintro rfl
  rw [hempty] at h
  cases h

/-- A text of a value holds what is left of the value without its wrapper. -/
theorem ofJson_of_read? {t : String} {json : Json} (h : Json.read? t = some json) :
    ofJson (.string t) = unwrap json := by
  rw [ofJson_string (ne_empty_of_read? h), ofText, h]

/-- Without a member `text` an object is no wrapper. -/
theorem unwrap_of_no_text {members : List (String × Json)} (h : members.lookup "text" = none) :
    unwrap (.object members) = .request (Request.ofJson (.object members)) := by
  rw [unwrap, Json.member?, h]
  rfl

/-- The wrapper of an object holds that object; it does not matter whether the object looks like a
wrapper itself. -/
theorem unwrap_of_wraps {members : List (String × Json)} {wrapper : Json}
    (h : Wraps (.object members) wrapper) :
    unwrap wrapper = .request (Request.ofJson (.object members)) := by
  cases h with
  | value hmember =>
    rw [unwrap, Json.member?, hmember]
    rfl
  | text hmember hread =>
    rw [unwrap, Json.member?, hmember]
    simp only [ofText, hread]
    rfl

/-- Every query that holds an object without a member `text` amounts to the request of that
object. -/
theorem ofJson_of_spells {members : List (String × Json)} {json : Json}
    (htext : members.lookup "text" = none) (h : Spells (.object members) json) :
    ofJson json = .request (Request.ofJson (.object members)) := by
  cases h with
  | plain => rw [ofJson_object, unwrap_of_no_text htext]
  | wrapped hwraps =>
    have hunwrap := unwrap_of_wraps hwraps
    cases hwraps <;> exact hunwrap
  | text hread => rw [ofJson_of_read? hread, unwrap_of_no_text htext]
  | wrappedText hwraps hread => rw [ofJson_of_read? hread, unwrap_of_wraps hwraps]

/-- A text that is no JSON is itself. -/
theorem ofJson_string_of_no_json {s : String} (hs : s ≠ "") (hread : Json.read? s = none) :
    ofJson (.string s) = .text s := by
  rw [ofJson_string hs, ofText, hread]

/-- A text that is no JSON is itself in a wrapper, too. -/
theorem ofJson_object_of_no_json {s : String} (hread : Json.read? s = none)
    {members : List (String × Json)} (hmember : members.lookup "text" = some (.string s)) :
    ofJson (.object members) = .text s := by
  rw [ofJson_object, unwrap, Json.member?, hmember]
  simp only [ofText, hread]

end Query

/-! ### Answers -/

namespace Localizer

/-- A document is answered by the query that it is read as. -/
theorem translate_of_ofJson {json : Json} {query : Query} (h : Query.ofJson json = query)
    (l : Localizer) : l.translate json = l.answer query :=
  congrArg l.answer h

/-- Every spelling of a request amounts to that request and gets its answer, provided that JSON can
hold its parameters. A text that is not empty and is no JSON amounts to itself and is the answer,
bare or in a wrapper. -/
theorem translate_spelling (l : Localizer) :
    (∀ r : Request, r.FiniteParams → ∀ json, Query.Spells r.toJson json →
      Query.ofJson json = .request r ∧ l.translate json = l.get r) ∧
    ∀ s : String, s ≠ "" → Json.read? s = none →
      (Query.ofJson (.string s) = .text s ∧ l.translate (.string s) = some s) ∧
      ∀ members : List (String × Json), members.lookup "text" = some (.string s) →
        Query.ofJson (.object members) = .text s ∧ l.translate (.object members) = some s := by
  constructor
  · intro r hfinite json hspells
    have htext : r.toJson.member? "text" = none := r.member?_toJson "text"
    have hquery : Query.ofJson json = .request r := by
      rw [Query.ofJson_of_spells htext hspells]
      exact congrArg Query.request (Request.ofJson_toJson hfinite)
    exact ⟨hquery, translate_of_ofJson hquery l⟩
  · intro s hs hread
    have hbare := Query.ofJson_string_of_no_json hs hread
    refine ⟨⟨hbare, translate_of_ofJson hbare l⟩, fun members hmember => ?_⟩
    have hwrapped := Query.ofJson_object_of_no_json hread hmember
    exact ⟨hwrapped, translate_of_ofJson hwrapped l⟩

set_option maxRecDepth 20000 in
/-- A request given as the text of a wrapper that holds it as a text, one with a double given in a
wrapper, and a text that is no JSON, given bare and in a wrapper. -/
theorem translate_spelling_nested :
    let l := ofCatalog ⟨some ⟨none, none, Keyed.ofList [("hi", "@\x7bvar=n\x7d!")]⟩, none⟩
    let bare : Request := ⟨none, some "hi", none, none, false⟩
    let half : Request := ⟨none, some "hi", none, some (Keyed.ofList [("n", .float 0.5)]), false⟩
    let nested := Json.string
      "\x7b\"id\":7,\"text\":\"\x7b\\\"key\\\":\\\"hi\\\",\\\"force_iso\\\":false\x7d\"\x7d"
    let wrapped := Json.object [("text", half.toJson), ("key", .null)]
    (bare.FiniteParams ∧ Query.Spells bare.toJson nested ∧
      l.translate nested = some "@\x7bvar=n\x7d!") ∧
    (half.FiniteParams ∧ Query.Spells half.toJson wrapped ∧ l.translate wrapped = l.get half) ∧
    ("hi" ≠ "" ∧ Json.read? "hi" = none ∧ l.translate (.string "hi") = some "hi" ∧
      [("text", Json.string "hi")].lookup "text" = some (.string "hi") ∧
      l.translate (.object [("text", .string "hi")]) = some "hi") := by
  have hjson : Request.toJson ⟨none, some "hi", none, none, false⟩ =
      .object [("force_iso", .bool false), ("key", .string "hi")] := rfl
  have hinner : Json.read? "\x7b\"key\":\"hi\",\"force_iso\":false\x7d" =
      some (.object [("force_iso", .bool false), ("key", .string "hi")]) := rfl
  have houter : Json.read?
        "\x7b\"id\":7,\"text\":\"\x7b\\\"key\\\":\\\"hi\\\",\\\"force_iso\\\":false\x7d\"\x7d" =
      some (.object [("id", .int 7),
        ("text", .string "\x7b\"key\":\"hi\",\"force_iso\":false\x7d")]) := rfl
  have hhi : Json.read? "hi" = none := rfl
  intro l bare half nested wrapped
  obtain ⟨hrequests, htexts⟩ := translate_spelling l
  have hbare : bare.FiniteParams := by
    intro params hparams
    cases hparams
  have hhalf : half.FiniteParams := by
    intro params hparams name x hx
    obtain rfl := Option.some.inj hparams
    rw [Keyed.get?_ofList] at hx
    have hx' : name = "n" ∧ 0.5 = x := by simpa [Keyed.lookup_cons_eq] using hx
    rw [← hx'.2]
    decide
  have hnested : Query.Spells bare.toJson nested := by
    rw [hjson]
    exact .wrappedText (.text rfl hinner) houter
  have hwrapped : Query.Spells half.toJson wrapped := .wrapped (.value rfl)
  have hne : "hi" ≠ "" := by decide
  have hmember : [("text", Json.string "hi")].lookup "text" = some (.string "hi") := rfl
  refine ⟨⟨hbare, hnested, ?_⟩, ⟨hhalf, hwrapped, ?_⟩, ⟨hne, hhi, ?_, hmember, ?_⟩⟩
  · have hget : l.get bare = some "@\x7bvar=n\x7d!" := by decide +kernel
    rw [(hrequests bare hbare nested hnested).2, hget]
  · exact (hrequests half hhalf wrapped hwrapped).2
  · exact (htexts "hi" hne hhi).1.2
  · exact ((htexts "hi" hne hhi).2 _ hmember).2

end Localizer

end Phrasebook
