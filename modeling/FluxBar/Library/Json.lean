import Mathlib.Data.List.Basic

/-! JSON values, the members an encoder writes or omits, and the members a decoder
requires or does without. Text and number syntax are below this level. -/
namespace JsonFormat

inductive Json where
  | null
  | bool (value : Bool)
  | int (value : Int)
  | string (value : String)
  | array (items : List Json)
  | object (members : List (String × Json))

/-! ## Encoding -/

/-- An object of the members that are not omitted, in the order in which they are listed. -/
def objectOf (members : List (Option (String × Json))) : Json := .object (members.filterMap id)

/-- A member that is always written. -/
def member (key : String) (value : Json) : Option (String × Json) := some (key, value)

/-- A member that is omitted under a condition. -/
def memberUnless (omitted : Bool) (key : String) (value : Json) : Option (String × Json) :=
  if omitted then none else some (key, value)

/-- A member written for a value that is there. -/
def memberIfSome {α : Type} (key : String) (encode : α → Json) (value : Option α) :
    Option (String × Json) :=
  value.map fun value => (key, encode value)

/-! ## Decoding -/

section Decoding
variable {α : Type}

/-- The first member under a key; nothing for a value that is no object. -/
def Json.find? (json : Json) (key : String) : Option Json :=
  match json with
  | .object members => (members.find? fun member => member.1 = key).map Prod.snd
  | _ => none

def asBool : Json → Option Bool
  | .bool value => some value
  | _ => none

def asInt : Json → Option Int
  | .int value => some value
  | _ => none

/-- The integers of 64 bits. -/
def InI64 (value : Int) : Prop := -9223372036854775808 ≤ value ∧ value < 9223372036854775808

instance : DecidablePred InI64 := fun _ => inferInstanceAs (Decidable (_ ∧ _))

/-- An integer, where 64 bits hold it. A number beyond them is refused as one that is no
integer is, not cut to its low bits. -/
def asI64 : Json → Option Int
  | .int value => if InI64 value then some value else none
  | _ => none

def asString : Json → Option String
  | .string value => some value
  | _ => none

/-- An array each of whose items decodes. One item that is refused refuses the whole array.
-/
def asArray (decode : Json → Option α) : Json → Option (List α)
  | .array items => items.mapM decode
  | _ => none

/-- A member that must be there and decode. -/
def decodeMember (decode : Json → Option α) (json : Json) (key : String) : Option α :=
  (json.find? key).bind decode

/-- A value that may be null. Null is told apart from what the decoder refuses, which stays
refused. -/
def nullable (decode : Json → Option α) : Json → Option (Option α)
  | .null => some none
  | value => (decode value).map some

/-- A member that may be missing or null, both of which are read as no value; a member that
is there must decode. -/
def decodeIfPresent (decode : Json → Option α) (json : Json) (key : String) : Option (Option α) :=
  match json.find? key with
  | none => some none
  | some value => nullable decode value

/-- The value a derived decoder finds for a field of a structure: by name in an object, which
may not name a field twice, and by place in an array, which may not be longer than the
structure. -/
def Json.field (json : Json) (names : List String) (name : String) : Option (Option Json) :=
  match json with
  | .object members =>
    match members.filter fun member => member.1 = name with
    | [] => some none
    | [member] => some (some member.2)
    | _ => none
  | .array items => if items.length ≤ names.length then some items[names.idxOf name]? else none
  | _ => none

/-- A field that may be missing. -/
def fieldOr (decode : Json → Option α) (default : α) (json : Json) (names : List String)
    (name : String) : Option α :=
  match json.field names name with
  | none => none
  | some none => some default
  | some (some value) => decode value

end Decoding

/-! ## Members found -/

section Members
variable {key other : String} {value : Json} {members : List (Option (String × Json))}
  {omitted : Bool}

@[simp] theorem find?_objectOf_nil : (objectOf []).find? key = none := rfl

@[simp] theorem find?_member : (objectOf (member key value :: members)).find? key = some value := by
  simp [objectOf, member, Json.find?]

theorem find?_member_other (apart : key ≠ other) :
    (objectOf (member key value :: members)).find? other = (objectOf members).find? other := by
  simp [objectOf, member, Json.find?, apart]

theorem find?_memberUnless : (objectOf (memberUnless omitted key value :: members)).find? key =
    if omitted then (objectOf members).find? key else some value := by
  cases omitted <;> simp [objectOf, memberUnless, Json.find?]

theorem find?_memberUnless_other (apart : key ≠ other) :
    (objectOf (memberUnless omitted key value :: members)).find? other =
      (objectOf members).find? other := by
  cases omitted <;> simp [objectOf, memberUnless, Json.find?, apart]

theorem find?_memberIfSome {α : Type} {encode : α → Json} {held : Option α} :
    (objectOf (memberIfSome key encode held :: members)).find? key =
      held.elim ((objectOf members).find? key) fun value => some (encode value) := by
  cases held <;> simp [objectOf, memberIfSome, Json.find?]

theorem find?_memberIfSome_other {α : Type} {encode : α → Json} {held : Option α}
    (apart : key ≠ other) :
    (objectOf (memberIfSome key encode held :: members)).find? other =
      (objectOf members).find? other := by
  cases held <;> simp [objectOf, memberIfSome, Json.find?, apart]

end Members

theorem asI64_eq_some {json : Json} {value : Int} :
    asI64 json = some value ↔ json = .int value ∧ InI64 value := by
  cases json with
  | int held =>
    unfold asI64
    dsimp only
    split_ifs with fits
    · constructor
      · rintro ⟨rfl⟩
        exact ⟨rfl, fits⟩
      · rintro ⟨⟨rfl⟩, _⟩
        rfl
    · simp only [Json.int.injEq, false_iff]
      rintro ⟨rfl, within⟩
      exact fits within
  | null | bool | string | array | object => simp [asI64]

theorem inI64_zero : InI64 0 := by decide

theorem asI64_int {value : Int} (fits : InI64 value) : asI64 (.int value) = some value :=
  asI64_eq_some.mpr ⟨rfl, fits⟩

theorem asI64_int_beyond {value : Int} (beyond : ¬ InI64 value) : asI64 (.int value) = none :=
  if_neg beyond

theorem decode_of_nullable {α : Type} {decode : Json → Option α} {json : Json} {value : α}
    (decoded : nullable decode json = some (some value)) : decode json = some value := by
  cases json with
  | null => cases decoded
  | int | bool | string | array | object => simpa [nullable] using decoded

/-- An array that decodes holds what its items do, one for one and in order. Here the
decoder may refuse some items; what is known is what it reads of those that it accepts. -/
theorem map_of_asArray {α β : Type} {encode : α → Json} {decode : Json → Option β} {read : α → β}
    (reads : ∀ item value, decode (encode item) = some value → value = read item)
    {items : List α} {held : List β}
    (decoded : asArray decode (.array (items.map encode)) = some held) : held = items.map read := by
  replace decoded : (items.map encode).mapM decode = some held := decoded
  induction items generalizing held with
  | nil =>
    cases decoded
    rfl
  | cons item rest ih =>
    rw [List.map_cons, List.mapM_cons] at decoded
    obtain ⟨value, first, decoded⟩ := Option.bind_eq_some_iff.mp decoded
    obtain ⟨values, later, decoded⟩ := Option.bind_eq_some_iff.mp decoded
    cases decoded
    rw [reads item value first, ih later, List.map_cons]

/-- An array is decoded item by item. -/
theorem asArray_map {α β : Type} {encode : α → Json} {decode : Json → Option β} {read : α → β}
    (reads : ∀ item, decode (encode item) = some (read item)) (items : List α) :
    asArray decode (.array (items.map encode)) = some (items.map read) := by
  change (items.map encode).mapM decode = some (items.map read)
  induction items with
  | nil => rfl
  | cons item rest ih =>
    rw [List.map_cons, List.mapM_cons, reads item]
    simp only [ih, Option.bind_eq_bind, Option.bind_some, List.map_cons]
    rfl

end JsonFormat
