import FluxBar.TransportProofs

/-! Requests beside what Go's `encoding/json` makes of the same members. Go decodes each member
into the request as it stands, where a null changes nothing; the core collects the members, the
last under each name, and reads a null as zero. -/
namespace FluxBar.Transport
open JsonFormat

/-! ## Decoding in place -/

section InPlace
variable {α : Type} (decode : Json → Option α) (zero : α) (name : String) (entry : String × Json)

/-- A field after a member: one under its name overwrites it, unless it is null. -/
def overwritten (held : α) : α :=
  if eqIgnoreAsciiCase name entry.1 then (decode entry.2).getD held else held

/-- A list after a member; a null empties it, and a null item is zero. -/
def refilled (held : List α) : List α :=
  if eqIgnoreAsciiCase name entry.1 then
    match entry.2 with
    | .null => []
    | .array items => items.map fun item => (decode item).getD zero
    | _ => held
  else held

end InPlace

/-- A selection after one of its members, decoded in place as Go does it: a null leaves the
value that is there. -/
def WireSelection.overwrite (selection : WireSelection) (entry : String × Json) : WireSelection where
  kind := overwritten asString "kind" entry selection.kind
  id := overwritten asI64 "id" entry selection.id
  unreadOnly := overwritten asBool "unreadOnly" entry selection.unreadOnly

/-- The members of an object. -/
def objectMembers : Json → List (String × Json)
  | .object members => members
  | _ => []

/-- The selection of a request after a member of the request; its own members are decoded
into what is held of it. -/
def reselected (entry : String × Json) (held : WireSelection) : WireSelection :=
  if eqIgnoreAsciiCase "selection" entry.1 then
    (objectMembers entry.2).foldl WireSelection.overwrite held
  else held

/-- A request after a member, decoded in place: the member that names a field in whatever
case gives its value, unless it is null. -/
def Request.overwrite (request : Request) (entry : String × Json) : Request where
  operation := overwritten asString "operation" entry request.operation
  server := overwritten asString "server" entry request.server
  apiKey := overwritten asString "apiKey" entry request.apiKey
  newestFirst := overwritten asBool "newestFirst" entry request.newestFirst
  configurationGeneration :=
    overwritten asI64 "configurationGeneration" entry request.configurationGeneration
  locales := refilled asString "" "locales" entry request.locales
  key := overwritten asString "key" entry request.key
  fallback := overwritten asString "fallback" entry request.fallback
  oneFallback := overwritten asString "oneFallback" entry request.oneFallback
  otherFallback := overwritten asString "otherFallback" entry request.otherFallback
  count := overwritten asI64 "count" entry request.count
  selection := reselected entry request.selection
  entryId := overwritten asI64 "entryID" entry request.entryId
  entryIds := refilled asI64 0 "entryIDs" entry request.entryIds
  retainEntryIds := refilled asI64 0 "retainEntryIDs" entry request.retainEntryIds
  read := overwritten asBool "read" entry request.read
  mutationSource := overwritten asString "mutationSource" entry request.mutationSource
  mutationId := overwritten asString "mutationID" entry request.mutationId
  currentStarred := overwritten asBool "currentStarred" entry request.currentStarred
  desiredStarred := overwritten asBool "desiredStarred" entry request.desiredStarred
  feedId := overwritten asI64 "feedID" entry request.feedId
  feedName := overwritten asString "feedName" entry request.feedName

/-- The members decoded in place, one after the other. -/
def Request.unmarshal (members : List (String × Json)) : Request :=
  members.foldl Request.overwrite {}

/-! ## Types -/

/-- A value of a type, or null, which either decoder takes. -/
def Typed {α : Type} (decode : Json → Option α) (value : Json) : Prop :=
  value = .null ∨ (decode value).isSome

/-- Null, or an array of values of a type or nulls. -/
def TypedList {α : Type} (decode : Json → Option α) (value : Json) : Prop :=
  value = .null ∨ ∃ items, value = .array items ∧ ∀ item ∈ items, Typed decode item

/-- The types of the fields of `Request`; integers are those of 64 bits. -/
inductive FieldKind where
  | string
  | int
  | bool
  | strings
  | ints
  | selection
  deriving DecidableEq, Repr

/-- The fields of `Request` outside a probe build. -/
def fieldKinds : List (String × FieldKind) := [
  ("operation", .string), ("server", .string), ("apiKey", .string), ("newestFirst", .bool),
  ("configurationGeneration", .int), ("locales", .strings), ("key", .string),
  ("fallback", .string), ("oneFallback", .string), ("otherFallback", .string), ("count", .int),
  ("selection", .selection), ("entryID", .int), ("entryIDs", .ints), ("retainEntryIDs", .ints),
  ("read", .bool), ("mutationSource", .string), ("mutationID", .string),
  ("currentStarred", .bool), ("desiredStarred", .bool), ("feedID", .int), ("feedName", .string)]

/-- The members of a selection have the types of its fields, and the others may be anything.
-/
def SelectionTyped (members : List (String × Json)) : Prop :=
  ∀ entry ∈ members, (eqIgnoreAsciiCase "kind" entry.1 → Typed asString entry.2) ∧
    (eqIgnoreAsciiCase "id" entry.1 → Typed asI64 entry.2) ∧
    (eqIgnoreAsciiCase "unreadOnly" entry.1 → Typed asBool entry.2)

/-- The values a field takes, null among them. An integer has at most 64 bits, and a
selection is an object whose members have the types of its own fields. -/
def FieldKind.Accepts (value : Json) : FieldKind → Prop
  | .string => Typed asString value
  | .int => Typed asI64 value
  | .bool => Typed asBool value
  | .strings => TypedList asString value
  | .ints => TypedList asI64 value
  | .selection => value = .null ∨ ∃ members, value = .object members ∧ SelectionTyped members

/-- Each member under the name of a field, in any case, has a value the field takes. -/
def WellTyped (members : List (String × Json)) : Prop :=
  ∀ entry ∈ members, ∀ field ∈ fieldKinds, eqIgnoreAsciiCase field.1 entry.1 →
    field.2.Accepts entry.2

/-! ## Nulls -/

def isNull : Json → Bool
  | .null => true
  | _ => false

/-- The zero of a scalar field. -/
def isZero : Json → Bool
  | .string text => text = ""
  | .int value => value = 0
  | .bool value => !value
  | _ => false

/-- The last value that is not null. -/
def lastValue (values : List Json) : Option Json := values.reverse.find? fun value => !isNull value

/-- Where the values the core reads end in a null, or there is none, the last value seen is
zero. -/
def Undisturbed (seen read : List Json) : Prop :=
  (∀ value ∈ read.getLast?, isNull value) → ∀ value ∈ lastValue seen, isZero value

/-- No null undoes a value of a field. Of a selection only the last is read. -/
def FieldKind.NullsHarmless (members : List (String × Json)) (name : String) : FieldKind → Prop
  | .string | .int | .bool => Undisturbed (named name members) (named name members)
  | .strings | .ints => True
  | .selection => ∀ inner ∈ ["kind", "id", "unreadOnly"],
    Undisturbed (named inner ((named name members).flatMap objectMembers))
      (named inner ((named name members).getLast?.elim [] objectMembers))

def NullsHarmless (members : List (String × Json)) : Prop :=
  ∀ field ∈ fieldKinds, field.2.NullsHarmless members field.1

instance (seen read : List Json) : Decidable (Undisturbed seen read) :=
  inferInstanceAs (Decidable ((∀ value ∈ _, _) → ∀ value ∈ _, _))

instance (members : List (String × Json)) (name : String) :
    (kind : FieldKind) → Decidable (kind.NullsHarmless members name)
  | .string | .int | .bool => inferInstanceAs (Decidable (Undisturbed _ _))
  | .strings | .ints => inferInstanceAs (Decidable True)
  | .selection => inferInstanceAs (Decidable (∀ inner ∈ _, Undisturbed _ _))

instance (members : List (String × Json)) : Decidable (NullsHarmless members) :=
  inferInstanceAs (Decidable (∀ field ∈ fieldKinds, field.2.NullsHarmless members field.1))

/-! ## Values of fields -/

/-- A request by the values of its fields, so that one argument does for all fields of a
type. -/
structure FieldValues where
  string : String → String
  int : String → Int
  bool : String → Bool
  strings : String → List String
  ints : String → List Int
  selection : WireSelection

def FieldValues.request (values : FieldValues) : Request where
  operation := values.string "operation"
  server := values.string "server"
  apiKey := values.string "apiKey"
  newestFirst := values.bool "newestFirst"
  configurationGeneration := values.int "configurationGeneration"
  locales := values.strings "locales"
  key := values.string "key"
  fallback := values.string "fallback"
  oneFallback := values.string "oneFallback"
  otherFallback := values.string "otherFallback"
  count := values.int "count"
  selection := values.selection
  entryId := values.int "entryID"
  entryIds := values.ints "entryIDs"
  retainEntryIds := values.ints "retainEntryIDs"
  read := values.bool "read"
  mutationSource := values.string "mutationSource"
  mutationId := values.string "mutationID"
  currentStarred := values.bool "currentStarred"
  desiredStarred := values.bool "desiredStarred"
  feedId := values.int "feedID"
  feedName := values.string "feedName"

/-- Two sets of values agree on a field. -/
def FieldKind.Agree (left right : FieldValues) (name : String) : FieldKind → Prop
  | .string => left.string name = right.string name
  | .int => left.int name = right.int name
  | .bool => left.bool name = right.bool name
  | .strings => left.strings name = right.strings name
  | .ints => left.ints name = right.ints name
  | .selection => left.selection = right.selection

theorem FieldValues.request_inj (left right : FieldValues) :
    left.request = right.request ↔ ∀ field ∈ fieldKinds, field.2.Agree left right field.1 := by
  simp [FieldValues.request, fieldKinds, FieldKind.Agree]

/-- A field decodes to its value. -/
def FieldKind.DecodesTo (json : Json) (values : FieldValues) (name : String) : FieldKind → Prop
  | .string => decodeDefault asString "" json name = some (values.string name)
  | .int => decodeDefault asI64 0 json name = some (values.int name)
  | .bool => decodeDefault asBool false json name = some (values.bool name)
  | .strings => decodeDefaultVec asString "" json name = some (values.strings name)
  | .ints => decodeDefaultVec asI64 0 json name = some (values.ints name)
  | .selection => decodeDefault WireSelection.decode {} json name = some values.selection

theorem Request.decode_fields {json : Json} {values : FieldValues}
    (fields : ∀ field ∈ fieldKinds, field.2.DecodesTo json values field.1) :
    Request.decode json = some values.request := by
  simp only [fieldKinds, List.forall_mem_cons, List.not_mem_nil, false_implies,
    FieldKind.DecodesTo] at fields
  simp [Request.decode, fields, FieldValues.request]

/-! ## Names -/

theorem eqIgnoreAsciiCase_comm (left right : String) :
    eqIgnoreAsciiCase left right = eqIgnoreAsciiCase right left := by
  unfold eqIgnoreAsciiCase
  exact decide_eq_decide.mpr eq_comm

/-- Names that a key matches match each other. -/
theorem eqIgnoreAsciiCase_of_key {left right key : String}
    (leftKey : eqIgnoreAsciiCase left key = true) (rightKey : eqIgnoreAsciiCase right key = true) :
    eqIgnoreAsciiCase left right = true := by
  rw [eqIgnoreAsciiCase_iff] at *
  exact leftKey.trans rightKey.symm

/-- The last value that is not null, one more value read. -/
theorem lastValue_concat (values : List Json) (value : Json) :
    lastValue (values ++ [value]) = if isNull value then lastValue values else some value := by
  cases null : isNull value <;> simp [lastValue, null]

/-! ## Scalars -/

/-- A decoder of a scalar refuses null and reads zero as zero, and nothing else as zero. -/
structure DecodesScalar {α : Type} (decode : Json → Option α) (zero : α) : Prop where
  null : decode .null = none
  zero : ∀ value held, decode value = some held → (isZero value = true ↔ held = zero)

theorem asString_scalar : DecodesScalar asString "" where
  null := rfl
  zero := by
    intro value held decoded
    cases value with
    | string text =>
      cases decoded
      simp [isZero]
    | _ => cases decoded

theorem asI64_scalar : DecodesScalar asI64 0 where
  null := rfl
  zero := by
    intro value held decoded
    obtain ⟨rfl, _⟩ := asI64_eq_some.mp decoded
    simp [isZero]

theorem asBool_scalar : DecodesScalar asBool false where
  null := rfl
  zero := by
    intro value held decoded
    cases value with
    | bool value =>
      cases decoded
      simp [isZero]
    | _ => cases decoded

section Scalars
variable {α : Type} {decode : Json → Option α} {zero : α} {name : String}
  {members : List (String × Json)} {entry : String × Json}

/-- A value found last: a null, like none, is zero. This is how the core reads a field. -/
def lastRead (decode : Json → Option α) (zero : α) (values : List Json) : α :=
  (values.getLast?.bind decode).getD zero

/-- A value that nulls do not change: the last that is none. This is how decoding in place
reads it. -/
def lastKept (decode : Json → Option α) (zero : α) (values : List Json) : α :=
  ((lastValue values).bind decode).getD zero

theorem Typed.isNull_iff {value : Json} (scalar : DecodesScalar decode zero)
    (typed : Typed decode value) : isNull value = true ↔ decode value = none := by
  obtain rfl | decodes := typed
  · simp [isNull, scalar.null]
  · cases value with
    | null => simp [scalar.null] at decodes
    | _ => simpa [isNull] using Option.ne_none_iff_isSome.mpr decodes

theorem Typed.nullable {value : Json} (scalar : DecodesScalar decode zero)
    (typed : Typed decode value) : nullable decode value = some (decode value) := by
  obtain rfl | decodes := typed
  · simp [JsonFormat.nullable, scalar.null]
  · obtain ⟨held, read⟩ := Option.isSome_iff_exists.mp decodes
    cases value with
    | null => simp [scalar.null] at read
    | _ => simp [JsonFormat.nullable, read]

/-- A field that is overwritten in place holds the last value that is not null. -/
theorem foldl_overwritten (scalar : DecodesScalar decode zero)
    (typed : ∀ value ∈ named name members, Typed decode value) :
    members.foldl (fun held entry => overwritten decode name entry held) zero =
      lastKept decode zero (named name members) := by
  induction members using List.reverseRecOn with
  | nil => rfl
  | append_singleton earlier entry ih =>
    have ih := ih fun value listed => typed value (by simp [named_append, listed])
    rw [List.foldl_concat, ih]
    unfold overwritten
    split_ifs with matched
    · rw [named_concat matched] at typed ⊢
      have last := typed entry.2 (by simp)
      unfold lastKept
      rw [lastValue_concat]
      cases null : isNull entry.2 with
      | true => simp [(last.isNull_iff scalar).mp null]
      | false =>
        have decodes : (decode entry.2).isSome := by
          by_contra refused
          simp [(last.isNull_iff scalar).mpr (by simpa using refused)] at null
        obtain ⟨held, read⟩ := Option.isSome_iff_exists.mp decodes
        simp [read]
    · rw [named_concat_other matched]

theorem lastKept_eq_zero_iff {values : List Json} (scalar : DecodesScalar decode zero)
    (typed : ∀ value ∈ values, Typed decode value) :
    zero = lastKept decode zero values ↔ ∀ value ∈ lastValue values, isZero value := by
  unfold lastKept
  cases last : lastValue values with
  | none => simp
  | some value =>
    have listed : value ∈ values := List.mem_reverse.mp (List.mem_of_find?_eq_some last)
    have present : isNull value = false := by simpa using List.find?_some last
    cases read : decode value with
    | none => simp [((typed value listed).isNull_iff scalar).mpr read] at present
    | some held =>
      have zeroes := scalar.zero value held read
      simpa [read, zeroes] using eq_comm

/-- The last value read is the one kept exactly when no null disturbs it. The two ways to
decode a request are compared by this, field by field. -/
theorem lastRead_eq_lastKept_iff {seen read : List Json} (scalar : DecodesScalar decode zero)
    (typed : ∀ value ∈ seen, Typed decode value) (last : read <:+ seen) :
    lastRead decode zero read = lastKept decode zero seen ↔ Undisturbed seen read := by
  have zeroed := lastKept_eq_zero_iff scalar typed
  unfold lastRead Undisturbed
  induction read using List.reverseRecOn with
  | nil => simpa using zeroed
  | append_singleton earlier value _ =>
    obtain ⟨before, rfl⟩ := last
    have typed := typed value (by simp)
    cases null : isNull value with
    | true => simpa [(typed.isNull_iff scalar).mp null, null] using zeroed
    | false => simp [lastKept, ← List.append_assoc, lastValue_concat, null]

end Scalars

/-! ## Lists -/

section Lists
variable {α : Type} {decode : Json → Option α} {zero : α} {name : String}
  {members : List (String × Json)}

/-- The list of the last value; a null, like none, is empty, and a null item is zero. -/
def lastList (decode : Json → Option α) (zero : α) (values : List Json) : List α :=
  match values.getLast? with
  | some (.array items) => items.map fun item => (decode item).getD zero
  | _ => []

theorem foldl_refilled (typed : ∀ value ∈ named name members, TypedList decode value) :
    members.foldl (fun held entry => refilled decode zero name entry held) [] =
      lastList decode zero (named name members) := by
  induction members using List.reverseRecOn with
  | nil => rfl
  | append_singleton earlier entry ih =>
    have ih := ih fun value listed => typed value (by simp [named_append, listed])
    rw [List.foldl_concat, ih]
    unfold refilled
    split_ifs with matched
    · rw [named_concat matched] at typed ⊢
      obtain ⟨key, value⟩ := entry
      obtain null | ⟨items, array, _⟩ := typed value (by simp)
      · subst null
        simp [lastList]
      · subst array
        simp [lastList]
    · rw [named_concat_other matched]

end Lists

/-! ## Selections -/

/-- The selection of members that are not null, or zero where they are. -/
def WireSelection.lastRead (members : List (String × Json)) : WireSelection where
  kind := Transport.lastRead asString "" (named "kind" members)
  id := Transport.lastRead asI64 0 (named "id" members)
  unreadOnly := Transport.lastRead asBool false (named "unreadOnly" members)

/-- The selection that nulls do not change. -/
def WireSelection.lastKept (members : List (String × Json)) : WireSelection where
  kind := Transport.lastKept asString "" (named "kind" members)
  id := Transport.lastKept asI64 0 (named "id" members)
  unreadOnly := Transport.lastKept asBool false (named "unreadOnly" members)

theorem lastRead_concat {α : Type} (decode : Json → Option α) (zero : α) (values : List Json)
    (value : Json) : lastRead decode zero (values ++ [value]) = (decode value).getD zero := by
  simp [lastRead]

/-- Keys match no two names of a selection. -/
theorem apart_of_matched {name other key : String} (matched : eqIgnoreAsciiCase name key = true)
    (apart : eqIgnoreAsciiCase other name = false) : ¬ eqIgnoreAsciiCase other key = true := by
  intro both
  rw [eqIgnoreAsciiCase_of_key both matched] at apart
  cases apart

/-- A turn of the visitor reads one more member, whose value takes the place of an earlier
one. -/
theorem visitMember_lastRead {earlier : List (String × Json)} {entry : String × Json}
    (typed : SelectionTyped [entry]) :
    visitMember (WireSelection.lastRead earlier) entry =
      some (WireSelection.lastRead (earlier ++ [entry])) := by
  obtain ⟨kindTyped, idTyped, unreadOnlyTyped⟩ := typed entry List.mem_cons_self
  unfold visitMember
  simp only [eqIgnoreAsciiCase_comm entry.1]
  split_ifs with kind id unreadOnly
  · have notId := apart_of_matched kind (by decide : eqIgnoreAsciiCase "id" "kind" = false)
    have notUnreadOnly :=
      apart_of_matched kind (by decide : eqIgnoreAsciiCase "unreadOnly" "kind" = false)
    simp [(kindTyped kind).nullable asString_scalar, WireSelection.lastRead, named_concat kind,
      named_concat_other notId, named_concat_other notUnreadOnly, lastRead_concat]
  · have notUnreadOnly :=
      apart_of_matched id (by decide : eqIgnoreAsciiCase "unreadOnly" "id" = false)
    simp [(idTyped id).nullable asI64_scalar, WireSelection.lastRead, named_concat id,
      named_concat_other kind, named_concat_other notUnreadOnly, lastRead_concat]
  · simp [(unreadOnlyTyped unreadOnly).nullable asBool_scalar, WireSelection.lastRead,
      named_concat unreadOnly, named_concat_other kind, named_concat_other id, lastRead_concat]
  · simp [WireSelection.lastRead, named_concat_other kind, named_concat_other id,
      named_concat_other unreadOnly]

/-- The visitor reads each field last. -/
theorem WireSelection.decode_object {members : List (String × Json)}
    (typed : SelectionTyped members) :
    WireSelection.decode (.object members) = some (WireSelection.lastRead members) := by
  change members.foldlM visitMember {} = _
  induction members using List.reverseRecOn with
  | nil => rfl
  | append_singleton earlier entry ih =>
    have ih := ih fun entry listed => typed entry (by simp [listed])
    have last : SelectionTyped [entry] := by
      intro other listed
      exact typed other (by simpa using .inr (List.mem_singleton.mp listed))
    rw [List.foldlM_append, ih]
    simp [visitMember_lastRead last]

/-- The values under the names of a selection have the types of its fields. -/
theorem SelectionTyped.named {members : List (String × Json)} (typed : SelectionTyped members) :
    (∀ value ∈ named "kind" members, Typed asString value) ∧
      (∀ value ∈ named "id" members, Typed asI64 value) ∧
      ∀ value ∈ named "unreadOnly" members, Typed asBool value := by
  refine ⟨?_, ?_, ?_⟩ <;>
    (intro value listed; obtain ⟨entry, present, matched, rfl⟩ := mem_named.mp listed)
  · exact (typed entry present).1 matched
  · exact (typed entry present).2.1 matched
  · exact (typed entry present).2.2 matched

theorem foldl_overwrite_fields (members : List (String × Json)) :
    members.foldl WireSelection.overwrite {} = {
      kind := members.foldl (fun held entry => overwritten asString "kind" entry held) ""
      id := members.foldl (fun held entry => overwritten asI64 "id" entry held) 0
      unreadOnly :=
        members.foldl (fun held entry => overwritten asBool "unreadOnly" entry held) false } := by
  induction members using List.reverseRecOn with
  | nil => rfl
  | append_singleton earlier entry ih => simp only [List.foldl_concat, ih, WireSelection.overwrite]

/-- Decoding in place keeps each field through nulls. -/
theorem foldl_overwrite_selection {members : List (String × Json)}
    (typed : SelectionTyped members) :
    members.foldl WireSelection.overwrite {} = WireSelection.lastKept members := by
  obtain ⟨kind, id, unreadOnly⟩ := typed.named
  rw [foldl_overwrite_fields, foldl_overwritten asString_scalar kind,
    foldl_overwritten asI64_scalar id, foldl_overwritten asBool_scalar unreadOnly]
  rfl

/-- A selection that objects are decoded into in place has the members of all of them. -/
theorem foldl_reselected (members : List (String × Json)) (held : WireSelection) :
    members.foldl (fun held entry => reselected entry held) held =
      ((named "selection" members).flatMap objectMembers).foldl WireSelection.overwrite held := by
  induction members generalizing held with
  | nil => rfl
  | cons entry rest ih =>
    rw [List.foldl_cons, ih]
    unfold reselected
    by_cases matched : eqIgnoreAsciiCase "selection" entry.1 = true
    · simp [named, matched]
    · simp [named, matched]

/-! ## Requests -/

theorem WellTyped.named {members : List (String × Json)} (typed : WellTyped members)
    {field : String × FieldKind} (listed : field ∈ fieldKinds) :
    ∀ value ∈ named field.1 members, field.2.Accepts value := by
  intro value held
  obtain ⟨entry, present, matched, rfl⟩ := mem_named.mp held
  exact typed entry present field listed matched

/-- The members of the selections of a request are typed as one selection's. -/
theorem WellTyped.selections {members : List (String × Json)} (typed : WellTyped members)
    {values : List Json} (read : ∀ value ∈ values, value ∈ Transport.named "selection" members) :
    SelectionTyped (values.flatMap objectMembers) := by
  intro entry listed
  obtain ⟨value, held, inner⟩ := List.mem_flatMap.mp listed
  have accepted : FieldKind.selection.Accepts value :=
    typed.named (by decide : ("selection", FieldKind.selection) ∈ fieldKinds) value (read value held)
  obtain rfl | ⟨members, rfl, typed⟩ := accepted
  · cases inner
  · exact typed entry inner

/-- The last value under each name, as the core reads it; a null among them counts. -/
def FieldValues.read (members : List (String × Json)) : FieldValues where
  string name := lastRead asString "" (named name members)
  int name := lastRead asI64 0 (named name members)
  bool name := lastRead asBool false (named name members)
  strings name := lastList asString "" (named name members)
  ints name := lastList asI64 0 (named name members)
  selection := WireSelection.lastRead ((named "selection" members).getLast?.elim [] objectMembers)

/-- The last value under each name that is not null, as decoding in place keeps it. -/
def FieldValues.kept (members : List (String × Json)) : FieldValues where
  string name := lastKept asString "" (named name members)
  int name := lastKept asI64 0 (named name members)
  bool name := lastKept asBool false (named name members)
  strings name := lastList asString "" (named name members)
  ints name := lastList asI64 0 (named name members)
  selection := WireSelection.lastKept ((named "selection" members).flatMap objectMembers)

theorem foldl_overwrite_request (members : List (String × Json)) :
    members.foldl Request.overwrite {} = FieldValues.request {
      string := fun name => members.foldl (fun held entry => overwritten asString name entry held) ""
      int := fun name => members.foldl (fun held entry => overwritten asI64 name entry held) 0
      bool := fun name => members.foldl (fun held entry => overwritten asBool name entry held) false
      strings := fun name =>
        members.foldl (fun held entry => refilled asString "" name entry held) []
      ints := fun name => members.foldl (fun held entry => refilled asI64 0 name entry held) []
      selection := members.foldl (fun held entry => reselected entry held) {} } := by
  induction members using List.reverseRecOn with
  | nil => rfl
  | append_singleton earlier entry ih =>
    simp only [List.foldl_concat, ih]
    rfl

/-- Decoding in place keeps the last values that are not null; by induction on the members
from the end. -/
theorem Request.unmarshal_eq {members : List (String × Json)} (typed : WellTyped members) :
    Request.unmarshal members = (FieldValues.kept members).request := by
  unfold Request.unmarshal
  rw [foldl_overwrite_request, FieldValues.request_inj]
  rintro ⟨name, kind⟩ listed
  have accepted := typed.named listed
  cases kind with
  | string => exact foldl_overwritten asString_scalar accepted
  | int => exact foldl_overwritten asI64_scalar accepted
  | bool => exact foldl_overwritten asBool_scalar accepted
  | strings => exact foldl_refilled accepted
  | ints => exact foldl_refilled accepted
  | selection =>
    change members.foldl (fun held entry => reselected entry held) {} = _
    rw [foldl_reselected]
    exact foldl_overwrite_selection (typed.selections fun _ listed => listed)

/-! ## The core -/

theorem canonicalValue_null : canonicalValue "selection" .null = some .null := rfl

theorem canonicalValue_object {members : List (String × Json)} (typed : SelectionTyped members) :
    canonicalValue "selection" (.object members) =
      some (WireSelection.lastRead members).canonical := by
  have read : nullable WireSelection.decode (.object members) =
      (WireSelection.decode (.object members)).map some := rfl
  simp [canonicalValue, read, WireSelection.decode_object typed]

theorem canonicalValue_other {name : String} (apart : name ≠ "selection") (value : Json) :
    canonicalValue name value = some value := if_neg apart

/-- A member of the types of its field is rewritten. -/
theorem canonicalValue_isSome {members : List (String × Json)} (typed : WellTyped members)
    {entry : String × Json} (listed : entry ∈ members) :
    (canonicalValue (canonicalKey entry.1) entry.2).isSome := by
  by_cases selection : canonicalKey entry.1 = "selection"
  · have matched := (canonicalKey_eq_iff (by decide) entry.1).mp selection
    have accepted : FieldKind.selection.Accepts entry.2 :=
      typed entry listed ("selection", .selection) (by decide) matched
    rw [selection]
    obtain null | ⟨members, object, typed⟩ := accepted
    · simp [null, canonicalValue_null]
    · simp [object, canonicalValue_object typed]
  · simp [canonicalValue_other selection]

theorem insertMembers_isSome {members object : List (String × Json)} (typed : WellTyped members) :
    ∃ after, members.foldlM insertMember object = some after := by
  induction members generalizing object with
  | nil => exact ⟨object, rfl⟩
  | cons entry rest ih =>
    obtain ⟨value, rewritten⟩ :=
      Option.isSome_iff_exists.mp (canonicalValue_isSome typed List.mem_cons_self)
    obtain ⟨next, inserted⟩ : ∃ next, insertMember object entry = some next := by
      simp [insertMember, rewritten]
    rw [List.foldlM_cons, inserted]
    exact ih fun other listed => typed other (List.mem_cons_of_mem entry listed)

section Defaults
variable {α : Type} {decode : Json → Option α} {zero : α} {json : Json} {name : String}
  {values : List Json}

/-- A scalar member decodes to the value found for it. -/
theorem decodeDefault_scalar (scalar : DecodesScalar decode zero)
    (typed : ∀ value ∈ values, Typed decode value) (found : json.find? name = values.getLast?) :
    decodeDefault decode zero json name = some (lastRead decode zero values) := by
  unfold decodeDefault decodeIfPresent lastRead
  rw [found]
  cases last : values.getLast? with
  | none => rfl
  | some value =>
    have typed := typed value (List.mem_of_getLast? last)
    simp [typed.nullable scalar]

theorem mapM_nullable {items : List Json} (scalar : DecodesScalar decode zero)
    (typed : ∀ item ∈ items, Typed decode item) :
    items.mapM (nullable decode) = some (items.map decode) := by
  induction items with
  | nil => rfl
  | cons item rest ih =>
    have ih := ih fun item listed => typed item (List.mem_cons_of_mem _ listed)
    rw [List.mapM_cons, (typed item List.mem_cons_self).nullable scalar, ih]
    rfl

/-- So does a list. -/
theorem decodeDefaultVec_list (scalar : DecodesScalar decode zero)
    (typed : ∀ value ∈ values, TypedList decode value) (found : json.find? name = values.getLast?) :
    decodeDefaultVec decode zero json name = some (lastList decode zero values) := by
  unfold decodeDefaultVec decodeDefault decodeIfPresent lastList
  rw [found]
  cases last : values.getLast? with
  | none => rfl
  | some value =>
    obtain rfl | ⟨items, rfl, typed⟩ := typed value (List.mem_of_getLast? last)
    · rfl
    · have array : nullable (asArray (nullable decode)) (.array items) =
          (items.mapM (nullable decode)).map some := rfl
      simp [array, mapM_nullable scalar typed]

/-- A selection decodes to the last one, as it was rewritten. -/
theorem decodeDefault_selection (typed : ∀ value ∈ values, FieldKind.selection.Accepts value)
    (found : json.find? name = values.getLast?.bind (canonicalValue "selection")) :
    decodeDefault WireSelection.decode {} json name =
      some (WireSelection.lastRead (values.getLast?.elim [] objectMembers)) := by
  unfold decodeDefault decodeIfPresent
  rw [found]
  cases last : values.getLast? with
  | none => rfl
  | some value =>
    obtain rfl | ⟨inner, rfl, typed⟩ := typed value (List.mem_of_getLast? last)
    · rfl
    · have present : ∀ wire : WireSelection, nullable WireSelection.decode wire.canonical =
          (WireSelection.decode wire.canonical).map some := fun _ => rfl
      have fits := decode_fits (WireSelection.decode_object typed)
      simp [canonicalValue_object typed, present, decode_canonical _ fits, objectMembers]

end Defaults

theorem field_listed : ∀ field ∈ fieldKinds,
    field.1 ∈ requestFields ∧ (field.1 = "selection" ↔ field.2 = .selection) := by decide

/-- The core reads the last value under each name, since a later member replaces an earlier
one before the request is decoded. -/
theorem parseRequest_eq {members : List (String × Json)} (typed : WellTyped members) :
    parseRequest (.object members) = some (FieldValues.read members).request := by
  obtain ⟨object, collected⟩ := @insertMembers_isSome _ [] typed
  have decoded : Request.decode (.object object) = some (FieldValues.read members).request := by
    apply Request.decode_fields
    rintro ⟨name, kind⟩ listed
    have accepted := typed.named listed
    obtain ⟨field, selects⟩ := field_listed _ listed
    have found := find?_insertMembers collected field
    have plain : kind ≠ .selection →
        (Json.object object).find? name = (named name members).getLast? := by
      intro scalar
      rw [found, funext (canonicalValue_other fun same => scalar (selects.mp same))]
      simp
    cases kind with
    | string => exact decodeDefault_scalar asString_scalar accepted (plain (by decide))
    | int => exact decodeDefault_scalar asI64_scalar accepted (plain (by decide))
    | bool => exact decodeDefault_scalar asBool_scalar accepted (plain (by decide))
    | strings => exact decodeDefaultVec_list asString_scalar accepted (plain (by decide))
    | ints => exact decodeDefaultVec_list asI64_scalar accepted (plain (by decide))
    | selection =>
      obtain rfl : name = "selection" := selects.mpr rfl
      exact decodeDefault_selection accepted found
  simp [parseRequest, collected, decoded]

/-! ## Agreement -/

/-- The last selection is the one kept exactly when no null disturbs its fields. -/
theorem WireSelection.lastRead_eq_lastKept_iff {seen read : List (String × Json)}
    (typed : SelectionTyped seen) (last : read <:+ seen) :
    WireSelection.lastRead read = WireSelection.lastKept seen ↔
      ∀ inner ∈ ["kind", "id", "unreadOnly"], Undisturbed (named inner seen) (named inner read) := by
  have suffix : ∀ name, named name read <:+ named name seen :=
    fun name => (last.filter _).map Prod.snd
  obtain ⟨kind, id, unreadOnly⟩ := typed.named
  simp [WireSelection.lastRead, WireSelection.lastKept,
    Transport.lastRead_eq_lastKept_iff asString_scalar kind (suffix "kind"),
    Transport.lastRead_eq_lastKept_iff asI64_scalar id (suffix "id"),
    Transport.lastRead_eq_lastKept_iff asBool_scalar unreadOnly (suffix "unreadOnly")]

theorem getLast?_suffix_flatMap {α β : Type} (values : List α) (items : α → List β) :
    values.getLast?.elim [] items <:+ values.flatMap items := by
  induction values using List.reverseRecOn with
  | nil => exact List.suffix_refl _
  | append_singleton earlier value _ => simp

/-- The core decodes a request as in place exactly when no null undoes a value of a field:
where the last value of a scalar field, or of one in the last selection, is a null or
missing, those before it that are none end in a zero. -/
theorem parse_request_iff (members : List (String × Json)) (typed : WellTyped members) :
    parseRequest (.object members) = some (Request.unmarshal members) ↔ NullsHarmless members := by
  rw [parseRequest_eq typed, Request.unmarshal_eq typed, Option.some_inj, FieldValues.request_inj]
  refine forall₂_congr fun field listed => ?_
  obtain ⟨name, kind⟩ := field
  have accepted := typed.named listed
  cases kind with
  | string => exact lastRead_eq_lastKept_iff asString_scalar accepted (List.suffix_refl _)
  | int => exact lastRead_eq_lastKept_iff asI64_scalar accepted (List.suffix_refl _)
  | bool => exact lastRead_eq_lastKept_iff asBool_scalar accepted (List.suffix_refl _)
  | strings => exact iff_of_true rfl trivial
  | ints => exact iff_of_true rfl trivial
  | selection =>
    obtain rfl : name = "selection" := (field_listed _ listed).2.mpr rfl
    exact WireSelection.lastRead_eq_lastKept_iff (typed.selections fun _ listed => listed)
      (getLast?_suffix_flatMap _ _)

/-- A member whose key is the name of one field is typed as that field. -/
theorem WellTyped.cons {entry : String × Json} {rest : List (String × Json)}
    (field : String × FieldKind)
    (matched : (fieldKinds.filter fun field => eqIgnoreAsciiCase field.1 entry.1) = [field])
    (accepted : field.2.Accepts entry.2) (typed : WellTyped rest) : WellTyped (entry :: rest) := by
  refine List.forall_mem_cons.mpr ⟨fun other listed named => ?_, typed⟩
  have found : other ∈ [field] := matched ▸ List.mem_filter.mpr ⟨listed, named⟩
  rw [List.mem_singleton.mp found]
  exact accepted

/-- Recased members, and nulls that undo nothing. -/
def recasedMembers : List (String × Json) := [
  ("COUNT", .null), ("count", .int 2), ("Entryids", .array [.null, .int 2]),
  ("SELECTION", .object [("KIND", .string "feed"), ("id", .int 7), ("unreadOnly", .null)])]

/-- Names in other letters, nulls that undo nothing, and a list with a null in it, read
alike in both ways. -/
theorem recased_members_read :
    parseRequest (.object recasedMembers) = some (Request.unmarshal recasedMembers) := by
  refine (parse_request_iff recasedMembers ?_).mpr ?_
  · have selection : FieldKind.selection.Accepts (.object
        [("KIND", .string "feed"), ("id", .int 7), ("unreadOnly", .null)]) := by
      refine .inr ⟨_, rfl, ?_⟩
      simp [SelectionTyped, Typed, eqIgnoreAsciiCase, asString, asI64, InI64]
    refine .cons ("count", .int) (by decide) (Or.inl rfl) ?_
    refine .cons ("count", .int) (by decide) (Or.inr rfl) ?_
    refine .cons ("entryIDs", .ints) (by decide) (Or.inr ⟨_, rfl, ?_⟩) ?_
    · simp [Typed, asI64, InI64]
    · refine .cons ("selection", .selection) (by decide) selection ?_
      simp [WellTyped]
  · decide

/-- A null after a text, its key in other letters. -/
def nulledKey : List (String × Json) :=
  [("operation", .string "localize"), ("key", .string "a"), ("KEY", .null)]

/-- A null after a text, its key in other letters: the core empties the text, which decoding
in place keeps. -/
theorem null_undoes_key :
    ¬ parseRequest (.object nulledKey) = some (Request.unmarshal nulledKey) := by
  decide

end FluxBar.Transport
