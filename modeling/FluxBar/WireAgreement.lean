import FluxBar.GoCoreAPI
import FluxBar.RequestDecoding
import FluxBar.ServiceAgreement

/-! Both cores under their one client. Over one server that both read alike, whatever the
client asks, it receives the same articles and receipts from either, and errors in words
for one failure; only counts and links to comments may differ. -/
namespace FluxBar
open JsonFormat Transport Procedure

/-! ## What the client asks -/

/-- Members with values of their fields, none of them null, as the client writes them. -/
def Given (members : List (String × Json)) : Prop :=
  ∀ entry ∈ members, isNull entry.2 = false ∧
    ∀ field ∈ fieldKinds, eqIgnoreAsciiCase field.1 entry.1 → field.2.Accepts entry.2

namespace Given
variable {key : String} {rest : List (Option (String × Json))} (field : String × FieldKind)
  (matched : (fieldKinds.filter fun field => eqIgnoreAsciiCase field.1 key) = [field])
include matched

theorem member {value : Json} (full : isNull value = false) (accepted : field.2.Accepts value)
    (given : Given (rest.filterMap id)) :
    Given ((JsonFormat.member key value :: rest).filterMap id) := by
  refine List.forall_mem_cons.mpr ⟨⟨full, fun other listed named => ?_⟩, given⟩
  have found : other ∈ [field] := matched ▸ List.mem_filter.mpr ⟨listed, named⟩
  rw [List.mem_singleton.mp found]
  exact accepted

theorem memberIfSome {α : Type} {encode : α → Json} (held : Option α)
    (full : ∀ value, isNull (encode value) = false)
    (accepted : ∀ value ∈ held, field.2.Accepts (encode value)) (given : Given (rest.filterMap id)) :
    Given ((JsonFormat.memberIfSome key encode held :: rest).filterMap id) := by
  cases held with
  | none => exact given
  | some value => exact member field matched (full value) (accepted value rfl) given

end Given

/-- A request whose integers all have 64 bits, as the client's own have; the core refuses
any other. -/
structure Client.CoreRequest.Fits (request : Client.CoreRequest) : Prop where
  selection : ∀ sent ∈ request.selection, ∀ id ∈ sent.id, InI64 id
  entryID : ∀ id ∈ request.entryID, InI64 id
  entryIDs : ∀ ids ∈ request.entryIDs, ∀ id ∈ ids, InI64 id
  retainEntryIDs : ∀ ids ∈ request.retainEntryIDs, ∀ id ∈ ids, InI64 id

/-- A selection that the client sends. -/
theorem full_selection (sent : Client.ArticleSelection) :
    ∀ entry ∈ objectMembers sent.encode, isNull entry.2 = false := by
  obtain ⟨kind, id, unreadOnly⟩ := sent
  cases id <;> cases unreadOnly <;>
    simp [Client.ArticleSelection.encode, objectOf, JsonFormat.member, JsonFormat.memberIfSome,
      objectMembers, isNull]

theorem typed_selection {sent : Client.ArticleSelection} (fits : ∀ id ∈ sent.id, InI64 id) :
    SelectionTyped (objectMembers sent.encode) := by
  obtain ⟨kind, id, unreadOnly⟩ := sent
  cases id with
  | none =>
    cases unreadOnly <;>
      simp [Client.ArticleSelection.encode, objectOf, JsonFormat.member, JsonFormat.memberIfSome,
        objectMembers, SelectionTyped, Typed, eqIgnoreAsciiCase, asString, asBool]
  | some id =>
    have read := asI64_int (fits id rfl)
    cases unreadOnly <;>
      simp [Client.ArticleSelection.encode, objectOf, JsonFormat.member, JsonFormat.memberIfSome,
        objectMembers, SelectionTyped, Typed, eqIgnoreAsciiCase, asString, read, asBool]

theorem given_encode {request : Client.CoreRequest} (fits : request.Fits) :
    Given (objectMembers request.encode) := by
  have typed : ∀ id, InI64 id → Typed asI64 (.int id) := fun id within =>
    .inr (by rw [asI64_int within]; rfl)
  have ids : ∀ ids : List Int, (∀ id ∈ ids, InI64 id) →
      FieldKind.ints.Accepts (.array (ids.map .int)) := by
    refine fun ids within => .inr ⟨_, rfl, fun item listed => ?_⟩
    obtain ⟨id, among, rfl⟩ := List.mem_map.mp listed
    exact typed id (within id among)
  have selection : ∀ sent ∈ request.selection, FieldKind.selection.Accepts sent.encode :=
    fun sent held => .inr ⟨_, rfl, typed_selection (fits.selection sent held)⟩
  refine .member ("operation", .string) (by decide) rfl (.inr rfl) ?_
  refine .memberIfSome ("selection", .selection) (by decide) _ (fun _ => rfl) selection ?_
  refine .memberIfSome ("entryID", .int) (by decide) _ (fun _ => rfl)
    (fun id held => typed id (fits.entryID id held)) ?_
  refine .memberIfSome ("entryIDs", .ints) (by decide) _ (fun _ => rfl)
    (fun listed held => ids listed (fits.entryIDs listed held)) ?_
  refine .memberIfSome ("retainEntryIDs", .ints) (by decide) _ (fun _ => rfl)
    (fun listed held => ids listed (fits.retainEntryIDs listed held)) ?_
  refine .memberIfSome ("read", .bool) (by decide) _ (fun _ => rfl) (fun _ _ => .inr rfl) ?_
  refine .memberIfSome ("mutationSource", .string) (by decide) _ (fun _ => rfl)
    (fun _ _ => .inr rfl) ?_
  refine .memberIfSome ("mutationID", .string) (by decide) _ (fun _ => rfl) (fun _ _ => .inr rfl) ?_
  refine .memberIfSome ("desiredStarred", .bool) (by decide) _ (fun _ => rfl)
    (fun _ _ => .inr rfl) ?_
  exact List.forall_mem_nil _

/-- Without nulls, the last value is the one that is kept. -/
theorem lastRead_eq_lastKept {α : Type} {decode : Json → Option α} {zero : α} {values : List Json}
    (full : ∀ value ∈ values, isNull value = false) :
    lastRead decode zero values = lastKept decode zero values := by
  have last : lastValue values = values.getLast? := by
    induction values using List.reverseRecOn with
    | nil => rfl
    | append_singleton earlier value _ =>
      rw [lastValue_concat, full value (by simp), List.getLast?_concat]
      rfl
  unfold lastRead lastKept
  rw [last]

theorem named_full {name : String} {members : List (String × Json)}
    (full : ∀ entry ∈ members, isNull entry.2 = false) :
    ∀ value ∈ named name members, isNull value = false := by
  intro value held
  obtain ⟨entry, present, _, rfl⟩ := mem_named.mp held
  exact full entry present

/-- Both cores read what the client asks alike, since it writes no nulls and every name
once. -/
theorem parseRequest_encode {request : Client.CoreRequest} (fits : request.Fits) :
    parseRequest request.encode = some (Request.unmarshal (objectMembers request.encode)) := by
  have given := given_encode fits
  have typed : WellTyped (objectMembers request.encode) := fun entry listed => (given entry listed).2
  have full := fun name => @named_full name _ fun entry listed => (given entry listed).1
  have sent : named "selection" (objectMembers request.encode) =
      (request.selection.map Client.ArticleSelection.encode).toList := by
    have none : named "selection" (([] : List (Option (String × Json))).filterMap id) = [] := rfl
    unfold Client.CoreRequest.encode objectOf objectMembers
    simp (disch := decide) only [named_member_other, named_memberIfSome, named_memberIfSome_other,
      none, List.append_nil]
  have selections : WireSelection.lastRead
        ((named "selection" (objectMembers request.encode)).getLast?.elim [] objectMembers) =
      WireSelection.lastKept ((named "selection" (objectMembers request.encode)).flatMap objectMembers) := by
    rw [sent]
    cases request.selection with
    | none => rfl
    | some selection =>
      have full := fun name => @named_full name _ (full_selection selection)
      simp only [Option.map_some, Option.toList_some, List.getLast?_singleton, Option.elim_some,
        List.flatMap_cons, List.flatMap_nil, List.append_nil]
      unfold WireSelection.lastRead WireSelection.lastKept
      rw [lastRead_eq_lastKept (full "kind"), lastRead_eq_lastKept (full "id"),
        lastRead_eq_lastKept (full "unreadOnly")]
  have scalars : ∀ {α : Type} (decode : Json → Option α) (zero : α),
      (fun name => lastRead decode zero (named name (objectMembers request.encode))) =
        fun name => lastKept decode zero (named name (objectMembers request.encode)) :=
    fun _ _ => funext fun name => lastRead_eq_lastKept (full name)
  have values : FieldValues.read (objectMembers request.encode) =
      FieldValues.kept (objectMembers request.encode) := by
    unfold FieldValues.read FieldValues.kept
    rw [selections, scalars, scalars, scalars]
  have object : request.encode = .object (objectMembers request.encode) := rfl
  rw [object, parseRequest_eq typed, ← object, Request.unmarshal_eq typed, values]

/-! ## What the client receives -/

namespace CoreAPI
variable {τ : Type} {moments : Inbox.Moments τ}

/-- What the client makes of an entry of the other core. -/
def receivedArticle (moments : Inbox.Moments τ) (entry : Inbox.Entry τ) : Client.Article where
  id := entry.id
  title := entry.title
  url := entry.url
  commentsURL := if entry.commentsURL.isEmpty then none else some entry.commentsURL
  feedID := entry.feedID
  feedName := entry.feedName
  categoryID := if entry.categoryID = 0 then none else some entry.categoryID
  publishedAt := moments.format entry.publishedAt
  preview := entry.preview
  imageURL := if entry.imageURL.isEmpty then none else some entry.imageURL
  status := entry.status
  starred := entry.starred

/-- What it makes of a snapshot. -/
def receivedSnapshot (moments : Inbox.Moments τ) (listing : Inbox.Listing τ) :
    Client.BrowseSnapshot where
  version := listing.version
  selection := receivedSelection
    ⟨listing.selection.kind, listing.selection.id, listing.selection.unreadOnly⟩
  entries := listing.entries.map (receivedArticle moments)
  categories := listing.categories.map receivedCategory
  total := listing.total
  unreadTotal := listing.unreadTotal
  starredTotal := listing.starredTotal

theorem decode_encodeEntry (entry : Inbox.Entry τ) :
    Client.Article.decode (encodeEntry moments entry) = some (receivedArticle moments entry) := by
  unfold Client.Article.decode encodeEntry decodeMember decodeIfPresent
  simp only [find?_member, find?_member_other, find?_memberUnless, find?_memberUnless_other,
    find?_objectOf_nil, ne_eq, String.reduceEq, not_false_eq_true, Option.bind_some, asString, asInt,
    asBool]
  by_cases unfiled : entry.categoryID = 0 <;> cases bare : entry.imageURL.isEmpty <;>
    cases silent : entry.commentsURL.isEmpty <;>
    simp [unfiled, bare, silent, receivedArticle, nullable, asInt, asString]

theorem encodeCategory_eq (category : Category) :
    encodeCategory category = (categoryDto category).encode := by
  have feeds : category.feeds.map encodeFeed = (category.feeds.map feedDto).map FeedDto.encode := by
    rw [List.map_map]
    rfl
  unfold encodeCategory
  rw [feeds]
  rfl

/-- A snapshot of the other core decodes when it has categories, too. -/
theorem decode_encodeSnapshot (listing : Inbox.Listing τ) :
    Client.BrowseSnapshot.decode (encodeSnapshot moments listing) =
      if listing.categories.isEmpty then none else some (receivedSnapshot moments listing) := by
  have selection : Client.ArticleSelection.decode (encodeSelection listing.selection) =
      some (receivedSelection
        ⟨listing.selection.kind, listing.selection.id, listing.selection.unreadOnly⟩) :=
    decode_selectionDto
      ⟨listing.selection.kind, listing.selection.id, listing.selection.unreadOnly⟩
  have entries : asArray Client.Article.decode
      (.array (listing.entries.map (encodeEntry moments))) =
      some (listing.entries.map (receivedArticle moments)) :=
    asArray_map decode_encodeEntry listing.entries
  have categories : asArray Client.FeedCategory.decode
      (.array (listing.categories.map encodeCategory)) =
      some (listing.categories.map receivedCategory) :=
    asArray_map (fun category => encodeCategory_eq category ▸ decode_categoryDto category)
      listing.categories
  unfold Client.BrowseSnapshot.decode encodeSnapshot decodeMember
  cases listing.categories.isEmpty with
  | true => simp [find?_member_other, asInt, asArray, selection]
  | false =>
    simp [find?_member_other, asInt, selection, entries, categories, receivedSnapshot]

theorem decode_shown (listing : Inbox.Listing τ) (error : String)
    (receipt : Option MutationReceipt) :
    Client.CoreResponse.decode
        (({ shown listing with error, receipt } : Response τ).encode moments) =
      if listing.categories.isEmpty then none else some {
        ok := true
        error := if error.isEmpty then none else some error
        text := none
        snapshot := some (receivedSnapshot moments listing)
        receipt := receipt.map fun receipt => ⟨receipt.id, receipt.count⟩ } := by
  have decoded := @decode_encodeSnapshot τ moments listing
  have shape : ∀ json : Json, json = encodeSnapshot moments listing →
      nullable Client.BrowseSnapshot.decode json =
        (Client.BrowseSnapshot.decode (encodeSnapshot moments listing)).map some := by
    rintro _ rfl
    rfl
  have receipts : ∀ receipt : MutationReceipt,
      nullable Client.MutationReceipt.decode (encodeReceipt receipt) =
        some (some ⟨receipt.id, receipt.count⟩) := by
    intro receipt
    unfold nullable encodeReceipt Client.MutationReceipt.decode decodeMember
    simp [objectOf, JsonFormat.member, Json.find?, asString, asInt]
  unfold Client.CoreResponse.decode Response.encode decodeMember decodeIfPresent
  simp only [find?_member, find?_member_other, find?_memberUnless, find?_memberUnless_other,
    find?_memberIfSome, find?_memberIfSome_other, find?_objectOf_nil, ne_eq, String.reduceEq,
    not_false_eq_true, Option.bind_some, asBool, shown, Option.elim_some, shape, decoded]
  have texts : ∀ text, nullable asString (.string text) = some (some text) := fun _ => rfl
  cases none : listing.categories.isEmpty <;> cases silent : error.isEmpty <;> cases receipt <;>
    simp [texts, receipts]

end CoreAPI

/-! ## Alike -/

/-- An article without its link to comments. -/
def Client.Article.uncommented (article : Client.Article) : Client.Article :=
  { article with commentsURL := none }

/-- A category without its counts. -/
def Client.FeedCategory.uncounted (category : Client.FeedCategory) : Client.FeedCategory :=
  { category with
    unreadCount := 0
    feeds := category.feeds.map fun feed => { feed with unreadCount := 0 } }

/-- Received snapshots of the same articles, categories and feeds. This core's articles have
no link to comments. -/
structure SameShown (rust go : Client.BrowseSnapshot) : Prop where
  version : rust.version = go.version
  selection : rust.selection = go.selection
  entries : rust.entries = go.entries.map Client.Article.uncommented
  categories : rust.categories.map Client.FeedCategory.uncounted =
    go.categories.map Client.FeedCategory.uncounted

/-- Words for one failure, in the two cores. -/
def SameWords (words : RemoteError → String → Prop) (rust go : String) : Prop :=
  SameText words rust (.error go)

/-- Received responses that differ in their snapshots and in the words of an error at most. -/
structure SameReceived (words : RemoteError → String → Prop) (rust go : Client.CoreResponse) :
    Prop where
  ok : rust.ok = go.ok
  error : Option.Rel (SameWords words) rust.error go.error
  text : rust.text = go.text
  snapshot : Option.Rel SameShown rust.snapshot go.snapshot
  receipt : rust.receipt = go.receipt

/-- The error the client makes of a message. -/
def Client.GoCoreError.ofMessage (message : String) : Client.GoCoreError :=
  .core (if message.isEmpty then "Unknown Go core error" else message)

/-- What the client receives of the two cores: the same error, in the words of two libraries
or two drivers if it is the server's or the store's; or the same response. This core may also
refuse for a number out of range what the other one answers. -/
inductive ReceivedAlike (words : RemoteError → String → Prop) (texts : CoreAPI.Texts) :
    Except Client.GoCoreError Client.CoreResponse →
      Except (Option Client.GoCoreError) Client.CoreResponse → Prop where
  | refused (error : Client.GoCoreError) :
    ReceivedAlike words texts (.error error) (.error (some error))
  | remote {message text : String} : SameWords words message text →
    ReceivedAlike words texts (.error (.ofMessage message)) (.error (some (.ofMessage text)))
  | store (failure : StoreError) : ReceivedAlike words texts
      (.error (.ofMessage failure.message)) (.error (some (.ofMessage (texts.driver failure))))
  | answered {response response' : Client.CoreResponse} :
    SameReceived words response response' → ReceivedAlike words texts (.ok response) (.ok response')
  | unreadable {failure : StoreError}
      {received : Except (Option Client.GoCoreError) Client.CoreResponse} :
    Store.OutOfRange failure → received ≠ .error none →
      ReceivedAlike words texts (.error (.ofMessage failure.message)) received

section Wire
variable {σ τ α β : Type} {moments : Inbox.Moments τ} {texts : CoreAPI.Texts} {accountId : String}
  {words : RemoteError → String → Prop}
  (undecodable : String)

/-- What the client receives of the other core, and nothing of a process that is gone. -/
def CoreAPI.heard (moments : Inbox.Moments τ) (undecodable : String) :
    Option (CoreAPI.Response τ) → Except (Option Client.GoCoreError) Client.CoreResponse
  | none => .error none
  | some response => (Client.GoCore.received undecodable (response.encode moments)).mapError some

theorem receivedArticle_shown {entry : Entry}
    (written : moments.format (moments.parse entry.publishedAtRfc3339) = entry.publishedAtRfc3339) :
    receivedArticle entry =
      (CoreAPI.receivedArticle moments (Inbox.Entry.shown moments entry)).uncommented := by
  unfold receivedArticle CoreAPI.receivedArticle Client.Article.uncommented
  simp only [Inbox.Entry.shown, written]
  rfl

theorem receivedCategory_uncounted (category : Category) :
    (receivedCategory category).uncounted = receivedCategory category.uncounted := by
  unfold receivedCategory Client.FeedCategory.uncounted Category.uncounted
  simp only [List.map_map]
  rfl

/-- One list is received alike from both cores, but for the counts and the links to
comments. -/
theorem sameShown_of_lists {snapshot : SnapshotData} {listing : Inbox.Listing τ}
    (same : SameList moments snapshot listing) :
    SameShown (receivedSnapshot snapshot) (CoreAPI.receivedSnapshot moments listing) where
  version := same.versions.1.trans same.versions.2.symm
  selection := congrArg receivedSelection same.selection
  entries := by
    unfold receivedSnapshot CoreAPI.receivedSnapshot
    rw [same.entries, List.map_map, List.map_map]
    exact List.map_congr_left fun entry listed => receivedArticle_shown (same.written entry listed)
  categories := by
    unfold receivedSnapshot CoreAPI.receivedSnapshot
    have uncounted : Client.FeedCategory.uncounted ∘ receivedCategory =
        receivedCategory ∘ Category.uncounted := funext receivedCategory_uncounted
    rw [List.map_map, List.map_map, uncounted, ← List.map_map, ← List.map_map, same.categories]

/-- The words of a failure of the server are not left out, as an empty text is. -/
theorem rel_ofWords {error text : String} (worded : SameWords words error text) :
    Option.Rel (SameWords words) (if error.isEmpty then none else some error)
      (if text.isEmpty then none else some text) := by
  have labelled : ∀ label rest : String, (s!"{label}: {rest}").isEmpty = false := by
    intro label rest
    rw [Bool.eq_false_iff]
    intro empty
    have length := congrArg String.length (String.isEmpty_iff.mp empty)
    simp [String.length_append] at length
    exact absurd length.1.2 (by decide)
  cases worded with
  | own =>
    split
    · exact .none
    · exact .some (.own _)
  | server label worded =>
    rw [labelled, labelled, if_neg Bool.false_ne_true, if_neg Bool.false_ne_true]
    exact .some (.server label worded)

theorem received_shown {snapshot : SnapshotData} {listing : Inbox.Listing τ} {error text : String}
    (worded : SameWords words error text) (receipt : Option MutationReceipt)
    (same : SameList moments snapshot listing) :
    ReceivedAlike words texts
      (Client.GoCore.received undecodable (Response.encode { snapshotResponse snapshot with
        error, receipt := receipt.map fun receipt => ⟨receipt.id, receipt.count⟩ }))
      (CoreAPI.heard moments undecodable
        (some { CoreAPI.shown listing with error := text, receipt })) := by
  have decoded := @CoreAPI.decode_shown τ moments listing text receipt
  unfold CoreAPI.heard Client.GoCore.received
  dsimp only at decoded ⊢
  rw [decode_snapshotResponse, decoded]
  have filed : snapshot.categories.isEmpty = listing.categories.isEmpty := by
    have lengths := congrArg List.isEmpty same.categories
    simpa using lengths.symm
  rw [filed]
  cases listing.categories.isEmpty with
  | true => exact .refused _
  | false =>
    refine .answered ⟨rfl, rel_ofWords worded, rfl, .some (sameShown_of_lists same), ?_⟩
    cases receipt <;> rfl

theorem received_errorResponse (message : String) :
    Client.GoCore.received undecodable (errorResponse message).encode =
      .error (.ofMessage message) := by
  have texts : ∀ text, nullable asString (.string text) = some (some text) := fun _ => rfl
  have decoded : Client.CoreResponse.decode (errorResponse message).encode = some {
      ok := false
      error := if message.isEmpty then none else some message
      text := none
      snapshot := none
      receipt := none } := by
    unfold Client.CoreResponse.decode Response.encode decodeMember decodeIfPresent
    simp only [find?_member, find?_member_other, find?_memberUnless, find?_memberUnless_other,
      find?_memberIfSome, find?_memberIfSome_other, find?_objectOf_nil, ne_eq, String.reduceEq,
      not_false_eq_true, Option.bind_some, asBool, errorResponse]
    cases silent : message.isEmpty <;> simp [texts]
  unfold Client.GoCore.received
  rw [decoded]
  cases silent : message.isEmpty <;> simp [Client.GoCoreError.ofMessage, silent]

/-- An error of the other core is written as one of this core. -/
theorem heard_error (message : String) :
    CoreAPI.heard moments undecodable (some { error := message }) =
      .error (some (.ofMessage message)) := by
  have written : CoreAPI.Response.encode moments { error := message } =
      (errorResponse message).encode := rfl
  unfold CoreAPI.heard
  dsimp only
  rw [written, received_errorResponse]
  rfl

theorem received_done : ReceivedAlike words texts
    (Client.GoCore.received undecodable (Response.encode { ok := true }))
    (CoreAPI.heard moments undecodable (some { ok := true })) := by
  have received : Client.GoCore.received undecodable (Response.encode { ok := true }) =
      .ok ⟨true, none, none, none, none⟩ := rfl
  have heard : CoreAPI.heard moments undecodable (some { ok := true }) =
      .ok ⟨true, none, none, none, none⟩ := rfl
  rw [received, heard]
  exact .answered ⟨rfl, .none, rfl, .none, rfl⟩

/-! ## Operations -/

/-- The operations on articles. -/
def articleOperations : List String :=
  ["local_snapshot", "refresh", "set_read", "set_starred", "undo_read", "discard_undo",
    "flush_pending"]

/-- Two cores that, from worlds in step, answer the client alike and leave worlds in step. -/
def AnswerAlike (words : RemoteError → String → Prop) (moments : Inbox.Moments τ)
    (texts : CoreAPI.Texts) (accountId undecodable : String)
    (left : StateM (World σ) Response)
    (right : StateM (Inbox.World σ) (Option (CoreAPI.Response τ))) : Prop :=
  ∀ rust go, WorldsInStep moments accountId rust go →
    ReceivedAlike words texts (Client.GoCore.received undecodable (left rust).1.encode)
      (CoreAPI.heard moments undecodable (right go).1) ∧
    WorldsInStep moments accountId (left rust).2 (right go).2

/-- Calls of the services that end alike are answered alike, whatever the answer is made of.
-/
theorem answerAlike_respond {values : α → β → Prop} {left : SyncM σ α}
    {right : Inbox.ServiceM σ β} {answer : α → Response} {answer' : β → CoreAPI.Response τ}
    (same : Beside (WorldsInStep moments accountId) (Answers words values) left right)
    (alike : ∀ value value', values value value' →
      ReceivedAlike words texts (Client.GoCore.received undecodable (answer value).encode)
        (CoreAPI.heard moments undecodable (some (answer' value')))) :
    AnswerAlike words moments texts accountId undecodable (AppRuntime.respond left answer)
      (CoreAPI.respond texts right answer') := by
  intro rust go held
  obtain ⟨outcomes, kept⟩ := same rust go held
  unfold AppRuntime.respond CoreAPI.respond
  generalize left rust = ran at outcomes kept ⊢
  generalize right go = ran' at outcomes kept ⊢
  obtain ⟨outcome, after⟩ := ran
  obtain ⟨outcome', after'⟩ := ran'
  dsimp only at outcomes kept
  cases outcomes with
  | @failed message _ failing =>
    refine ⟨?_, kept⟩
    dsimp only
    rw [received_errorResponse]
    cases failing with
    | @remote _ failure worded =>
      cases failure with
      | error text =>
        have heard := @heard_error τ moments undecodable text
        exact heard.symm ▸ .remote worded
      | panicked => cases worded
    | store failure =>
      have heard := @heard_error τ moments undecodable (texts.driver failure)
      exact heard.symm ▸ .store failure
  | answered both => exact ⟨alike _ _ both, kept⟩
  | unreadable failing =>
    refine ⟨?_, kept⟩
    dsimp only
    rw [received_errorResponse]
    refine .unreadable failing ?_
    unfold CoreAPI.heard
    dsimp only
    generalize Client.GoCore.received undecodable _ = received
    cases received with
    | error failure => simp [Except.mapError]
    | ok response => simp [Except.mapError]

theorem answerAlike_error (message : String) :
    AnswerAlike words moments texts accountId undecodable
      (pure (errorResponse message) : StateM (World σ) Response) (pure (some { error := message })) := by
  intro rust go held
  refine ⟨?_, held⟩
  have written := @received_errorResponse undecodable message
  have heard := @heard_error τ moments undecodable message
  exact (written.symm ▸ heard.symm ▸ .refused _)

/-- Outcomes of one kind are answers. -/
theorem beside_answers {values : α → β → Prop} {left : SyncM σ α} {right : Inbox.ServiceM σ β}
    (same : Tandem (WorldsInStep moments accountId) (SameFailing words) values left right) :
    Beside (WorldsInStep moments accountId) (Answers words values) left right := by
  intro rust go held
  obtain ⟨outcomes, kept⟩ := same rust go held
  refine ⟨?_, kept⟩
  generalize (left rust).1 = outcome at outcomes ⊢
  generalize (right go).1 = outcome' at outcomes ⊢
  cases outcomes with
  | error failing => exact .failed failing
  | ok both => exact .answered both

section Handle
variable {service : SyncService σ} {other : Inbox.Service σ τ} {api : MinifluxApi σ}
  {client : GoMiniflux.Client σ τ} {goHost : Host} {capacity : Int}
  (one : OneServer service other api client goHost capacity words)
include one

theorem answerAlike_setRead (request : Request) :
    AnswerAlike words other.moments texts service.accountId undecodable
      (AppRuntime.setRead service request.selection request.entryId request.entryIds
        request.retainEntryIds request.read (request.mutationSource = "automatic"))
      (CoreAPI.setRead texts other request
        ⟨request.selection.kind, request.selection.id, request.selection.unreadOnly⟩) := by
  have each : ∀ ids : List Int, AnswerAlike words other.moments texts service.accountId undecodable
      (if ids.isEmpty then pure (errorResponse "missing entry IDs")
        else AppRuntime.respond (service.markRead request.selection.toDomain ids
          request.retainEntryIds request.read (request.mutationSource = "automatic"))
          fun answer => { snapshotResponse answer.1 with
            receipt := answer.2.map fun receipt => ⟨receipt.id, receipt.count⟩ })
      (if ids.length = 0 then pure (some { error := "missing entry IDs" })
        else CoreAPI.respond texts (other.markRead
          ⟨request.selection.kind, request.selection.id, request.selection.unreadOnly⟩ ids
          request.retainEntryIds request.read (request.mutationSource = "automatic"))
          fun answer => { CoreAPI.shown answer.1 with receipt := answer.2 }) := by
    intro ids
    cases ids with
    | nil => exact answerAlike_error undecodable _
    | cons id rest =>
      refine answerAlike_respond undecodable (beside_markRead one.timely one.surroundings
        request.selection.kind request.selection.id request.selection.unreadOnly request.retainEntryIds (id :: rest)
        request.read (request.mutationSource = "automatic")) ?_
      rintro ⟨snapshot, receipt⟩ ⟨listing, _⟩ ⟨same, rfl⟩
      exact received_shown undecodable (.own "") receipt same
  unfold AppRuntime.setRead CoreAPI.setRead
  -- both fall back on the one id of a request without a list of them
  cases request.entryIds with
  | nil => exact each (if (true && decide (0 < request.entryId)) = true then [request.entryId] else [])
  | cons id rest => exact each (id :: rest)

theorem answerAlike_refresh (selection : WireSelection) (retainEntryIds : List Int) :
    AnswerAlike words other.moments texts service.accountId undecodable
      (AppRuntime.refresh service selection retainEntryIds)
      (CoreAPI.refresh texts other
        ⟨selection.kind, selection.id, selection.unreadOnly⟩ retainEntryIds) := by
  refine answerAlike_respond undecodable (beside_sync one selection.kind selection.id
    selection.unreadOnly retainEntryIds) ?_
  intro result answer same
  cases same with
  | success same => exact received_shown undecodable (.own "") none same
  | @partly snapshot listing message failure worded same =>
    have numbered : 0 < listing.version := by
      have version := same.versions.2
      omega
    cases failure with
    | error text =>
      have shown := @received_shown τ other.moments texts words undecodable snapshot listing message
        text worded none same
      dsimp only
      rw [if_pos numbered]
      exact shown
    | panicked => cases worded

/-- An operation on articles is answered alike, by cases on its name. -/
theorem answerAlike_handle (request : Request) (listed : request.operation ∈ articleOperations) :
    ∃ operation, request.intoOperation = .ok operation ∧
      AnswerAlike words other.moments texts service.accountId undecodable (AppRuntime.dispatch service operation)
        (CoreAPI.handle texts other request) := by
  have shown : ∀ (snapshot : SnapshotData) (listing : Inbox.Listing τ),
      SameList other.moments snapshot listing →
      ReceivedAlike words texts (Client.GoCore.received undecodable (snapshotResponse snapshot).encode)
        (CoreAPI.heard other.moments undecodable (some (CoreAPI.shown listing))) :=
    fun _ _ same => received_shown undecodable (.own "") none same
  simp only [articleOperations, List.mem_cons, List.not_mem_nil, or_false] at listed
  unfold Request.intoOperation CoreAPI.handle
  rcases listed with asked | asked | asked | asked | asked | asked | asked <;> rw [asked]
  · exact ⟨_, rfl, answerAlike_respond undecodable (beside_localSnapshotUntil one.timely one.surroundings
      request.selection.kind request.selection.id request.selection.unreadOnly
      request.retainEntryIds) shown⟩
  · exact ⟨_, rfl, answerAlike_refresh undecodable one request.selection request.retainEntryIds⟩
  · exact ⟨_, rfl, answerAlike_setRead undecodable one request⟩
  · exact ⟨_, rfl, answerAlike_respond undecodable (beside_setStarred one.timely one.surroundings
      request.selection.kind request.selection.id request.selection.unreadOnly
      request.retainEntryIds request.entryId request.desiredStarred) shown⟩
  · exact ⟨_, rfl, answerAlike_respond undecodable (beside_undo one.timely one.surroundings
      request.selection.kind request.selection.id request.selection.unreadOnly
      request.retainEntryIds request.mutationId) shown⟩
  · exact ⟨_, rfl, answerAlike_respond undecodable (beside_answers (tandem_discardUndo one.timely
      one.surroundings request.mutationId)) fun _ _ _ => received_done undecodable⟩
  · exact ⟨_, rfl, answerAlike_respond undecodable (beside_flushAndSnapshot one
      request.selection.kind request.selection.id request.selection.unreadOnly
      request.retainEntryIds) shown⟩

/-- `GoCore.request` over the other core. -/
def GoCore.requestOther (texts : CoreAPI.Texts) (engine : Inbox.Service σ τ) (undecodable : String)
    (request : Client.CoreRequest) (world : Inbox.World σ) :
    Except (Option Client.GoCoreError) Client.CoreResponse × Inbox.World σ :=
  let (response, world) := CoreAPI.handle texts engine
    (Request.unmarshal (objectMembers request.encode)) world
  (CoreAPI.heard engine.moments undecodable response, world)

/-- A request of the client is answered alike, from its encoding to the response it decodes.
-/
theorem answerAlike_request (errors : JsonErrors) {request : Client.CoreRequest}
    (fits : request.Fits) (listed : request.operation ∈ articleOperations) :
    AnswerAlike words other.moments texts service.accountId undecodable
      (handleJson service errors request.encode)
      (CoreAPI.handle texts other (Request.unmarshal (objectMembers request.encode))) := by
  have read := parseRequest_encode fits
  have asked := operation_of_parseRequest read
  obtain ⟨operation, into, alike⟩ := @answerAlike_handle _ _ texts words undecodable _ _ _ _ _ _ one
    (Request.unmarshal (objectMembers request.encode)) (asked.symm ▸ listed)
  have handled : handleJson service errors request.encode = AppRuntime.dispatch service operation := by
    have object : request.encode = .object (objectMembers request.encode) := rfl
    unfold handleJson
    rw [object] at read ⊢
    dsimp only
    rw [read]
    dsimp only
    rw [← object, into]
  rw [handled]
  exact alike

theorem beside_request (errors : JsonErrors) {request : Client.CoreRequest}
    (fits : request.Fits) (listed : request.operation ∈ articleOperations) :
    Beside (WorldsInStep other.moments service.accountId) (ReceivedAlike words texts)
      (GoCore.request service errors request)
      (GoCore.requestOther texts other errors.undecodable request) := by
  intro rust go held
  have alike := @answerAlike_request _ _ texts words errors.undecodable _ _ _ _ _ _ one errors
    request fits listed rust go held
  unfold GoCore.request GoCore.requestOther
  generalize handleJson service errors request.encode rust = ran at alike ⊢
  generalize CoreAPI.handle texts other (Request.unmarshal (objectMembers request.encode)) go = ran'
    at alike ⊢
  exact alike

end Handle

end Wire

/-- Texts of a driver that words what goes wrong as this core does. -/
def plainTexts : CoreAPI.Texts := ⟨StoreError.message, id⟩

/-- The client refreshes, marks the article read and flushes. -/
def markedRequests : List Client.CoreRequest := [
  { operation := "refresh" }, { operation := "set_read", entryID := some 7, read := some true },
  { operation := "flush_pending" }]

theorem markedRequests_fit : ∀ request ∈ markedRequests, request.Fits := by
  have seven : InI64 7 := by decide
  simp only [markedRequests, List.forall_mem_cons]
  exact ⟨⟨by simp, by simp, by simp, by simp⟩, ⟨by simp, by simpa using seven, by simp, by simp⟩,
    ⟨by simp, by simp, by simp, by simp⟩, by simp⟩

end FluxBar
